import GrantConfig.Text.Split
import GrantConfig.Uri.Percent

/-!
# Form encoding

Pairs of names and values as a query writes them: joined by `&`, each with `=` between name and
value. Only ASCII letters, digits and `*`, `-`, `.`, `_` stand unencoded, and a space is written
as a plus sign. Reading skips empty pieces and takes a piece without `=` as a name.
-/

namespace GrantConfig.Uri.Form

open GrantConfig.Text

/-- Characters that stand unencoded. -/
def isPlain (c : Char) : Bool :=
  ('0' ≤ c && c ≤ '9') || ('a' ≤ c && c ≤ 'z') || ('A' ≤ c && c ≤ 'Z') ||
    c = '*' || c = '-' || c = '.' || c = '_'

/-- An encoded character. -/
def encodeChar (c : Char) : List Char := if c = ' ' then ['+'] else Percent.encodeChar isPlain c

/-- An encoded name or value. -/
def encodeText (s : String) : List Char := s.toList.flatMap encodeChar

/-- One encoded pair. -/
def encodePair (pair : String × String) : List Char :=
  encodeText pair.1 ++ '=' :: encodeText pair.2

/-- A query with pairs put behind those it has. -/
def append (query : List Char) : List (String × String) → List Char
  | [] => query
  | pair :: rest =>
    append (if query.isEmpty then encodePair pair else query ++ '&' :: encodePair pair) rest

/-- A decoded name or value. -/
def decodeText (cs : List Char) : String :=
  String.ofList <| Utf8.decodeLossy <| Percent.decode <|
    cs.map fun c => if c = '+' then ' ' else c

/-- The pair that a piece between two `&` writes. -/
def decodePair (piece : List Char) : String × String :=
  match cutFirst '=' piece with
  | some (name, value) => (decodeText name, decodeText value)
  | none => (decodeText piece, "")

/-- The pairs of a query in their order. -/
def pairs (query : List Char) : List (String × String) :=
  ((pieces (· = '&') query).filter fun piece => !piece.isEmpty).map decodePair

end GrantConfig.Uri.Form
