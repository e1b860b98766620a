import GrantConfig.Decimal.Reading
import GrantConfig.Yaml.Cursor

/-!
# YAML tags

A tag is a handle with a suffix. The handle is written before the tag and may be declared by a
directive at the start of a document. Characters of suffixes may be percent-encoded byte by byte;
the bytes of one character are then put next to one another as they are.
-/

namespace GrantConfig.Yaml

/-- A tag as it is written. -/
structure Tag where
  handle : String
  suffix : String
deriving DecidableEq, Repr

/-- Characters of URIs. -/
def isUriChar (c : Char) : Bool := isWord c || "#;/?:@&=+$,_.!~*'()[]%".contains c

/-- Characters of the suffix of a tag. -/
def isTagChar (c : Char) : Bool := isUriChar c && !isFlow c && c ≠ '!'

/-- A percent-encoded byte and what follows it. -/
def escapedByte? : List Char → Option (Nat × List Char)
  | '%' :: a :: b :: rest => (Decimal.natural? 16 [a, b]).map fun n => (n, rest)
  | _ => none

/-- Read `n` more bytes of a percent-encoded character. -/
def escapedTail? : (n : Nat) → (code : Nat) → List Char → Option (Nat × List Char)
  | 0, code, cs => some (code, cs)
  | n + 1, code, cs => do
    let (byte, rest) ← escapedByte? cs
    guard (0x80 ≤ byte ∧ byte < 0xC0)
    escapedTail? n (code * 0x100 + byte) rest

/-- A percent-encoded character and what follows it. -/
def escapedChar? (cs : List Char) : Option (Char × List Char) := do
  let (first, rest) ← escapedByte? cs
  let more ←
    if first < 0x80 then some 0
    else if 0xC0 ≤ first ∧ first < 0xE0 then some 1
    else if 0xE0 ≤ first ∧ first < 0xF0 then some 2
    else if 0xF0 ≤ first ∧ first < 0xF8 then some 3
    else none
  let (code, rest) ← escapedTail? more first rest
  guard (code < 0xD800 ∨ (0xE000 ≤ code ∧ code < 0x110000))
  return (Char.ofNat code, rest)

/-- The run of characters that satisfy a test, decoded, and what follows it. -/
def uriRun? (p : Char → Bool) : (fuel : Nat) → List Char → Option (List Char × List Char)
  | 0, _ => none
  | _, [] => some ([], [])
  | fuel + 1, c :: rest =>
    if !p c then some ([], c :: rest)
    else if c = '%' then do
      let (x, rest) ← escapedChar? (c :: rest)
      let (run, rest) ← uriRun? p fuel rest
      return (x :: run, rest)
    else (uriRun? p fuel rest).map fun (run, rest) => (c :: run, rest)

/-- A handle and what follows it: a mark, letters, and a second mark. The handle of a directive
must end in a mark. -/
def handle? (directive : Bool) : List Char → Option (List Char × List Char)
  | '!' :: cs =>
    let name := cs.takeWhile isWord
    match cs.dropWhile isWord with
    | '!' :: rest => some ('!' :: name ++ ['!'], rest)
    | rest => if directive && !name.isEmpty then none else some ('!' :: name, rest)
  | _ => none

/-- What a directive declares a handle to stand for, and what follows it. -/
def handleMeaning? (cs : List Char) : Option (List Char × List Char) := do
  match cs with
  | '!' :: rest =>
    let (run, rest) ← uriRun? isUriChar (rest.length + 1) rest
    return ('!' :: run, rest)
  | c :: _ =>
    guard (isTagChar c)
    uriRun? isUriChar (cs.length + 1) cs
  | [] => none

/-- A tag and what follows it. -/
def Tag.scan? (cs : List Char) : Option (Tag × List Char) := do
  match cs with
  | '!' :: '<' :: rest =>
    let (run, rest) ← uriRun? isUriChar (rest.length + 1) rest
    guard (rest.head? = some '>')
    return (⟨"", String.ofList run⟩, rest.drop 1)
  | _ =>
    let (handle, rest) ← handle? false cs
    let (run, rest) ← uriRun? isTagChar (rest.length + 1) rest
    if 2 ≤ handle.length ∧ handle.getLast? = some '!' then
      return (⟨String.ofList handle, String.ofList run⟩, rest)
    else
      let suffix := handle.drop 1 ++ run
      return (if suffix.isEmpty then ⟨"", "!"⟩ else ⟨"!", String.ofList suffix⟩, rest)

end GrantConfig.Yaml
