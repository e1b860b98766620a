import GrantConfig.Text.Utf8

/-!
# Percent encoding

A character that a component may not hold is replaced by its bytes, each as a percent sign and
two uppercase hexadecimal digits. Decoding accepts digits of either case and lets a percent sign
stand that does not begin an encoded byte.
-/

namespace GrantConfig.Uri.Percent

open GrantConfig.Text

/-- An uppercase hexadecimal digit. -/
def hexDigit (n : Nat) : Char := if n < 10 then Char.ofNat (48 + n) else Char.ofNat (55 + n)

/-- The value of a hexadecimal digit. -/
def hexValue? (c : Char) : Option Nat :=
  if '0' ≤ c ∧ c ≤ '9' then some (c.toNat - 48)
  else if 'a' ≤ c ∧ c ≤ 'f' then some (c.toNat - 87)
  else if 'A' ≤ c ∧ c ≤ 'F' then some (c.toNat - 55)
  else none

/-- An encoded byte. -/
def encodeByte (b : UInt8) : List Char :=
  ['%', hexDigit (b.toNat / 16), hexDigit (b.toNat % 16)]

/-- A character that is kept, or its encoded bytes. -/
def encodeChar (keep : Char → Bool) (c : Char) : List Char :=
  if keep c then [c] else (Utf8.encodeChar c).flatMap encodeByte

/-- Encode every character that is not kept. -/
def encode (keep : Char → Bool) (cs : List Char) : List Char := cs.flatMap (encodeChar keep)

/-- The bytes of a text with its encoded bytes resolved. -/
def decode : List Char → List UInt8
  | [] => []
  | '%' :: a :: b :: rest =>
    match hexValue? a, hexValue? b with
    | some m, some n => (16 * m + n).toUInt8 :: decode rest
    | _, _ => (37 : UInt8) :: decode (a :: b :: rest)
  | c :: rest => Utf8.encodeChar c ++ decode rest

/-- Printable characters of the ASCII range. -/
def isVisible (c : Char) : Bool := 0x20 ≤ c.toNat && c.toNat < 0x7F

/-- Characters that a fragment holds unencoded. -/
def inFragment (c : Char) : Bool :=
  isVisible c && !(c = ' ' || c = '"' || c = '<' || c = '>' || c = '\x60')

/-- Characters that a path holds unencoded. -/
def inPath (c : Char) : Bool :=
  inFragment c && !(c = '#' || c = '?' || c = '{' || c = '}')

/-- Characters that a user name or a password holds unencoded. -/
def inUserInfo (c : Char) : Bool :=
  inPath c && !(c = '/' || c = ':' || c = ';' || c = '=' || c = '@' || c = '[' || c = '\\' ||
    c = ']' || c = '^' || c = '|')

/-- Characters that a query holds unencoded; an apostrophe is encoded in special schemes. -/
def inQuery (special : Bool) (c : Char) : Bool :=
  isVisible c && !(c = ' ' || c = '"' || c = '#' || c = '<' || c = '>' || (special && c = '\''))

end GrantConfig.Uri.Percent
