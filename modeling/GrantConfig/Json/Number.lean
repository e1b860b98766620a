import GrantConfig.Decimal.Reading
import GrantConfig.Decimal.Written

/-!
# JSON numbers

A number literal is a natural number or a negative integer of 64 bits when it has neither point
nor exponent and fits, and a floating point number otherwise. A floating point number is formed
from at most 64 bits of leading digits and one scaling by a power of ten, so its last bit may
differ from that of the nearest number. Literals too large for a double are refused.
-/

namespace GrantConfig.Json

/-- The value of a number literal. -/
inductive Number where
  | natural (n : Nat)
  | negative (n : Int)
  | float (x : Float)

namespace Number

/-- The greatest value of the leading digits. -/
def digitsLimit : Nat := Nat.pow 2 64 - 1

/-- Append one digit, unless the limit would be passed. -/
def pushDigit? (n digit : Nat) : Option Nat :=
  if n * 10 + digit ≤ digitsLimit then some (n * 10 + digit) else none

/-- Read digits up to the limit; `count` digits were taken. -/
def takeDigits (n count : Nat) : List Char → Nat × Nat × List Char
  | [] => (n, count, [])
  | c :: rest =>
    match (Decimal.digitValue? 10 c).bind (pushDigit? n) with
    | some m => takeDigits m (count + 1) rest
    | none => (n, count, c :: rest)

/-- Whether a character is a decimal digit. -/
def isDigit (c : Char) : Bool := (Decimal.digitValue? 10 c).isSome

/-- The power of ten nearest to `10 ^ e`, for `e` up to 308. -/
def tenPow (e : Nat) : Float := Float.ofScientific 1 false e

/-- Divide by `1e308` as long as the exponent is below -308; nothing is left of a number that
needs more divisions than the fuel allows. -/
def scaleDown : (fuel : Nat) → Float → Int → Float
  | 0, _, _ => 0.0
  | fuel + 1, x, e =>
    if -308 ≤ e then x / tenPow (-e).toNat
    else if x == 0.0 then x
    else scaleDown fuel (x / tenPow 308) (e + 308)

/-- The double `digits * 10 ^ e`, by one multiplication or division where that is possible. -/
def scaled? (digits : Nat) (e : Int) : Option Float :=
  let x := Float.ofNat digits
  if e < 0 then some (scaleDown 8 x e)
  else if 308 < e then (if digits = 0 then some x else none)
  else
    let y := x * tenPow e.toNat
    if y.isInf then none else some y

/-- The exponent part after its mark, and the rest. -/
def exponent? (cs : List Char) : Option (Int × List Char) :=
  let (minus, body) :=
    match cs with
    | '+' :: rest => (false, rest)
    | '-' :: rest => (true, rest)
    | _ => (false, cs)
  (Decimal.natural? 10 (body.takeWhile isDigit)).map fun n =>
    (if minus then -(n : Int) else n, body.dropWhile isDigit)

/-- Finish a floating point number whose leading digits are known. -/
def finishFloat (digits : Nat) (shift : Int) (cs : List Char) : Option (Float × List Char) := do
  match cs with
  | 'e' :: rest | 'E' :: rest =>
    let (e, rest) ← exponent? rest
    return (← scaled? digits (shift + e), rest)
  | _ => return (← scaled? digits shift, cs)

/-- Read a fraction after its point. -/
def fraction (digits : Nat) (shift : Int) (cs : List Char) : Option (Float × List Char) :=
  match cs with
  | [] => none
  | c :: _ =>
    if isDigit c then
      let (n, count, rest) := takeDigits digits 0 cs
      finishFloat n (shift - count) (rest.dropWhile isDigit)
    else none

/-- Read a literal without its sign, as leading digits or as a floating point number. -/
def readUnsigned (cs : List Char) : Option ((Nat ⊕ Float) × List Char) := do
  match cs with
  | '0' :: c :: _ => guard !(isDigit c)
  | c :: _ => guard (isDigit c)
  | [] => none
  let (n, _, rest) := takeDigits 0 0 cs
  let extra := rest.takeWhile isDigit
  match rest.dropWhile isDigit with
  | '.' :: more =>
    let (x, rest) ← fraction n extra.length more
    return (.inr x, rest)
  | more@('e' :: _) | more@('E' :: _) =>
    let (x, rest) ← finishFloat n extra.length more
    return (.inr x, rest)
  | more =>
    if extra.isEmpty then return (.inl n, more)
    else return (.inr (← scaled? n extra.length), more)

/-- Read a number literal and give the rest of the text. -/
def read? (cs : List Char) : Option (Number × List Char) := do
  match cs with
  | '-' :: rest =>
    let (value, rest) ← readUnsigned rest
    match value with
    | .inr x => return (.float (-x), rest)
    | .inl n =>
      if 0 < n ∧ n ≤ Nat.pow 2 63 then return (.negative (-(n : Int)), rest)
      else return (.float (-(Float.ofNat n)), rest)
  | _ =>
    let (value, rest) ← readUnsigned cs
    match value with
    | .inr x => return (.float x, rest)
    | .inl n => return (.natural n, rest)

/-- The text of a number. -/
def text : Number → String
  | .natural n => toString n
  | .negative n => toString n
  | .float x => Decimal.Style.literal.writeFloat x

end Number

end GrantConfig.Json
