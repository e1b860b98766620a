/-!
# Reading numbers

The nearest double precision number of a decimal. Exponents far outside the range are settled
before any power of ten is formed, so the work is bounded by the length of the digits.
-/

namespace GrantConfig.Decimal

/-- The value of a digit in a base of at most sixteen. -/
def digitValue? (base : Nat) (c : Char) : Option Nat :=
  let n := c.toNat
  let value? : Option Nat :=
    if '0' ≤ c ∧ c ≤ '9' then some (n - 48)
    else if 'a' ≤ c ∧ c ≤ 'f' then some (n - 87)
    else if 'A' ≤ c ∧ c ≤ 'F' then some (n - 55)
    else none
  value?.filter (· < base)

/-- The number that a non-empty run of digits writes in a base. -/
def natural? (base : Nat) (cs : List Char) : Option Nat :=
  if cs.isEmpty then none
  else cs.foldl (fun acc c => do return (← acc) * base + (← digitValue? base c)) (some 0)

/-- The number that digits in a base write, with an optional sign before them. -/
def integer? (base : Nat) : List Char → Option Int
  | '+' :: cs => (natural? base cs).map Int.ofNat
  | '-' :: cs => (natural? base cs).map fun n => -(n : Int)
  | cs => (natural? base cs).map Int.ofNat

/-- Whether a number is a signed integer of 64 bits. -/
def fitsInt64 (n : Int) : Bool := -Int.pow 2 63 ≤ n ∧ n < Int.pow 2 63

/-- A signed 64-bit integer as digits in a base write it. -/
def int64? (base : Nat) (cs : List Char) : Option Int := (integer? base cs).filter fitsInt64

/-- Positive infinity. -/
def infinity : Float := 1.0 / 0.0

/-- The number that is not one. -/
def notANumber : Float := 0.0 / 0.0

/-- The double nearest to `digits * 10 ^ exponent`. -/
def toFloat (digits : Nat) (exponent : Int) : Float :=
  if digits = 0 then 0.0
  else
    let point : Int := (toString digits).length + exponent
    if point > 310 then infinity
    else if point < -330 then 0.0
    else if 0 ≤ exponent then Float.ofScientific digits false exponent.toNat
    else Float.ofScientific digits true (-exponent).toNat

/-- Decimal digits, a fraction and an exponent, as they stand in a number. -/
structure Parts where
  whole : List Char
  fraction : List Char
  exponent : Int

/-- Split a number at its point and its exponent mark. Digits may be missing on one side of the
point, but not on both. -/
def parts? (cs : List Char) : Option Parts := do
  let isMark (c : Char) : Bool := c = 'e' || c = 'E'
  let mantissa := cs.takeWhile fun c => !isMark c
  let whole := mantissa.takeWhile (· ≠ '.')
  let fraction := (mantissa.dropWhile (· ≠ '.')).drop 1
  guard ((whole ++ fraction).all fun c => '0' ≤ c && c ≤ '9')
  guard (!(whole.isEmpty && fraction.isEmpty))
  match cs.dropWhile fun c => !isMark c with
  | [] => return ⟨whole, fraction, 0⟩
  | _ :: power => return ⟨whole, fraction, ← integer? 10 power⟩

/-- The double that a number without sign writes, point and exponent optional. -/
def unsignedFloat? (cs : List Char) : Option Float := do
  let p ← parts? cs
  return toFloat (← natural? 10 (p.whole ++ p.fraction)) (p.exponent - p.fraction.length)

/-- The double that a text writes: a number with an optional sign, or an infinity or NaN by name
in any letter case. -/
def float? (cs : List Char) : Option Float :=
  let (negative, body) :=
    match cs with
    | '-' :: rest => (true, rest)
    | '+' :: rest => (false, rest)
    | _ => (false, cs)
  let name := String.ofList (body.map Char.toLower)
  let size : Option Float :=
    if name = "inf" ∨ name = "infinity" then some infinity
    else if name = "nan" then some notANumber
    else unsignedFloat? body
  size.map fun x => if negative then -x else x

end GrantConfig.Decimal
