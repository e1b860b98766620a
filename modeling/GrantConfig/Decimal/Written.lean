import GrantConfig.Decimal.Shortest

/-!
# Written numbers

Two ways of writing a floating point number: always positionally, and positionally only within a
window of exponents. Both write the shortest digits that read back.
-/

namespace GrantConfig.Decimal

/-- How a number is written. -/
structure Style where
  /-- Positions of the decimal point, counted from the first digit, for which no exponent is
  written; all of them when absent. -/
  window : Option (Int × Int)
  /-- Whether a whole number ends in a point and a zero. -/
  tenths : Bool
  tie : Tie

/-- Numbers as texts of settings: never an exponent, and whole numbers without a point. -/
def Style.plain : Style := ⟨none, false, .up⟩

/-- Numbers as JSON literals: whole numbers keep a zero after the point, and an exponent has a
sign and at least two digits. -/
def Style.literal : Style := ⟨some (-4, 16), true, .even⟩

/-- Digits with the decimal point after the first `point` of them. -/
def positional (tenths : Bool) (digits : String) (point : Int) : String :=
  let count : Int := digits.length
  if count ≤ point then
    digits ++ "".pushn '0' (point - count).toNat ++ (if tenths then ".0" else "")
  else if 0 < point then
    let cs := digits.toList
    String.ofList (cs.take point.toNat) ++ "." ++ String.ofList (cs.drop point.toNat)
  else "0." ++ "".pushn '0' (-point).toNat ++ digits

/-- Digits with a power of ten. -/
def withExponent (digits : String) (point : Int) : String :=
  let mantissa :=
    match digits.toList with
    | [] => ""
    | [d] => String.ofList [d]
    | d :: rest => String.ofList (d :: '.' :: rest)
  let power := point - 1
  let size := toString power.natAbs
  mantissa ++ (if power < 0 then "e-" else "e+") ++ (if size.length < 2 then "0" else "") ++ size

/-- A positive decimal in a style. -/
def Style.write (style : Style) (d : Decimal) : String :=
  let digits := toString d.digits
  let point : Int := digits.length + d.exponent
  match style.window with
  | none => positional style.tenths digits point
  | some (least, most) =>
    if least ≤ point ∧ point ≤ most then positional style.tenths digits point
    else withExponent digits point

/-- A floating point number in a style; the sign of zero is kept. -/
def Style.writeFloat (style : Style) (x : Float) : String :=
  match Binary.ofFloat x with
  | .nan => "NaN"
  | .infinite negative => if negative then "-inf" else "inf"
  | .finite negative m q =>
    let size :=
      if m = 0 then (if style.tenths then "0.0" else "0") else style.write (shortest style.tie m q)
    (if negative then "-" else "") ++ size

end GrantConfig.Decimal
