/-!
# Shortest decimals

The decimal with the fewest digits that reads back as a given binary floating point number. A
finite positive number is `m * 2 ^ q`; every decimal in the interval of reals that round to it
reads back, and the ends belong to the interval exactly when `m` is even. For one digit, two
digits and so on, the two neighbours of the number on that decimal grid are tested in exact
arithmetic, and the first grid with a hit wins. Of two hits the nearer one is taken.
-/

namespace GrantConfig

/-- The number `digits * 10 ^ exponent`. -/
structure Decimal where
  digits : Nat
  exponent : Int
deriving DecidableEq, Repr

namespace Decimal

/-- A floating point number by kind; a finite one is `±m * 2 ^ q`. -/
inductive Binary where
  | nan
  | infinite (negative : Bool)
  | finite (negative : Bool) (m : Nat) (q : Int)
deriving DecidableEq, Repr

/-- The parts of a double precision number. -/
def Binary.ofFloat (x : Float) : Binary :=
  let bits : Nat := x.toBits.toNat
  let negative := bits / Nat.pow 2 63 == 1
  let exponent : Nat := bits / Nat.pow 2 52 % Nat.pow 2 11
  let fraction : Nat := bits % Nat.pow 2 52
  if exponent = 2047 then
    if fraction = 0 then .infinite negative else .nan
  else if exponent = 0 then .finite negative fraction (-1074)
  else .finite negative (fraction + Nat.pow 2 52) ((exponent : Int) - 1075)

/-- The fraction `n * base ^ e` as numerator and denominator. -/
def scale (n base : Nat) (e : Int) : Nat × Nat :=
  if 0 ≤ e then (n * base.pow e.toNat, 1) else (n, base.pow (-e).toNat)

/-- Whether `10 ^ e ≤ m * 2 ^ q`. -/
def tenPowLe (e : Int) (m : Nat) (q : Int) : Bool :=
  let (n, d) := scale m 2 q
  let (tn, td) := scale 1 10 e
  tn * d ≤ n * td

/-- The exponent of the leading decimal digit of `m * 2 ^ q`. -/
def leadingExponent (m : Nat) (q : Int) : Int :=
  let guess := ((m.log2 : Int) + q) * 30103 / 100000
  if tenPowLe (guess + 1) m q then guess + 1
  else if tenPowLe guess m q then guess
  else guess - 1

/-- How a tie between the two neighbours on a grid is settled. -/
inductive Tie where
  | up
  | even
deriving DecidableEq, Repr

/-- The neighbour of `m * 2 ^ q` on the grid of multiples of `10 ^ e` that reads back, if one
does. -/
def onGrid (tie : Tie) (m : Nat) (q : Int) (e : Int) : Option Nat :=
  -- All quantities are multiplied by four, so that the ends of the interval are whole.
  let low := if m = Nat.pow 2 52 ∧ q > -1074 then 4 * m - 1 else 4 * m - 2
  let high := 4 * m + 2
  let (bn, bd) := scale 1 2 (q - 2)
  let (tn, td) := scale 1 10 e
  -- `x / unit` is a multiple of `10 ^ e` in quarters of the last place.
  let num := bn * td
  let unit := bd * tn
  let below := 4 * m * num / unit
  let reads (k : Nat) : Bool :=
    if m % 2 = 0 then low * num ≤ k * unit ∧ k * unit ≤ high * num
    else low * num < k * unit ∧ k * unit < high * num
  let above := below + 1
  let twice := 2 * (4 * m * num)
  let middle := (below + above) * unit
  if below > 0 ∧ reads below then
    if reads above ∧ (twice > middle ∨ (twice = middle ∧ (tie = .up ∨ below % 2 = 1))) then
      some above
    else some below
  else if reads above then some above
  else none

/-- Search the grids of `count` digits and more. -/
def shortestFrom (tie : Tie) (m : Nat) (q lead : Int) : (grids : Nat) → (count : Nat) → Decimal
  | 0, count => ⟨0, lead - count⟩
  | grids + 1, count =>
    let e := lead - count
    match onGrid tie m q e with
    | some k => ⟨k, e⟩
    | none => shortestFrom tie m q lead grids (count + 1)

/-- A decimal without zeros at the end of its digits. -/
def dropZeros : (fuel : Nat) → Decimal → Decimal
  | 0, d => d
  | fuel + 1, d =>
    if d.digits ≠ 0 ∧ d.digits % 10 = 0 then dropZeros fuel ⟨d.digits / 10, d.exponent + 1⟩ else d

/-- The shortest decimal that reads back as `m * 2 ^ q`, for a positive `m`. -/
def shortest (tie : Tie) (m : Nat) (q : Int) : Decimal :=
  dropZeros 20 (shortestFrom tie m q (leadingExponent m q) 18 0)

end Decimal

end GrantConfig
