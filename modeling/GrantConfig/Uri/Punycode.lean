/-!
# Punycode

The ASCII form of a label that holds other characters. The ASCII characters of the label come
first, then a hyphen if there are any, then the insertions of the others as generalized
variable-length integers whose digits adapt to the size of the steps.
-/

namespace GrantConfig.Uri.Punycode

/-- How the bias follows from the size of a step. -/
def adapt (delta count : Nat) (first : Bool) : Nat :=
  let start := if first then delta / 700 else delta / 2
  let rec settle : (fuel : Nat) → (k delta : Nat) → Nat
    | 0, k, _ => k
    | fuel + 1, k, delta =>
      if delta > 455 then settle fuel (k + 36) (delta / 35) else k + 36 * delta / (delta + 38)
  settle 64 0 (start + start / count)

/-- The least digit that ends a number at a position. -/
def threshold (k bias : Nat) : Nat :=
  if k ≤ bias then 1 else if bias + 26 ≤ k then 26 else k - bias

/-- The digit character of a value below 36. -/
def digitChar (d : Nat) : Char := if d < 26 then Char.ofNat (97 + d) else Char.ofNat (22 + d)

/-- The value of a digit character. -/
def digitValue? (c : Char) : Option Nat :=
  if 'a' ≤ c ∧ c ≤ 'z' then some (c.toNat - 97)
  else if 'A' ≤ c ∧ c ≤ 'Z' then some (c.toNat - 65)
  else if '0' ≤ c ∧ c ≤ '9' then some (c.toNat - 22)
  else none

/-- The greatest number that a label may carry. -/
def limit : Nat := Nat.pow 2 32 - 1

/-- The digits of one step. -/
def encodeNumber (bias : Nat) : (fuel : Nat) → (k q : Nat) → List Char
  | 0, _, _ => []
  | fuel + 1, k, q =>
    let t := threshold k bias
    if q < t then [digitChar q]
    else digitChar (t + (q - t) % (36 - t)) :: encodeNumber bias fuel (k + 36) ((q - t) / (36 - t))

/-- Where the encoder stands. -/
structure Encoder where
  delta : Nat
  bias : Nat
  handled : Nat
  basic : Nat
  output : List Char

/-- Walk the label once for the code point `n` and write a step at each of its places. -/
def encodePass (n : Nat) (state : Encoder) : List Nat → Encoder
  | [] => state
  | c :: rest =>
    if c < n then encodePass n { state with delta := state.delta + 1 } rest
    else if c = n then
      encodePass n
        { state with
          delta := 0
          bias := adapt state.delta (state.handled + 1) (state.handled = state.basic)
          handled := state.handled + 1
          output := state.output ++ encodeNumber state.bias 64 36 state.delta } rest
    else encodePass n state rest

/-- Walk the label for each code point from `n` on in ascending order. -/
def encodeFrom (label : List Nat) : (fuel : Nat) → (n : Nat) → Encoder → List Char
  | 0, _, state => state.output
  | fuel + 1, n, state =>
    match (label.filter (n ≤ ·)).min? with
    | none => state.output
    | some m =>
      let state := { state with delta := state.delta + (m - n) * (state.handled + 1) }
      let state := encodePass m state label
      encodeFrom label fuel (m + 1) { state with delta := state.delta + 1 }

/-- The ASCII form of a label. -/
def encode (label : List Char) : List Char :=
  let basic := label.filter fun c => c.toNat < 0x80
  let head := if basic.isEmpty then [] else basic ++ ['-']
  encodeFrom (label.map Char.toNat) (label.length + 1) 0x80
    ⟨0, 72, basic.length, basic.length, head⟩

/-- Read one number: its value with `i` added, and the rest of the text. -/
def decodeNumber (bias : Nat) : (k weight i : Nat) → List Char → Option (Nat × List Char)
  | _, _, _, [] => none
  | k, weight, i, c :: rest => do
    let d ← digitValue? c
    let i := i + d * weight
    guard (i ≤ limit)
    let t := threshold k bias
    if d < t then return (i, rest)
    else
      guard (weight * (36 - t) ≤ limit)
      decodeNumber bias (k + 36) (weight * (36 - t)) i rest

/-- Insert a code point before position `i`. -/
def insertAt (i c : Nat) (label : List Nat) : List Nat := label.take i ++ c :: label.drop i

/-- Read the insertions and apply them. -/
def decodeFrom : (fuel : Nat) → (n i bias : Nat) → (label : List Nat) → List Char →
    Option (List Nat)
  | _, _, _, _, label, [] => some label
  | 0, _, _, _, _, _ :: _ => none
  | fuel + 1, n, i, bias, label, cs => do
    let (j, rest) ← decodeNumber bias 36 1 i cs
    let count := label.length + 1
    let n := n + j / count
    guard (n < 0x110000 ∧ !(0xD800 ≤ n ∧ n < 0xE000))
    decodeFrom fuel n (j % count + 1) (adapt (j - i) count (i = 0))
      (insertAt (j % count) n label) rest

/-- The characters before the last hyphen and those after it. Without a hyphen, or with none but
a first one, all are after. -/
def cutLastHyphen (cs : List Char) : List Char × List Char :=
  let after := (cs.reverse.takeWhile (· ≠ '-')).reverse
  match cs.take (cs.length - after.length - 1) with
  | [] => ([], cs)
  | basic => (basic, after)

/-- The label that an ASCII form stands for. -/
def decode? (cs : List Char) : Option (List Char) := do
  let (basic, steps) := cutLastHyphen cs
  guard (basic.all fun c => c.toNat < 0x80)
  let label ← decodeFrom (cs.length + 1) 0x80 0 72 (basic.map Char.toNat) steps
  return label.map Char.ofNat

end GrantConfig.Uri.Punycode
