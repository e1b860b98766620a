/-!
# Character tables

Data on characters as rows of code points in ascending order. A row covers every `step`-th code
point from `first` to `last` and may carry numbers. Tables are written as text: rows stand
between blanks, all numbers are hexadecimal, and `first-last/step>n.n` may leave out each part
after the first. The same form serves for sets, for values of ranges and for mappings.
-/

namespace GrantConfig.Unicode

/-- Code points that share a property, with the numbers that belong to them. -/
structure Row where
  first : Nat
  last : Nat
  step : Nat
  image : List Nat
deriving Inhabited

/-- Rows in ascending order that do not overlap. -/
structure Table where
  rows : Array Row

/-- The part of a row that a digit belongs to. -/
inductive Part where
  | first
  | last
  | step
  | image

/-- A row as far as it has been read. -/
structure Draft where
  part : Part
  number : Nat
  empty : Bool
  row : Row
  rows : Array Row

/-- Store the number just read in its part of the row. -/
def Draft.store (d : Draft) : Row :=
  match d.part with
  | .first => { d.row with first := d.number, last := d.number }
  | .last => { d.row with last := d.number }
  | .step => { d.row with step := d.number }
  | .image => { d.row with image := d.row.image ++ [d.number] }

/-- Close the row that is being read, if there is one. -/
def Draft.close (d : Draft) : Draft :=
  if d.empty then d else ⟨.first, 0, true, ⟨0, 0, 1, []⟩, d.rows.push d.store⟩

/-- Read one character of a table. -/
def Draft.next (d : Draft) (c : Char) : Draft :=
  if c = ' ' ∨ c = '\n' then d.close
  else if c = '-' then { d with part := .last, number := 0, row := d.store }
  else if c = '/' then { d with part := .step, number := 0, row := d.store }
  else if c = '>' ∨ c = '.' then { d with part := .image, number := 0, row := d.store }
  else
    let digit := if c.toNat < 58 then c.toNat - 48 else c.toNat - 55
    { d with number := d.number * 16 + digit, empty := false }

/-- The table that a text writes. -/
def Table.ofText (text : String) : Table :=
  ⟨(text.foldl Draft.next ⟨.first, 0, true, ⟨0, 0, 1, []⟩, #[]⟩).close.rows⟩

/-- The number of rows among the first `high`, at least `low`, that begin at or before a code
point. -/
def Table.search (t : Table) (n : Nat) : (fuel low high : Nat) → Nat
  | 0, low, _ => low
  | fuel + 1, low, high =>
    if low < high then
      let middle := (low + high) / 2
      if (t.rows[middle]?.map (·.first)).getD 0 ≤ n then t.search n fuel (middle + 1) high
      else t.search n fuel low middle
    else low

/-- The row of a code point. -/
def Table.find? (t : Table) (n : Nat) : Option Row := do
  let count := t.search n (t.rows.size + 1) 0 t.rows.size
  let row ← t.rows[count - 1]?
  if row.first ≤ n ∧ n ≤ row.last ∧ (n - row.first) % row.step = 0 then some row else none

/-- Whether a code point has a row. -/
def Table.contains (t : Table) (n : Nat) : Bool := (t.find? n).isSome

/-- The first number of the row of a code point. -/
def Table.value? (t : Table) (n : Nat) : Option Nat := (t.find? n).bind (·.image.head?)

/-- The image of a code point under a table of mappings: a single number is the image of the
first code point of its row, and the others of the row follow at the same distance. -/
def Table.image? (t : Table) (n : Nat) : Option (List Nat) :=
  (t.find? n).map fun row =>
    match row.image with
    | [target] => [target + (n - row.first)]
    | image => image

end GrantConfig.Unicode
