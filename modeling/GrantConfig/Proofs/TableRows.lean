import GrantConfig.Unicode.Table

/-!
# What holds of all rows of a table

A table is written as text, and a property of its rows can be checked while the text is read,
without keeping the rows. What a code point finds in a table is one of its rows.
-/

namespace GrantConfig.Unicode

/-- A draft without the rows that are finished. -/
def Draft.unfilled (d : Draft) : Draft := { d with rows := #[] }

/-- Whether every row that is closed from here on satisfies a test, up to the end of a text. -/
def Draft.allRows (p : Row → Bool) (d : Draft) : List Char → Bool
  | [] => d.close.rows.toList.all p
  | c :: rest => (d.next c).rows.toList.all p && (d.next c).unfilled.allRows p rest

/-- Closing a row does not look at the rows before it. -/
theorem all_rows_close (p : Row → Bool) (d : Draft) :
    d.close.rows.toList.all p = (d.rows.toList.all p && d.unfilled.close.rows.toList.all p) := by
  obtain ⟨part, number, empty, row, rows⟩ := d
  cases empty with
  | true => simp [Draft.close, Draft.unfilled]
  | false => simp [Draft.close, Draft.unfilled, Draft.store]

/-- A row is finished in the same way whatever rows there are. -/
theorem unfilled_close (d : Draft) : d.close.unfilled = d.unfilled.close.unfilled := by
  obtain ⟨part, number, empty, row, rows⟩ := d
  cases empty <;> rfl

/-- Reading a character that closes no row leaves the rows alone, and does not look at them. -/
theorem rows_next {c : Char} (h : ¬(c = ' ' ∨ c = '\n')) (d : Draft) :
    (d.next c).rows = d.rows ∧ (d.unfilled.next c).rows = #[] ∧
      (d.next c).unfilled = (d.unfilled.next c).unfilled := by
  simp only [Draft.next, if_neg h]
  by_cases hlast : c = '-'
  · simp only [if_pos hlast]
    exact ⟨trivial, rfl, rfl⟩
  by_cases hstep : c = '/'
  · simp only [if_neg hlast, if_pos hstep]
    exact ⟨trivial, rfl, rfl⟩
  by_cases himage : c = '>' ∨ c = '.'
  · simp only [if_neg hlast, if_neg hstep, if_pos himage]
    exact ⟨trivial, rfl, rfl⟩
  · simp only [if_neg hlast, if_neg hstep, if_neg himage]
    exact ⟨trivial, rfl, rfl⟩

/-- A blank finishes a row. -/
theorem next_blank {c : Char} (h : c = ' ' ∨ c = '\n') (d : Draft) : d.next c = d.close := by
  rw [Draft.next, if_pos h]

/-- A character adds rows, and the others are kept. -/
theorem all_rows_next (p : Row → Bool) (d : Draft) (c : Char) :
    (d.next c).rows.toList.all p =
      (d.rows.toList.all p && (d.unfilled.next c).rows.toList.all p) := by
  by_cases hblank : c = ' ' ∨ c = '\n'
  · rw [next_blank hblank, next_blank hblank]
    exact all_rows_close p d
  · obtain ⟨hrows, hnone, _⟩ := rows_next hblank d
    rw [hrows, hnone]
    exact (Bool.and_true _).symm

/-- A character is read in the same way whatever rows there are. -/
theorem unfilled_next (d : Draft) (c : Char) :
    (d.next c).unfilled = (d.unfilled.next c).unfilled := by
  by_cases hblank : c = ' ' ∨ c = '\n'
  · rw [next_blank hblank, next_blank hblank]
    exact unfilled_close d
  · exact (rows_next hblank d).2.2

/-- Reading a text leaves rows that satisfy a test exactly when those before do and each row that
is closed on the way does. -/
theorem all_rows_foldl (p : Row → Bool) (cs : List Char) (d : Draft) :
    (cs.foldl Draft.next d).close.rows.toList.all p =
      (d.rows.toList.all p && d.unfilled.allRows p cs) := by
  induction cs generalizing d with
  | nil => exact all_rows_close p d
  | cons c rest ih =>
    rw [List.foldl_cons, ih, all_rows_next, unfilled_next, Bool.and_assoc]
    rfl

/-- All rows of a table satisfy a test that is passed while its text is read. -/
theorem forall_rows_ofText {p : Row → Bool} {text : String}
    (h : (Draft.mk .first 0 true ⟨0, 0, 1, []⟩ #[]).allRows p text.toList = true) :
    ∀ row ∈ (Table.ofText text).rows.toList, p row = true := by
  refine List.all_eq_true.mp ?_
  rw [Table.ofText, String.foldl_eq_foldl_toList, all_rows_foldl]
  exact h

/-- What is found for a code point is a row that covers it. -/
theorem mem_rows_of_find? {t : Table} {n : Nat} {row : Row} (h : t.find? n = some row) :
    row ∈ t.rows.toList ∧ row.first ≤ n ∧ n ≤ row.last := by
  simp only [Table.find?, Option.bind_eq_bind, Option.bind_eq_some_iff] at h
  obtain ⟨found, hfound, h⟩ := h
  split at h
  · next hcovers =>
    obtain rfl := Option.some.inj h
    exact ⟨Array.mem_toList_iff.mpr (Array.mem_of_getElem? hfound), hcovers.1, hcovers.2.1⟩
  · cases h

/-- A code point outside all rows is not in a table. -/
theorem contains_eq_false {t : Table} {n : Nat}
    (h : ∀ row ∈ t.rows.toList, n < row.first ∨ row.last < n) : t.contains n = false := by
  rw [Table.contains, Option.isSome_eq_false_iff, Option.isNone_iff_eq_none]
  refine Option.eq_none_iff_forall_ne_some.mpr fun row hrow => ?_
  obtain ⟨hmem, hfirst, hlast⟩ := mem_rows_of_find? hrow
  have hrow := h row hmem
  omega

end GrantConfig.Unicode
