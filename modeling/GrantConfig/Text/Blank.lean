/-!
# Blank text

The white space of Unicode, and what follows from it: when a text counts as blank, and what
remains of a text without the blanks around it. Zero-width characters and the byte order mark
are not white space.
-/

namespace GrantConfig.Text

/-- The characters with the property `White_Space`. -/
def isSpace (c : Char) : Bool :=
  let n := c.toNat
  (9 ≤ n && n ≤ 13) || n == 0x20 || n == 0x85 || n == 0xA0 || n == 0x1680 ||
    (0x2000 ≤ n && n ≤ 0x200A) || n == 0x2028 || n == 0x2029 || n == 0x202F || n == 0x205F ||
    n == 0x3000

/-- A text is blank when it holds nothing but white space. -/
def isBlank (s : String) : Bool := s.toList.all isSpace

/-- Characters without the white space in front. -/
def trimStart : List Char → List Char
  | [] => []
  | c :: rest => if isSpace c then trimStart rest else c :: rest

/-- Characters without the white space at the end. -/
def trimEnd : List Char → List Char
  | [] => []
  | c :: rest =>
    match trimEnd rest with
    | [] => if isSpace c then [] else [c]
    | kept => c :: kept

/-- A text without the white space around it. -/
def trim (s : String) : String := String.ofList (trimEnd (trimStart s.toList))

/-- Trimming the end leaves nothing exactly when there was nothing but white space. -/
theorem trimEnd_eq_nil_iff (cs : List Char) : trimEnd cs = [] ↔ cs.all isSpace = true := by
  induction cs with
  | nil => simp [trimEnd]
  | cons c rest ih =>
    rw [trimEnd]
    split
    · next h => by_cases hc : isSpace c = true <;> simp_all
    · next h =>
      have hrest : rest.all isSpace ≠ true := fun hall => h (ih.2 hall)
      simp only [List.cons_ne_nil, List.all_cons, Bool.and_eq_true, false_iff]
      exact fun hall => hrest hall.2

theorem all_trimStart (cs : List Char) : (trimStart cs).all isSpace = cs.all isSpace := by
  induction cs with
  | nil => rfl
  | cons c rest ih =>
    rw [trimStart]
    split
    · next hc => rw [ih, List.all_cons, hc, Bool.true_and]
    · rfl

/-- A text is trimmed to nothing exactly when it is blank. -/
theorem isEmpty_trim (s : String) : (trim s).isEmpty = isBlank s := by
  rw [Bool.eq_iff_iff, String.isEmpty_iff, trim, String.ofList_eq_empty_iff, trimEnd_eq_nil_iff,
    all_trimStart, isBlank]

end GrantConfig.Text
