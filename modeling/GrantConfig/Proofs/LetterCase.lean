import GrantConfig.Proofs.NormalizedNames

/-!
# Letter case of keys

Nothing that reads keys looks at the case of their ASCII letters but to bring them to lowercase. The
lowercase mapping finds the same words, the characters that make and end the names of a path are the
same, and a variable's name is cut in the same places.
-/

namespace GrantConfig.Unicode

/-- A text with its ASCII letters in lowercase. -/
def lowerLetters (s : String) : String := String.ofList (s.toList.map Char.toLower)

/-- Two texts are the same but for the case of ASCII letters. -/
def SameLetters (s t : String) : Prop := lowerLetters s = lowerLetters t

/-- The characters of a text are brought to lowercase one by one. -/
theorem toList_lowerLetters (s : String) : (lowerLetters s).toList = s.toList.map Char.toLower :=
  String.toList_ofList

/-- Letters count where the end of a word is sought, capital ones as small ones. -/
theorem cased_toLower (c : Char) : cased.contains c.toLower.toNat = cased.contains c.toNat := by
  refine toLower_congr (f := fun c => cased.contains c.toNat) ?_ c
  rw [cased, Table.ofText, String.foldl_eq_foldl_toList, String.toList_ofList]
  decide +kernel

/-- No ASCII letter is passed over where the end of a word is sought. -/
theorem caseIgnorable_toLower (c : Char) :
    caseIgnorable.contains c.toLower.toNat = caseIgnorable.contains c.toNat := by
  have hrows : ∀ row ∈ caseIgnorable.rows.toList,
      (90 < row.first || row.last < 65) && (122 < row.first || row.last < 97) = true := by
    refine forall_rows_ofText ?_
    rw [String.toList_ofList]
    decide +kernel
  have hnone {n : Nat} (hn : 65 ≤ n ∧ n ≤ 90 ∨ 97 ≤ n ∧ n ≤ 122) :
      caseIgnorable.contains n = false := by
    apply contains_eq_false
    intro row hrow
    have hletters := hrows row hrow
    simp only [Bool.and_eq_true, Bool.or_eq_true, decide_eq_true_eq] at hletters
    omega
  have hlower := toNat_toLower c
  split at hlower
  · next hcapital => rw [hlower, hnone (by omega), hnone (.inl hcapital)]
  · rw [hlower]

/-- So the end of a word is found in the same place. -/
theorem startsCased_map (cs : List Char) : startsCased (cs.map Char.toLower) = startsCased cs := by
  induction cs with
  | nil => rfl
  | cons c rest ih =>
    rw [startsCased, startsCased, List.map_cons, List.dropWhile_cons, List.dropWhile_cons,
      caseIgnorable_toLower]
    by_cases hc : caseIgnorable.contains c.toNat = true
    · rw [if_pos hc, if_pos hc]
      exact ih
    · rw [if_neg hc, if_neg hc]
      exact cased_toLower c

/-- A character has one lowercase form, capital or small. -/
theorem lowerChar_toLower (c : Char) : lowerChar c.toLower = lowerChar c := by
  by_cases h : c.toNat < 0x80
  · rw [lowerChar, lowerChar, if_pos h, if_pos ((toNat_toLower_lt c).mpr h), toLower_toLower]
  · rw [toLower_of_not_ascii h]

/-- Small letters are brought to lowercase as the capital ones, and their neighbours with them. -/
theorem lowercaseAfter_map (before cs : List Char) :
    lowercaseAfter (before.map Char.toLower) (cs.map Char.toLower) = lowercaseAfter before cs := by
  induction cs generalizing before with
  | nil => rfl
  | cons c rest ih =>
    have hsigma : c.toLower = 'Σ' ↔ c = 'Σ' := toLower_eq_iff (by decide)
    rw [List.map_cons, lowercaseAfter, lowercaseAfter, ← List.map_cons, ih, lowerChar_toLower,
      startsCased_map, startsCased_map]
    simp only [hsigma]

/-- A text has the same lowercase form in any letter case. -/
theorem lowercase_lowerLetters (s : String) : lowercase (lowerLetters s) = lowercase s := by
  rw [lowercase, toList_lowerLetters]
  exact congrArg _ (lowercaseAfter_map [] s.toList)

end GrantConfig.Unicode

namespace GrantConfig.Layer.KeyPath

open Unicode

/-- A step with the letters of its name in lowercase. -/
def lowerStep : Step → Step
  | .field name => .field (lowerLetters name)
  | .position n => .position n

/-- No letter is blank. -/
theorem isBlank_toLower (c : Char) : isBlank c.toLower = isBlank c := toLower_congr (by decide) c

/-- No letter is a digit. -/
theorem isDigit_toLower (c : Char) : c.toLower.isDigit = c.isDigit := toLower_congr (by decide) c

/-- A digit is no letter. -/
theorem toLower_of_isDigit {c : Char} (h : c.isDigit = true) : c.toLower = c := by
  have hall : ∀ n < 0x80, (Char.ofNat n).isDigit = true → (Char.ofNat n).toLower = Char.ofNat n := by
    decide
  by_cases hascii : c.toNat < 0x80
  · have hc := hall c.toNat hascii
    rw [Char.ofNat_toNat] at hc
    exact hc h
  · exact toLower_of_not_ascii hascii

/-- A test that is blind to letter case takes the same characters. -/
theorem takeWhile_toLower {p : Char → Bool} (h : ∀ c, p c.toLower = p c) (cs : List Char) :
    (cs.map Char.toLower).takeWhile p = (cs.takeWhile p).map Char.toLower := by
  rw [List.takeWhile_map]
  congr 2
  funext c
  exact h c

/-- It drops the same characters, too. -/
theorem dropWhile_toLower {p : Char → Bool} (h : ∀ c, p c.toLower = p c) (cs : List Char) :
    (cs.map Char.toLower).dropWhile p = (cs.dropWhile p).map Char.toLower := by
  rw [List.dropWhile_map]
  congr 2
  funext c
  exact h c

/-- A name ends where it would end in lowercase. -/
theorem name?_toLower (cs : List Char) :
    name? (cs.map Char.toLower) =
      (name? cs).map fun found => (lowerLetters found.1, found.2.map Char.toLower) := by
  rw [name?, name?, takeWhile_toLower isNameChar_toLower, dropWhile_toLower isNameChar_toLower,
    List.isEmpty_map]
  split
  · rfl
  · rw [Option.map_some, lowerLetters, String.toList_ofList]

/-- A position behind its sign, and what follows its closing bracket. -/
def positionBehind? (minus : Bool) (digits : List Char) : Option (Int × List Char) := do
  let n ← Decimal.natural? 10 (digits.takeWhile Char.isDigit)
  let n : Int := if minus then -(n : Int) else n
  guard (Decimal.fitsInt64 n)
  match (digits.dropWhile Char.isDigit).dropWhile isBlank with
  | ']' :: rest => return (n, rest)
  | _ => none

/-- A position is a minus sign, if there is one, and what stands behind it. -/
theorem position?_eq (cs : List Char) :
    position? cs =
      if (cs.dropWhile isBlank).head? = some '-' then positionBehind? true (cs.dropWhile isBlank).tail
      else positionBehind? false (cs.dropWhile isBlank) := by
  cases h : cs.dropWhile isBlank with
  | nil =>
    rw [position?, h]
    rfl
  | cons c rest =>
    by_cases hc : c = '-'
    · subst hc
      rw [position?, h]
      rfl
    · simp only [position?, h, List.head?_cons, Option.some.injEq, if_neg hc]
      split
      · next heq => exact absurd (List.cons.inj heq).1 hc
      · rfl

/-- No letter is a minus sign. -/
theorem toLower_eq_hyphen (c : Char) : c.toLower = '-' ↔ c = '-' := toLower_eq_iff (by decide)

/-- No letter ends a position. -/
theorem toLower_eq_bracket (c : Char) : c.toLower = ']' ↔ c = ']' := toLower_eq_iff (by decide)

/-- A position is read alike in any letter case of what follows. -/
theorem positionBehind?_toLower (minus : Bool) (digits : List Char) :
    positionBehind? minus (digits.map Char.toLower) =
      (positionBehind? minus digits).map fun found => (found.1, found.2.map Char.toLower) := by
  have hdigits :
      (digits.takeWhile Char.isDigit).map Char.toLower = digits.takeWhile Char.isDigit := by
    rw [List.map_congr_left (g := id), List.map_id]
    intro c hc
    exact toLower_of_isDigit (List.all_eq_true.mp List.all_takeWhile c hc)
  rw [positionBehind?, positionBehind?, takeWhile_toLower isDigit_toLower, hdigits,
    dropWhile_toLower isDigit_toLower, dropWhile_toLower isBlank_toLower]
  cases Decimal.natural? 10 (digits.takeWhile Char.isDigit) with
  | none => rfl
  | some n =>
    simp only [Option.bind_eq_bind, Option.bind_some]
    cases (digits.dropWhile Char.isDigit).dropWhile isBlank with
    | nil => simp
    | cons c rest =>
      by_cases hc : c = ']'
      · subst hc
        rw [List.map_cons, (toLower_eq_bracket ']').mpr rfl]
        simp [Option.map_bind]
      · have hlower : c.toLower ≠ ']' := fun h => hc ((toLower_eq_bracket c).mp h)
        rw [List.map_cons]
        simp [hc, hlower]

/-- A position is the same whatever letters follow it. -/
theorem position?_toLower (cs : List Char) :
    position? (cs.map Char.toLower) =
      (position? cs).map fun found => (found.1, found.2.map Char.toLower) := by
  have hhead : ((cs.dropWhile isBlank).map Char.toLower).head? = some '-' ↔
      (cs.dropWhile isBlank).head? = some '-' := by
    cases cs.dropWhile isBlank with
    | nil => simp
    | cons c rest => simp [toLower_eq_hyphen]
  rw [position?_eq, position?_eq, dropWhile_toLower isBlank_toLower]
  simp only [hhead]
  split
  · rw [← List.map_tail, positionBehind?_toLower]
  · exact positionBehind?_toLower false _

/-- The steps of a path are those of the path in lowercase, but for the letters of their names. -/
theorem steps?_toLower (fuel : Nat) (cs : List Char) :
    steps? fuel (cs.map Char.toLower) = (steps? fuel cs).map (List.map lowerStep) := by
  induction fuel generalizing cs with
  | zero =>
    cases cs with
    | nil => rfl
    | cons => rfl
  | succ fuel ih =>
    cases cs with
    | nil => rfl
    | cons c rest =>
      have hpoint : c.toLower = '.' ↔ c = '.' := toLower_eq_iff (by decide)
      have hbracket : c.toLower = '[' ↔ c = '[' := toLower_eq_iff (by decide)
      rw [List.map_cons, steps?, steps?, name?_toLower, position?_toLower]
      simp only [hpoint, hbracket]
      split
      · cases name? rest with
        | none => rfl
        | some found =>
          simp only [Option.map_some, Option.bind_eq_bind, Option.bind_some, ih]
          cases steps? fuel found.2 <;> rfl
      · split
        · cases position? rest with
          | none => rfl
          | some found =>
            simp only [Option.map_some, Option.bind_eq_bind, Option.bind_some, ih]
            cases steps? fuel found.2 <;> rfl
        · rfl

/-- The path of a key in lowercase is that of the key, but for the letters of its names. -/
theorem ofKey_lowerLetters (key : String) :
    ofKey (lowerLetters key) =
      ⟨lowerLetters (ofKey key).name, (ofKey key).steps.map lowerStep⟩ := by
  rw [ofKey, ofKey, parse?, parse?, toList_lowerLetters, name?_toLower]
  cases name? key.toList with
  | none => rfl
  | some found =>
    simp only [Option.map_some, Option.bind_eq_bind, Option.bind_some, List.length_map,
      steps?_toLower]
    cases steps? found.2.length found.2 <;> rfl

end GrantConfig.Layer.KeyPath

namespace GrantConfig.Layer.Environment

open Unicode

/-- Letter case and hyphens of a variable's name do not get in each other's way. -/
theorem normalizeName_lowerLetters (name : String) :
    normalizeName (lowerLetters name) = lowerLetters (normalizeName name) := by
  apply eq_of_parts
  rw [parts_normalizeName, toList_lowerLetters, toList_lowerLetters,
    parts_map toLower_eq_underscore, parts_map toLower_eq_underscore, parts_normalizeName]
  apply List.ext_getElem?
  intro i
  rw [List.getElem?_modify, List.getElem?_map, List.getElem?_map, List.getElem?_modify]
  split
  · cases (parts name.toList)[i]? with
    | none => rfl
    | some part => exact congrArg some (map_toLower_hyphenated part).symm
  · simp

/-- A variable belongs to a prefix in any letter case. -/
theorem hasStart_lowerLetters (start name : String) :
    hasStart start (lowerLetters name) = hasStart start name := by
  rw [hasStart, hasStart, lowercase_lowerLetters]

/-- It has the same key path in any letter case. -/
theorem keyPath_lowerLetters (name : String) : keyPath (lowerLetters name) = keyPath name := by
  rw [keyPath, keyPath, lowercase_lowerLetters]

end GrantConfig.Layer.Environment
