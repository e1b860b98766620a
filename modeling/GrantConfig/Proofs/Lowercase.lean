import GrantConfig.Proofs.TableRows
import GrantConfig.Unicode.Lowercase

/-!
# Lowercase and separators

In an ASCII text the lowercase mapping works character by character. It moves the capital letters
and nothing else, so separators of names stay where they are, and a second pass changes nothing. In
any text, no capital ASCII letter and no new separator comes out of the mapping, and what stands
before an underscore and what follows it are mapped on their own.
-/

namespace GrantConfig.Unicode

/-- The code point of the lowercase form of an ASCII letter, and of any other character. -/
theorem toNat_toLower (c : Char) :
    c.toLower.toNat = if 65 ≤ c.toNat ∧ c.toNat ≤ 90 then c.toNat + 32 else c.toNat := by
  have hupper : (c.val ≥ 'A'.val ∧ c.val ≤ 'Z'.val) ↔ (65 ≤ c.toNat ∧ c.toNat ≤ 90) := Iff.rfl
  by_cases h : 65 ≤ c.toNat ∧ c.toNat ≤ 90
  · delta Char.toLower
    rw [if_pos h, dif_pos (hupper.mpr h)]
    change (c.val + 32).toNat = c.toNat + 32
    rw [UInt32.toNat_add]
    exact Nat.mod_eq_of_lt (by have hval : c.val.toNat = c.toNat := rfl; simp; omega)
  · delta Char.toLower
    rw [if_neg h, dif_neg fun hval => h (hupper.mp hval)]

/-- A small letter is not changed. -/
theorem toLower_toLower (c : Char) : c.toLower.toLower = c.toLower := by
  apply Char.toNat_inj.mp
  have hlower := toNat_toLower c
  rw [toNat_toLower c.toLower]
  refine if_neg ?_
  split at hlower <;> omega

/-- Characters other than letters are the lowercase form of themselves alone. -/
theorem toLower_eq_iff {c d : Char}
    (h : d.toNat < 65 ∨ 90 < d.toNat ∧ d.toNat < 97 ∨ 122 < d.toNat) :
    c.toLower = d ↔ c = d := by
  rw [← Char.toNat_inj, ← Char.toNat_inj, toNat_toLower]
  split <;> omega

/-- A character is ASCII exactly when its lowercase form is. -/
theorem toNat_toLower_lt (c : Char) : c.toLower.toNat < 0x80 ↔ c.toNat < 0x80 := by
  rw [toNat_toLower]
  split <;> omega

/-- No other characters than ASCII letters are changed. -/
theorem toLower_of_not_ascii {c : Char} (h : ¬c.toNat < 0x80) : c.toLower = c := by
  apply Char.toNat_inj.mp
  rw [toNat_toLower]
  exact if_neg fun hletter => h (by omega)

/-- What does not look at the case of ASCII characters does not look at letter case at all. -/
theorem toLower_congr {α : Type} {f : Char → α}
    (h : ∀ n < 0x80, f (Char.ofNat n).toLower = f (Char.ofNat n)) (c : Char) : f c.toLower = f c := by
  by_cases hascii : c.toNat < 0x80
  · have hc := h c.toNat hascii
    rwa [Char.ofNat_toNat] at hc
  · rw [toLower_of_not_ascii hascii]

/-- ASCII characters are brought to lowercase one by one. -/
theorem lowercaseAfter_ascii {cs : List Char} (h : ∀ c ∈ cs, c.toNat < 0x80) (before : List Char) :
    lowercaseAfter before cs = cs.map Char.toLower := by
  induction cs generalizing before with
  | nil => rfl
  | cons c rest ih =>
    have hascii := h c List.mem_cons_self
    have hsigma : c ≠ 'Σ' := by
      intro heq
      subst heq
      exact absurd hascii (by decide)
    rw [lowercaseAfter, ih fun d hd => h d (List.mem_cons_of_mem _ hd)]
    simp only [hsigma, if_false, lowerChar, hascii, if_true, List.map_cons, List.singleton_append]

/-- The lowercase form of an ASCII text, character by character. -/
theorem lowercase_ascii {s : String} (h : ∀ c ∈ s.toList, c.toNat < 0x80) :
    lowercase s = String.ofList (s.toList.map Char.toLower) := by
  rw [lowercase, lowercaseAfter_ascii h]

/-- An ASCII text without capital letters is its own lowercase form. -/
theorem lowercase_eq_self {s : String} (h : ∀ c ∈ s.toList, c.toNat < 0x80 ∧ c.toLower = c) :
    lowercase s = s := by
  rw [lowercase_ascii fun c hc => (h c hc).1, List.map_congr_left fun c hc => (h c hc).2,
    List.map_id', String.ofList_toList]

/-- The rows of the mapping have images, made of small letters at least. -/
theorem forall_lowerMappings_rows :
    ∀ row ∈ lowerMappings.rows.toList,
      row.image ≠ [] ∧ ∀ m ∈ row.image, 97 ≤ m := by
  have hrows : ∀ row ∈ lowerMappings.rows.toList,
      (!row.image.isEmpty && row.image.all fun m => 97 ≤ m) = true := by
    refine forall_rows_ofText ?_
    rw [String.toList_ofList]
    decide +kernel
  intro row hrow
  simpa using hrows row hrow

/-- The images of characters beyond ASCII are some characters, small letters at least. -/
theorem of_image?_eq_some {n : Nat} {image : List Nat} (h : lowerMappings.image? n = some image) :
    image ≠ [] ∧ ∀ m ∈ image, 97 ≤ m := by
  obtain ⟨row, hrow, himage⟩ := Option.map_eq_some_iff.mp h
  obtain ⟨hmem, hfirst, _⟩ := mem_rows_of_find? hrow
  obtain ⟨hne, hall⟩ := forall_lowerMappings_rows row hmem
  split at himage
  · next target htarget =>
    have hle : 97 ≤ target := hall target (by rw [htarget]; simp)
    rw [← himage]
    refine ⟨List.cons_ne_nil _ _, List.forall_mem_singleton.mpr ?_⟩
    omega
  · rw [← himage]
    exact ⟨hne, hall⟩

/-- A character of the lowercase form of another one is that of an ASCII character, or else it is
no capital letter and no separator. -/
theorem mem_lowerChar {c d : Char} (h : d ∈ lowerChar c) :
    c.toNat < 0x80 ∧ d = c.toLower ∨ 97 ≤ d.toNat ∨ d.toNat = 0 := by
  rw [lowerChar] at h
  split at h
  · next hascii => exact .inl ⟨hascii, List.mem_singleton.mp h⟩
  · next hascii =>
    right
    cases himage : lowerMappings.image? c.toNat with
    | none =>
      rw [himage] at h
      obtain rfl := List.mem_singleton.mp h
      omega
    | some image =>
      rw [himage] at h
      obtain ⟨m, hm, rfl⟩ := List.mem_map.mp h
      have hle := (of_image?_eq_some himage).2 m hm
      by_cases hvalid : m.isValidChar
      · rw [Char.ofNat, dif_pos hvalid]
        exact .inl hle
      · rw [Char.ofNat, dif_neg hvalid]
        exact .inr rfl

/-- Lowercase has no characters below the small letters but those of the text. -/
theorem mem_lowercaseAfter {cs before : List Char} {d : Char} (h : d ∈ lowercaseAfter before cs) :
    (∃ c ∈ cs, c.toNat < 0x80 ∧ d = c.toLower) ∨ 97 ≤ d.toNat ∨ d.toNat = 0 := by
  induction cs generalizing before with
  | nil => cases h
  | cons c rest ih =>
    rw [lowercaseAfter] at h
    rcases List.mem_append.mp h with hfirst | hrest
    · split at hfirst
      · right
        left
        split at hfirst <;> obtain rfl := List.mem_singleton.mp hfirst <;> decide
      · exact (mem_lowerChar hfirst).imp (fun hc => ⟨c, List.mem_cons_self, hc⟩) id
    · refine (ih hrest).imp (fun hgiven => ?_) id
      obtain ⟨e, he, hlower⟩ := hgiven
      exact ⟨e, List.mem_cons_of_mem _ he, hlower⟩

/-- There are no capital ASCII letters in lowercase. -/
theorem toLower_of_mem_lowercase {s : String} {d : Char} (h : d ∈ (lowercase s).toList) :
    d.toLower = d := by
  rw [lowercase, String.toList_ofList] at h
  rcases mem_lowercaseAfter h with hascii | hother
  · obtain ⟨c, _, _, rfl⟩ := hascii
    exact toLower_toLower c
  · apply Char.toNat_inj.mp
    rw [toNat_toLower]
    split <;> omega

/-- A separator that stands in lowercase has been there before. -/
theorem mem_of_mem_lowercase {s : String} {d : Char} (hd : d.toNat ≠ 0)
    (hsep : d.toNat < 65 ∨ 90 < d.toNat ∧ d.toNat < 97) (h : d ∈ (lowercase s).toList) :
    d ∈ s.toList := by
  rw [lowercase, String.toList_ofList] at h
  rcases mem_lowercaseAfter h with hascii | hother
  · obtain ⟨c, hc, _, hlower⟩ := hascii
    rw [← (toLower_eq_iff (by omega)).mp hlower.symm]
    exact hc
  · omega

/-- No character vanishes in lowercase. -/
theorem lowerChar_ne_nil (c : Char) : lowerChar c ≠ [] := by
  rw [lowerChar]
  split
  · exact List.cons_ne_nil _ _
  · cases himage : lowerMappings.image? c.toNat with
    | none => exact List.cons_ne_nil _ _
    | some image =>
      intro hnil
      exact (of_image?_eq_some himage).1 (List.map_eq_nil_iff.mp hnil)

/-- The first character of a text in lowercase: an underscore for itself, and for any other one some
characters that are no underscores. -/
theorem lowercaseAfter_cons (before : List Char) (c : Char) (rest : List Char) :
    ∃ image, lowercaseAfter before (c :: rest) = image ++ lowercaseAfter (c :: before) rest ∧
      image ≠ [] ∧ (c = '_' → image = ['_']) ∧ (c ≠ '_' → '_' ∉ image) := by
  refine ⟨_, rfl, ?_, ?_, ?_⟩
  · split
    · exact List.cons_ne_nil _ _
    · exact lowerChar_ne_nil c
  · intro hc
    subst hc
    rfl
  · intro hc hmem
    split at hmem
    · split at hmem <;> cases List.mem_singleton.mp hmem
    · rcases mem_lowerChar hmem with hascii | hother
      · exact hc ((toLower_eq_iff (by decide)).mp hascii.2.symm)
      · revert hother
        decide

/-- A point stays in lowercase. -/
theorem point_mem_lowercaseAfter {cs : List Char} (h : '.' ∈ cs) (before : List Char) :
    '.' ∈ lowercaseAfter before cs := by
  induction cs generalizing before with
  | nil => cases h
  | cons c rest ih =>
    rw [lowercaseAfter]
    rcases List.mem_cons.mp h with rfl | hrest
    · exact List.mem_append_left _ List.mem_cons_self
    · exact List.mem_append_right _ (ih hrest _)

/-- An underscore is neither a letter nor ignored where words end. -/
theorem underscore_ends_words :
    cased.contains '_'.toNat = false ∧ caseIgnorable.contains '_'.toNat = false := by
  have houtside {t : Table}
      (h : ∀ row ∈ t.rows.toList, (95 < row.first || row.last < 95) = true) :
      t.contains '_'.toNat = false := by
    apply contains_eq_false
    intro row hrow
    simpa using h row hrow
  refine ⟨houtside (forall_rows_ofText ?_), houtside (forall_rows_ofText ?_)⟩
  · rw [String.toList_ofList]
    decide +kernel
  · rw [String.toList_ofList]
    decide +kernel

/-- What is sought at the end of a word is not sought beyond an underscore. -/
theorem startsCased_append_underscore (cs rest : List Char) :
    startsCased (cs ++ '_' :: rest) = startsCased cs := by
  obtain ⟨hcased, hignored⟩ := underscore_ends_words
  induction cs with
  | nil =>
    rw [List.nil_append, startsCased, List.dropWhile_cons, hignored]
    exact hcased
  | cons c cs ih =>
    rw [startsCased, startsCased, List.cons_append, List.dropWhile_cons, List.dropWhile_cons]
    by_cases hc : caseIgnorable.contains c.toNat = true
    · rw [if_pos hc, if_pos hc]
      exact ih
    · rw [if_neg hc, if_neg hc]

/-- What stands before an underscore does not matter behind it. -/
theorem lowercaseAfter_underscore (cs before more : List Char) :
    lowercaseAfter (before ++ '_' :: more) cs = lowercaseAfter before cs := by
  induction cs generalizing before with
  | nil => rfl
  | cons c rest ih =>
    rw [lowercaseAfter, lowercaseAfter, startsCased_append_underscore, ← List.cons_append, ih]

/-- What follows an underscore does not matter before it. -/
theorem lowercaseAfter_append_underscore (cs before rest : List Char) :
    lowercaseAfter before (cs ++ '_' :: rest) =
      lowercaseAfter before cs ++ '_' :: lowercaseAfter [] rest := by
  induction cs generalizing before with
  | nil =>
    have hfirst : lowercaseAfter before ('_' :: rest) = '_' :: lowercaseAfter ('_' :: before) rest :=
      rfl
    rw [List.nil_append, hfirst]
    exact congrArg _ (lowercaseAfter_underscore rest [] before)
  | cons c cs ih =>
    rw [List.cons_append, lowercaseAfter, lowercaseAfter, ih, startsCased_append_underscore,
      List.append_assoc]

/-- The lowercase form of a text goes piece by piece between underscores. -/
theorem lowercase_append_underscore (s t : List Char) :
    lowercase (String.ofList (s ++ '_' :: t)) =
      String.ofList ((lowercase (String.ofList s)).toList ++
        '_' :: (lowercase (String.ofList t)).toList) := by
  simp only [lowercase, String.toList_ofList, lowercaseAfter_append_underscore]

/-- The same between pairs of underscores. -/
theorem lowercase_append_pair (s t : String) :
    (lowercase (s ++ "__" ++ t)).toList =
      (lowercase s).toList ++ '_' :: '_' :: (lowercase t).toList := by
  have hpair : s ++ "__" ++ t = String.ofList (s.toList ++ '_' :: ([] ++ '_' :: t.toList)) := by
    rw [← String.toList_inj]
    simp
  rw [hpair, lowercase_append_underscore, lowercase_append_underscore, String.toList_ofList,
    String.toList_ofList, String.ofList_toList, String.ofList_toList]
  rfl

end GrantConfig.Unicode
