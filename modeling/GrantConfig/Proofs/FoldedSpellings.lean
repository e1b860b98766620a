import GrantConfig.Proofs.Spelling

/-!
# Folding the spellings of a table

The fields of a table are folded when their keys are brought to the spelling with hyphens. No field
gets lost and none is made up, a key without underscores is not overruled, and any other one takes
its value from a spelling with underscores. These laws leave a choice only where several keys with
underscores fold to the same key. Where none do, they determine the folded table, so the order in
which the fields are visited does not show.
-/

namespace GrantConfig

open Layer

/-! ## The laws of folding -/

/-- A table holds the fields of another one under their spellings with hyphens. -/
structure FoldedFrom (fields folded : Entries) : Prop where
  distinct : DistinctKeys folded
  hyphens : ∀ key ∈ folded.map Prod.fst, '_' ∉ key.toList
  /-- No field gets lost, and none is made up. -/
  keys : ∀ key, key ∈ folded.map Prod.fst ↔ ∃ given ∈ fields.map Prod.fst, kebabKey given = key
  /-- A key without underscores is not overruled. -/
  kept : ∀ key v, '_' ∉ key.toList → List.lookup key fields = some v → List.lookup key folded = some v
  /-- A key that is not given has the value of a key with underscores that folds to it. -/
  taken : ∀ key v, key ∉ fields.map Prod.fst → List.lookup key folded = some v →
    ∃ given, '_' ∈ given.toList ∧ kebabKey given = key ∧ List.lookup given fields = some v

/-- No two keys with underscores fold to the same key. -/
abbrev FoldsApart (fields : Entries) : Prop :=
  ∀ key ∈ fields.map Prod.fst, ∀ other ∈ fields.map Prod.fst,
    '_' ∈ key.toList → '_' ∈ other.toList → kebabKey key = kebabKey other → key = other

/-- No two keys with underscores fold to the same key that is not given. -/
def FoldsClear (fields : Entries) : Prop :=
  ∀ key ∈ fields.map Prod.fst, ∀ other ∈ fields.map Prod.fst, kebabKey key ∉ fields.map Prod.fst →
    '_' ∈ key.toList → '_' ∈ other.toList → kebabKey key = kebabKey other → key = other

/-- Keys that do not fall together leave no choice. -/
theorem FoldsApart.clear {fields : Entries} (h : FoldsApart fields) : FoldsClear fields :=
  fun key hkey other hother _ => h key hkey other hother

/-- The laws of folding do not see the order of the fields. -/
theorem FoldedFrom.of_perm {visited fields folded : Entries} (h : FoldedFrom visited folded)
    (hperm : visited.Perm fields) (hdistinct : DistinctKeys visited) :
    FoldedFrom fields folded := by
  have hvalue := lookup_perm hperm hdistinct
  have hkeys : ∀ key, key ∈ visited.map Prod.fst ↔ key ∈ fields.map Prod.fst :=
    fun key => (hperm.map Prod.fst).mem_iff
  obtain ⟨hfolded, hhyphens, hfolds, hkept, htaken⟩ := h
  simp only [hvalue, hkeys] at hfolds hkept htaken
  exact ⟨hfolded, hhyphens, hfolds, hkept, htaken⟩

/-- Folding takes values from the fields. -/
theorem FoldedFrom.exists_given {fields folded : Entries} (h : FoldedFrom fields folded) {key : String}
    {v : Value} (hv : List.lookup key folded = some v) : ∃ given, (given, v) ∈ fields := by
  by_cases hgiven : key ∈ fields.map Prod.fst
  · obtain ⟨x, hx⟩ := mem_keys_iff.mp hgiven
    have hkept := h.kept key x (h.hyphens key (mem_keys_iff.mpr ⟨v, hv⟩)) hx
    rw [hv] at hkept
    cases hkept
    exact ⟨key, mem_of_lookup hx⟩
  · obtain ⟨given, _, _, hvalue⟩ := h.taken key v hgiven hv
    exact ⟨given, mem_of_lookup hvalue⟩

/-- Tables folded from the same fields agree where no two keys with underscores leave a choice. -/
theorem FoldedFrom.lookup_eq {fields folded other : Entries} (h : FoldedFrom fields folded)
    (hother : FoldedFrom fields other) (hclear : FoldsClear fields) {key : String} {v : Value}
    (hv : List.lookup key folded = some v) : List.lookup key other = some v := by
  have hmem : key ∈ folded.map Prod.fst := mem_keys_iff.mpr ⟨v, hv⟩
  by_cases hgiven : key ∈ fields.map Prod.fst
  · -- a key that is given without underscores has its own value in both tables
    obtain ⟨x, hx⟩ := mem_keys_iff.mp hgiven
    have hkept := h.kept key x (h.hyphens key hmem) hx
    rw [hv] at hkept
    cases hkept
    exact hother.kept key v (h.hyphens key hmem) hx
  · -- any other key has the value of the only key with underscores that folds to it
    obtain ⟨w, hw⟩ := mem_keys_iff.mp ((hother.keys key).mpr ((h.keys key).mp hmem))
    obtain ⟨given, hsnake, hfold, hvalue⟩ := h.taken key v hgiven hv
    obtain ⟨given', hsnake', hfold', hvalue'⟩ := hother.taken key w hgiven hw
    obtain rfl := hclear given (mem_keys_iff.mpr ⟨v, hvalue⟩) given'
      (mem_keys_iff.mpr ⟨w, hvalue'⟩) (hfold ▸ hgiven) hsnake hsnake' (hfold.trans hfold'.symm)
    rw [hw, ← hvalue', hvalue]

/-- The laws of folding determine the folded table up to order where no two keys with underscores
leave a choice. -/
theorem FoldedFrom.perm {fields folded other : Entries} (h : FoldedFrom fields folded)
    (hother : FoldedFrom fields other) (hclear : FoldsClear fields) : folded.Perm other := by
  refine h.distinct.perm_of_lookup hother.distinct fun key => Option.ext fun v => ?_
  exact ⟨h.lookup_eq hother hclear, hother.lookup_eq h hclear⟩

/-! ## The folded table -/

/-- A table without underscores in its keys is folded already. -/
theorem kebabFields_eq_self {fields : Entries}
    (h : ∀ entry ∈ fields, isSnakeKey entry.1 = false) : kebabFields fields = fields := by
  have hkept : (fields.filter fun entry => !isSnakeKey entry.1) = fields :=
    List.filter_eq_self.mpr fun entry hentry => by rw [h entry hentry]; rfl
  have hnone : (fields.filter fun entry => isSnakeKey entry.1) = [] :=
    List.filter_eq_nil_iff.mpr fun entry hentry => by simp [h entry hentry]
  rw [kebabFields, hkept, hnone, List.foldl_nil]

/-- A table that is folded is not changed by folding it again. -/
theorem kebabFields_kebabFields (fields : Entries) :
    kebabFields (kebabFields fields) = kebabFields fields :=
  kebabFields_eq_self isSnakeKey_of_mem_kebabFields

/-- Folding keeps keys distinct. -/
theorem distinctKeys_kebabFields {fields : Entries} (h : DistinctKeys fields) :
    DistinctKeys (kebabFields fields) := by
  rw [kebabFields]
  refine List.foldlRecOn _ _ (motive := DistinctKeys) (h.filter _) fun acc hacc first _ => ?_
  split
  · exact hacc
  · next hnone => exact distinctKeys_insertEntry first.2 hacc (Option.not_isSome_iff_eq_none.mp hnone)

/-- A folded table has no value exactly under the keys to which nothing folds. -/
theorem lookup_kebabFields_eq_none_iff {fields : Entries} {key : String} :
    List.lookup key (kebabFields fields) = none ↔ ∀ entry ∈ fields, kebabKey entry.1 ≠ key := by
  rw [kebabFields, lookup_fold_kebabKey, Option.or_eq_none_iff, Option.map_eq_none_iff,
    List.lookup_eq_none_iff, List.find?_eq_none]
  constructor
  · intro h entry hentry
    cases hsnake : isSnakeKey entry.1 with
    | true => simpa using h.2 entry (List.mem_filter.mpr ⟨hentry, hsnake⟩)
    | false =>
      rw [kebabKey_eq_self hsnake]
      exact (bne_iff_ne.mp (h.1 entry (List.mem_filter.mpr ⟨hentry, by rw [hsnake]; rfl⟩))).symm
  · intro h
    constructor
    · intro entry hentry
      obtain ⟨hmem, hkebab⟩ := List.mem_filter.mp hentry
      have hself : kebabKey entry.1 = entry.1 := kebabKey_eq_self (by simpa using hkebab)
      rw [bne_iff_ne, ← hself]
      exact (h entry hmem).symm
    · intro entry hentry
      simpa using h entry (List.mem_filter.mp hentry).1

/-- The keys of the folded table are the given ones with hyphens. -/
theorem mem_keys_kebabFields {fields : Entries} {key : String} :
    key ∈ (kebabFields fields).map Prod.fst ↔
      ∃ given ∈ fields.map Prod.fst, kebabKey given = key := by
  rw [← not_iff_not, not_mem_keys_iff, lookup_kebabFields_eq_none_iff]
  simp

/-- Folding takes the value of a key that is not given from the entry of another spelling. -/
theorem exists_of_lookup_kebabFields {fields : Entries} (h : DistinctKeys fields) {key : String}
    {v : Value} (hgiven : key ∉ fields.map Prod.fst)
    (hv : List.lookup key (kebabFields fields) = some v) :
    ∃ given, '_' ∈ given.toList ∧ kebabKey given = key ∧ List.lookup given fields = some v := by
  have hkebab : isSnakeKey key = false := isSnakeKey_of_mem_kebabFields _ (mem_of_lookup hv)
  rw [lookup_kebabFields_eq fields hkebab, not_mem_keys_iff.mp hgiven, Option.none_or,
    Option.map_eq_some_iff] at hv
  obtain ⟨entry, hfound, rfl⟩ := hv
  obtain ⟨hmem, hsnake⟩ := List.mem_filter.mp (List.mem_of_find?_eq_some hfound)
  have hfold := List.find?_some hfound
  exact ⟨entry.1, isSnakeKey_iff.mp hsnake, of_decide_eq_true hfold, lookup_of_mem h hmem⟩

/-- Folding a table in any order obeys the laws. -/
theorem foldedFrom_kebabFields {fields : Entries} (h : DistinctKeys fields) :
    FoldedFrom fields (kebabFields fields) := by
  constructor
  case distinct => exact distinctKeys_kebabFields h
  case hyphens =>
    intro key hkey
    obtain ⟨entry, hentry, rfl⟩ := List.mem_map.mp hkey
    exact isSnakeKey_eq_false_iff.mp (isSnakeKey_of_mem_kebabFields entry hentry)
  case keys => exact fun key => mem_keys_kebabFields
  case kept =>
    intro key v hkey hv
    rw [lookup_kebabFields_eq fields (isSnakeKey_eq_false_iff.mpr hkey), hv, Option.some_or]
  case taken => exact fun key v => exists_of_lookup_kebabFields h

/-- Folding obeys its laws for every table and does nothing to a folded one, and the order in which
the fields are visited does not show unless keys with underscores fall together. -/
theorem kebabFields_folds_spellings {fields : Entries} (h : DistinctKeys fields) :
    FoldedFrom fields (kebabFields fields) ∧
      kebabFields (kebabFields fields) = kebabFields fields ∧
      (FoldsApart fields → ∀ visited : Entries, visited.Perm fields →
        (kebabFields visited).Perm (kebabFields fields)) := by
  refine ⟨foldedFrom_kebabFields h, kebabFields_kebabFields fields, ?_⟩
  intro hapart visited hperm
  have hvisited : DistinctKeys visited := hperm.symm.pairwise h Ne.symm
  exact ((foldedFrom_kebabFields hvisited).of_perm hperm hvisited).perm (foldedFrom_kebabFields h)
    (FoldsApart.clear hapart)

/-- Of two keys that fall together, the one that is visited first gives its value. -/
example (v w : Value) :
    kebabFields [("user-info_path", v), ("user_info-path", w)] = [("user-info-path", v)] ∧
      kebabFields [("user_info-path", w), ("user-info_path", v)] = [("user-info-path", w)] := by
  cbv

/-- Both spellings of one field, a mixed spelling of another one, and runs of underscores. -/
def spelledFields : Entries :=
  [("user_info-path", .scalar none (.text "mixed")), ("client_id", .scalar none (.text "snake")),
    ("client-id", .scalar none (.text "kebab")), ("__scopes_", .list none [])]

/-- The key with hyphens keeps its value in either order, and the others take theirs along. -/
theorem kebabFields_folds_spellings_mixed :
    DistinctKeys spelledFields ∧ FoldsApart spelledFields ∧
      FoldedFrom spelledFields (kebabFields spelledFields) ∧
      kebabFields (kebabFields spelledFields) = kebabFields spelledFields ∧
      (kebabFields spelledFields.reverse).Perm (kebabFields spelledFields) ∧
      List.lookup "client-id" (kebabFields spelledFields) = some (.scalar none (.text "kebab")) ∧
      (kebabFields spelledFields.reverse).map Prod.fst =
        ["--scopes-", "client-id", "user-info-path"] := by
  have hdistinct : DistinctKeys spelledFields := by decide
  have hapart : FoldsApart spelledFields := by decide
  obtain ⟨hfolded, hagain, horder⟩ := kebabFields_folds_spellings hdistinct
  refine ⟨hdistinct, hapart, hfolded, hagain, horder hapart _ (List.reverse_perm _), ?_, by decide⟩
  exact hfolded.kept "client-id" _ (by decide) rfl

end GrantConfig
