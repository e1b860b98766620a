import GrantConfig.Proofs.Fields

/-!
# The two spellings of fields

Entries of a provider are brought to the spelling with hyphens before they are loaded. As long as no
key mixes hyphens and underscores, a field then has the value of its key with hyphens, and without
one the value of its key with underscores.
-/

namespace GrantConfig

open Layer Provider

/-- Whether a key holds hyphens and underscores at once. -/
def isMixedKey (key : String) : Bool := isSnakeKey key && key.toList.contains '-'

/-- The key of a field does not mix spellings. -/
theorem isMixedKey_key (field : Field) : isMixedKey field.key = false := by
  cases field <;> decide

/-- Every key that folds to that of a field is one of the two spellings of the field. -/
def Unmixed {α : Type} (entries : List (String × α)) : Prop :=
  ∀ entry ∈ entries, ∀ field : Field, kebabKey entry.1 = field.key → isMixedKey entry.1 = false

/-- Where there are no entries, no spellings are mixed. -/
theorem unmixed_nil {α : Type} : Unmixed ([] : List (String × α)) := by
  intro entry hentry
  cases hentry

/-- The test finds underscores. -/
theorem isSnakeKey_iff {key : String} : isSnakeKey key = true ↔ '_' ∈ key.toList := by
  rw [isSnakeKey, List.contains_eq_mem, decide_eq_true_eq]

/-- It finds none where there are none. -/
theorem isSnakeKey_eq_false_iff {key : String} : isSnakeKey key = false ↔ '_' ∉ key.toList := by
  rw [← isSnakeKey_iff, Bool.not_eq_true]

/-- A key with hyphens has none. -/
theorem isSnakeKey_kebabKey (key : String) : isSnakeKey (kebabKey key) = false := by
  rw [isSnakeKey_eq_false_iff, kebabKey, String.toList_ofList]
  intro h
  obtain ⟨c, _, hc⟩ := List.mem_map.mp h
  split at hc
  · cases hc
  · next hne => exact hne hc

/-- A key without hyphens is recovered from its spelling with hyphens. -/
theorem eq_snakeKey_of_kebabKey {key : String} {field : Field} (h : kebabKey key = field.key)
    (hhyphen : key.toList.contains '-' = false) : key = field.snakeKey := by
  have hback : (kebabKey key).toList.map (fun c => if c = '-' then '_' else c) = key.toList := by
    rw [kebabKey, String.toList_ofList, List.map_map]
    refine (List.map_congr_left fun c hc => ?_).trans (List.map_id _)
    have hne : c ≠ '-' := by
      intro heq
      subst heq
      rw [List.contains_eq_mem, decide_eq_false_iff_not] at hhyphen
      exact hhyphen hc
    by_cases hunderscore : c = '_'
    · subst hunderscore
      rfl
    · simp [hunderscore, hne]
  have hsnake : field.key.toList.map (fun c => if c = '-' then '_' else c) =
      field.snakeKey.toList := by
    cases field <;> decide
  rw [← String.toList_inj, ← hback, h, hsnake]

/-- A key without underscores is spelled with hyphens already. -/
theorem kebabKey_eq_self {key : String} (h : isSnakeKey key = false) : kebabKey key = key := by
  rw [isSnakeKey_eq_false_iff] at h
  have hmap : (key.toList.map fun c => if c = '_' then '-' else c) = key.toList := by
    refine (List.map_congr_left fun c hc => if_neg ?_).trans (List.map_id _)
    intro heq
    subst heq
    exact h hc
  rw [kebabKey, hmap, String.ofList_toList]

/-- A key with underscores that mixes nothing folds to that of a field as its other spelling. -/
theorem kebabKey_eq_key_iff {key : String} {field : Field} (hsnake : isSnakeKey key = true)
    (h : kebabKey key = field.key → isMixedKey key = false) :
    kebabKey key = field.key ↔ key = field.snakeKey := by
  constructor
  · intro hkey
    have hmixed := h hkey
    rw [isMixedKey, hsnake, Bool.true_and] at hmixed
    exact eq_snakeKey_of_kebabKey hkey hmixed
  · intro heq
    subst heq
    cases field <;> decide

/-- A key that mixes nothing and folds to that of a field names the field. -/
theorem ofKey?_of_kebabKey {key : String} {field : Field} (h : kebabKey key = field.key)
    (hmixed : isMixedKey key = false) : Field.ofKey? key = some field := by
  cases hsnake : isSnakeKey key with
  | true => exact ofKey?_eq_some_iff.mpr (.inr ((kebabKey_eq_key_iff hsnake fun _ => hmixed).mp h))
  | false => exact ofKey?_eq_some_iff.mpr (.inl (kebabKey_eq_self hsnake ▸ h))

/-- Entries put under their folded keys stay behind those that are there, and the first of them
stays in front of the others. -/
theorem lookup_fold_kebabKey (snake acc : Entries) (key : String) :
    List.lookup key
        (snake.foldl
          (fun acc entry =>
            if (List.lookup (kebabKey entry.1) acc).isSome then acc
            else insertEntry (kebabKey entry.1) entry.2 acc)
          acc) =
      (List.lookup key acc).or ((snake.find? fun entry => kebabKey entry.1 = key).map Prod.snd) := by
  induction snake generalizing acc with
  | nil => exact (Option.or_none).symm
  | cons first rest ih =>
    rw [List.foldl_cons, ih]
    by_cases hkey : kebabKey first.1 = key
    · subst hkey
      rw [List.find?_cons_of_pos (by simp)]
      cases hfound : List.lookup (kebabKey first.1) acc with
      | none => simp
      | some v => simp [hfound]
    · rw [List.find?_cons_of_neg (by simpa using hkey)]
      split
      · rfl
      · rw [lookup_insertEntry_of_ne _ _ (Ne.symm hkey)]

/-- The value under a key spelled with hyphens, in front of the entries that fold to it. -/
theorem lookup_kebabFields_eq (entries : Entries) {key : String} (h : isSnakeKey key = false) :
    List.lookup key (kebabFields entries) =
      (List.lookup key entries).or
        (((entries.filter fun entry => isSnakeKey entry.1).find? fun entry =>
          kebabKey entry.1 = key).map Prod.snd) := by
  rw [kebabFields, lookup_fold_kebabKey,
    lookup_filter fun entry _ hentry => by rw [hentry, h]; rfl]

/-- A field has its value in the entries spelled with hyphens. -/
theorem lookup_kebabFields {entries : Entries} (h : Unmixed entries) (field : Field) :
    List.lookup field.key (kebabFields entries) = field.valueIn? entries := by
  have hkebab : isSnakeKey field.key = false := by cases field <;> decide
  rw [lookup_kebabFields_eq entries hkebab, Field.valueIn?]
  have hfind : ((entries.filter fun entry => isSnakeKey entry.1).find? fun entry =>
        kebabKey entry.1 = field.key) =
      (entries.filter fun entry => isSnakeKey entry.1).find? fun entry =>
        entry.1 = field.snakeKey := by
    refine List.find?_congr fun entry hentry => ?_
    obtain ⟨hmem, hsnake⟩ := List.mem_filter.mp hentry
    rw [decide_eq_decide]
    exact kebabKey_eq_key_iff hsnake (h entry hmem field)
  rw [hfind, ← lookup_eq_find?]
  by_cases hsnake : isSnakeKey field.snakeKey = true
  · rw [lookup_filter fun entry _ hentry => by rw [hentry, hsnake]]
  · -- A key without underscores is the only spelling of its field.
    have hsame : field.snakeKey = field.key := by
      revert hsnake
      cases field <;> decide
    have hnone :
        List.lookup field.snakeKey (entries.filter fun entry => isSnakeKey entry.1) = none := by
      refine List.lookup_eq_none_iff.mpr fun entry hentry => bne_iff_ne.mpr fun heq => hsnake ?_
      rw [heq]
      exact (List.mem_filter.mp hentry).2
    rw [hnone, hsame, Option.or_none, Option.or_self]

/-- Entries spelled with hyphens have no underscores in their keys. -/
theorem isSnakeKey_of_mem_kebabFields {entries : Entries} :
    ∀ entry ∈ kebabFields entries, isSnakeKey entry.1 = false := by
  have hkept : ∀ entry ∈ entries.filter fun entry => !isSnakeKey entry.1,
      isSnakeKey entry.1 = false :=
    fun entry hentry => by simpa using (List.mem_filter.mp hentry).2
  rw [kebabFields]
  refine List.foldlRecOn _ _
    (motive := fun acc : Entries => ∀ entry ∈ acc, isSnakeKey entry.1 = false)
    hkept fun acc hacc first _ => ?_
  split
  · exact hacc
  · intro entry hentry
    rcases mem_insertEntry hentry with rfl | hmem
    · exact isSnakeKey_kebabKey _
    · exact hacc entry hmem

/-- Folding keeps entries in ascending order. -/
theorem ascending_kebabFields {entries : Entries} (h : Ascending entries) :
    Ascending (kebabFields entries) := by
  rw [kebabFields]
  refine List.foldlRecOn _ _ (motive := Ascending) (h.filter _) fun acc hacc first _ => ?_
  split
  · exact hacc
  · exact ascending_insertEntry _ _ hacc

/-- A provider loads from a table exactly when every value of a field can be read, and each field
has its value. -/
theorem Provider.ofValue_table_eq_ok {entries : Entries} (hascending : Ascending entries)
    (hunmixed : Unmixed entries) {p : Provider} :
    ofValue (.table entries) = .ok p ↔
      ∀ field : Field, field.Takes field.load {} p (field.valueIn? entries) := by
  rw [ofValue, loadFields_eq_ok (ascending_kebabFields hascending).distinctKeys
    isSnakeKey_of_mem_kebabFields]
  refine forall_congr' fun field => ?_
  rw [lookup_kebabFields hunmixed]

end GrantConfig
