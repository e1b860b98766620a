import GrantConfig.Proofs.Sources
import GrantConfig.Proofs.Ways

/-!
# Writing variables behind paths

A value that is no table takes the place of what stands behind its path, whatever that was. What is
written outside the section of the settings does not matter to the section, and of two values whose
keys do not overlap either may be written first.
-/

namespace GrantConfig.Layer

open Unicode

/-- A value other than a table. -/
def Value.Leaf (u : Value) : Prop := ∀ inner, u ≠ .table inner

/-- Along a field, the value behind the path changes what stands under that field. -/
theorem assign_field {u : Value} (hu : u.Leaf) (name : String) (steps : List Step)
    (parent : Value) :
    assign u (.field name :: steps) parent =
      .table (insertEntry (lowercase name)
        (assign u steps ((List.lookup (lowercase name) parent.toEntries).getD Value.null))
        parent.toEntries) := by
  cases steps with
  | nil => simp only [assign, mergeField_eq, Settings.over_of_ne_table hu]
  | cons step steps =>
    rw [assign]
    intro h
    cases h

/-- The root table after a value has been put under a key. -/
theorem table_assignKey {u : Value} (hu : u.Leaf) (root : Entries) (key : String) :
    Value.table (assignKey root key u) =
      assign u (.field (KeyPath.ofKey key).name :: (KeyPath.ofKey key).steps) (.table root) := by
  rw [assignKey, assign_field hu]
  rfl

end GrantConfig.Layer

namespace GrantConfig.Settings

open Layer Environment Unicode

/-- A text of the environment is no table. -/
theorem leaf_written (value : String) : (written value).Leaf := by
  intro inner h
  cases h

/-- Variables write no tables. -/
theorem leaf_of_mem_source {start : String} {vars : SortedMap String} :
    ∀ entry ∈ source start vars, entry.2.Leaf := by
  intro entry hentry
  obtain ⟨var, _, _, _, rfl⟩ := exists_of_mem_source hentry
  exact leaf_written var.2

/-- What stands under the section's first key after an entry has been assigned. -/
def assignBelow (v : Option Value) (entry : String × Value) : Option Value :=
  let path := KeyPath.ofKey entry.1
  if lowercase path.name = rootKey then some (assign entry.2 path.steps (v.getD Value.null)) else v

/-- What a variable writes under the root key is put below it. -/
theorem lookup_assignKey {key : String} {u : Value} (hu : u.Leaf) (root : Entries) :
    List.lookup rootKey (assignKey root key u) = assignBelow (List.lookup rootKey root) (key, u) := by
  rw [assignKey, assignBelow, assign_field hu, Value.toEntries]
  split
  · next hroot =>
    rw [hroot]
    exact lookup_insertEntry_self _ _ _
  · next hroot => exact lookup_insertEntry_of_ne _ _ (Ne.symm hroot)

/-- Under the section's first key, a source of texts does what its entries do there. -/
theorem lookup_mergeSource {source : Entries} (h : ∀ entry ∈ source, entry.2.Leaf)
    (root : Entries) :
    List.lookup rootKey (mergeSource root source) =
      source.foldl assignBelow (List.lookup rootKey root) := by
  induction source generalizing root with
  | nil => rfl
  | cons first rest ih =>
    obtain ⟨hfirst, hrest⟩ := List.forall_mem_cons.mp h
    rw [List.foldl_cons, ← lookup_assignKey hfirst]
    exact ih hrest _

/-- A key of the source without brackets leaves the section alone, or it is a path of names in it. -/
theorem assignBelow_cases {key : String} (h : IsSettingKey key) (hbracket : '[' ∉ key.toList) :
    (∀ u v, assignBelow v (key, u) = v) ∨
      ∃ names : List String, '.' :: key.toList = KeyPath.points (rootKey :: names) ∧
        (∀ name ∈ names, lowercase name = name) ∧
          ∀ u v, assignBelow v (key, u) = some (assign u (names.map .field) (v.getD Value.null)) := by
  rcases h.ofKey_cases hbracket with hself | hpath
  · left
    intro u v
    rw [assignBelow, hself]
    exact if_neg h.lowercase_ne
  · obtain ⟨names, hkey, hpoints, hnames⟩ := hpath
    refine .inr ⟨names, hpoints, hnames, fun u v => ?_⟩
    have hroot : lowercase rootKey = rootKey := by decide
    rw [assignBelow, hkey]
    exact if_pos hroot

/-- A path that begins with another one lies within it. -/
theorem within_of_begins {key other : String} {names others : List String}
    (hkey : '.' :: key.toList = KeyPath.points (rootKey :: names))
    (hother : '.' :: other.toList = KeyPath.points (rootKey :: others)) (h : names <+: others) :
    KeyPath.Within other key := by
  obtain ⟨more, rfl⟩ := h
  exact KeyPath.within_of_points hother hkey

/-- Values whose keys do not overlap may be assigned in either order. -/
theorem assignBelow_comm {a b : String × Value} (ha : IsSettingKey a.1) (hb : IsSettingKey b.1)
    (ha' : '[' ∉ a.1.toList) (hb' : '[' ∉ b.1.toList)
    (hapart : ¬KeyPath.Overlap a.1 b.1) (v : Option Value) :
    assignBelow (assignBelow v a) b = assignBelow (assignBelow v b) a := by
  rcases assignBelow_cases ha ha' with hself | hpath
  · rw [hself, hself]
  rcases assignBelow_cases hb hb' with hself' | hpath'
  · rw [hself', hself']
  obtain ⟨names, hkey, hnames, hassign⟩ := hpath
  obtain ⟨others, hkey', hothers, hassign'⟩ := hpath'
  rw [hassign, hassign', hassign, hassign']
  have hparted : Parted (others.map .field) (names.map .field) :=
    parted_of_names (fun h => hapart (.inl (within_of_begins hkey' hkey h)))
      fun h => hapart (.inr (within_of_begins hkey hkey' h))
  rw [← map_lower_fields hothers, ← map_lower_fields hnames] at hparted
  exact congrArg some (assign_comm b.2 a.2 hparted _)

end GrantConfig.Settings
