import GrantConfig.Proofs.Variables

/-!
# The source of any environment

The entries of the source come from the variables that are kept, whatever their names are. Every key
begins with the prefix, and its characters are those of variables in lowercase.
-/

namespace GrantConfig

open Layer Unicode

/-- Entries of a map whose keys pass a test, under new keys and with new values. -/
def SortedMap.rekeyed {α β : Type} (m : SortedMap α) (p : String → Bool) (f : String → String)
    (g : α → β) : List (String × β) :=
  (m.entries.filter fun entry => p entry.1).map fun entry => (f entry.1, g entry.2)

namespace Layer.Environment

open Settings

variable {start : String} {vars : SortedMap String}

/-- Variables are gathered under their normalized names first. -/
theorem entries_normalize (start : String) (vars : SortedMap String) :
    (normalize start vars).entries =
      insertEach [] (vars.rekeyed (hasStart start) normalizeName id) := by
  rw [normalize, SortedMap.entries_ofList]
  rfl

/-- Then they are gathered under their key paths. -/
theorem source_eq (start : String) (vars : SortedMap String) :
    source start vars =
      insertEach [] ((normalize start vars).rekeyed (hasStart start) keyPath written) := by
  rw [source, SortedMap.entries_ofList]
  rfl

/-- Every entry of the source is written by a variable that is kept. -/
theorem exists_of_mem_source {entry : String × Value} (h : entry ∈ source start vars) :
    ∃ var ∈ vars.entries, hasStart start var.1 = true ∧
      hasStart start (normalizeName var.1) = true ∧
      entry = (keyPath (normalizeName var.1), written var.2) := by
  rw [source_eq] at h
  obtain ⟨normal, hnormal, rfl⟩ := List.mem_map.mp (mem_of_mem_insertEach_nil h)
  obtain ⟨hmem, hstart⟩ := List.mem_filter.mp hnormal
  rw [entries_normalize] at hmem
  obtain ⟨var, hvar, rfl⟩ := List.mem_map.mp (mem_of_mem_insertEach_nil hmem)
  obtain ⟨hvar, hkept⟩ := List.mem_filter.mp hvar
  exact ⟨var, hvar, hkept, hstart, rfl⟩

/-! ## Keys of the source -/

/-- A part of a name stands in it. -/
theorem mem_of_mem_parts {cs part : List Char} (hpart : part ∈ parts cs) {c : Char} (hc : c ∈ part) :
    c ∈ cs := by
  rw [← intercalate_parts cs]
  obtain ⟨first, rest, hparts⟩ := List.exists_cons_of_ne_nil (parts_ne_nil cs)
  rw [hparts] at hpart ⊢
  rw [KeyPath.intercalate_cons_eq]
  rcases List.mem_cons.mp hpart with rfl | hrest
  · exact List.mem_append_left _ hc
  · refine List.mem_append_right _ (List.mem_flatMap.mpr ⟨part, hrest, ?_⟩)
    exact List.mem_append_right _ hc

/-- What stands in joined parts stands in one of them or between them. -/
theorem mem_intercalate {sep : List Char} {parts : List (List Char)} {c : Char}
    (h : c ∈ List.intercalate sep parts) : c ∈ sep ∨ ∃ part ∈ parts, c ∈ part := by
  cases parts with
  | nil => cases h
  | cons first rest =>
    rw [KeyPath.intercalate_cons_eq] at h
    rcases List.mem_append.mp h with hfirst | hrest
    · exact .inr ⟨first, List.mem_cons_self, hfirst⟩
    · obtain ⟨part, hpart, hc⟩ := List.mem_flatMap.mp hrest
      rcases List.mem_append.mp hc with hsep | hc
      · exact .inl hsep
      · exact .inr ⟨part, List.mem_cons_of_mem _ hpart, hc⟩

/-- A key path holds points and what stands in the name in lowercase. -/
theorem mem_keyPath {name : String} {c : Char} (h : c ∈ (keyPath name).toList) :
    c = '.' ∨ c ∈ (lowercase name).toList := by
  rw [keyPath, String.toList_ofList] at h
  rcases mem_intercalate h with hsep | hpart
  · exact .inl (List.mem_singleton.mp hsep)
  · obtain ⟨part, hpart, hc⟩ := hpart
    exact .inr (mem_of_mem_parts hpart hc)

/-- No capital ASCII letter stands in a key path. -/
theorem toLower_of_mem_keyPath {name : String} {c : Char} (h : c ∈ (keyPath name).toList) :
    c.toLower = c := by
  rcases mem_keyPath h with rfl | hc
  · decide
  · exact toLower_of_mem_lowercase hc

/-- A bracket of a normalized name stands in the name. -/
theorem bracket_mem_of_normalizeName {name : String} (h : '[' ∈ (normalizeName name).toList) :
    '[' ∈ name.toList := by
  rw [normalizeName, String.toList_ofList] at h
  rcases mem_intercalate h with hsep | hpart
  · exact absurd hsep (by decide)
  · obtain ⟨part, hpart, hc⟩ := hpart
    obtain ⟨i, hi⟩ := List.mem_iff_getElem?.mp hpart
    rw [List.getElem?_modify, Option.map_eq_map, Option.map_eq_some_iff] at hi
    obtain ⟨given, hgiven, rfl⟩ := hi
    refine mem_of_mem_parts (List.mem_of_getElem? hgiven) ?_
    split at hc
    · obtain ⟨d, hd, hbracket⟩ := List.mem_map.mp hc
      split at hbracket
      · cases hbracket
      · rwa [hbracket] at hd
    · exact hc

/-- A variable without brackets has a key path without brackets. -/
theorem bracket_not_mem_keyPath {name : String} (h : '[' ∉ name.toList) :
    '[' ∉ (keyPath (normalizeName name)).toList := by
  intro hmem
  rcases mem_keyPath hmem with hpoint | hlower
  · cases hpoint
  · exact h (bracket_mem_of_normalizeName
      (mem_of_mem_lowercase (by decide) (.inr (by decide)) hlower))

/-- Every key path of a variable goes on behind what begins its name, when nothing is cut there. -/
theorem exists_keyPath_eq {name : String} (hpair : hasPair '_' (lowercase start).toList = false)
    (hlast : (lowercase start).toList.getLast? ≠ some '_') (h : hasStart start name = true) :
    ∃ rest, (keyPath name).toList = (lowercase start).toList ++ '.' :: rest := by
  have hstart : (lowercase (start ++ separator)).toList = (lowercase start).toList ++ ['_', '_'] := by
    have hsplit := lowercase_append_pair start ""
    rwa [String.append_empty] at hsplit
  rw [hasStart, hstart, List.isPrefixOf_iff_prefix] at h
  obtain ⟨rest, hrest⟩ := h
  obtain ⟨second, more, hparts⟩ := List.exists_cons_of_ne_nil (parts_ne_nil rest)
  rw [List.append_assoc] at hrest
  rw [keyPath, String.toList_ofList, ← hrest, List.cons_append, List.cons_append, List.nil_append,
    parts_append hpair hlast, hparts, List.intercalate_cons_cons, List.append_assoc]
  exact ⟨_, rfl⟩

/-- What keys of the settings' source are like: they go on behind the section, in lowercase. -/
structure IsSettingKey (key : String) : Prop where
  behind : ∃ rest, key.toList = rootKey.toList ++ '.' :: rest
  toLower_eq : ∀ c ∈ key.toList, c.toLower = c

/-- The key path of a variable of the settings is a key of the settings. -/
theorem isSettingKey_keyPath {name : String} (h : hasStart defaultStart name = true) :
    IsSettingKey (keyPath name) := by
  have hroot : lowercase defaultStart = rootKey := by decide
  refine ⟨?_, fun _ hc => toLower_of_mem_keyPath hc⟩
  rw [← hroot]
  exact exists_keyPath_eq (by decide) (by decide) h

/-- A key of the source that stands for itself is not the section. -/
theorem IsSettingKey.lowercase_ne {key : String} (h : IsSettingKey key) :
    lowercase key ≠ rootKey := by
  obtain ⟨rest, hrest⟩ := h.behind
  intro heq
  have hlower : (lowercase key).toList =
      rootKey.toList ++ '.' :: lowercaseAfter ".htuao".toList rest := by
    rw [lowercase, String.toList_ofList, hrest]
    rfl
  rw [heq] at hlower
  cases hlower

/-- A name in lowercase stays what it is. -/
theorem lowercase_eq_of_isName {name : String} (hname : KeyPath.IsName name.toList)
    (hlower : ∀ c ∈ name.toList, c.toLower = c) : lowercase name = name :=
  lowercase_eq_self fun c hc => ⟨isNameChar_lt (hname.2 c hc), hlower c hc⟩

/-- A name of a path stands in its key. -/
theorem mem_points {names : List String} {name : String} (hname : name ∈ names) {c : Char}
    (hc : c ∈ name.toList) : c ∈ KeyPath.points names :=
  List.mem_flatMap.mpr ⟨name, hname, List.mem_cons_of_mem _ hc⟩

/-- A key of the source without brackets stands for itself, or it is a path of further names in
lowercase behind the section. -/
theorem IsSettingKey.ofKey_cases {key : String} (h : IsSettingKey key)
    (hbracket : '[' ∉ key.toList) :
    KeyPath.ofKey key = ⟨key, []⟩ ∨
      ∃ names : List String, KeyPath.ofKey key = ⟨rootKey, names.map .field⟩ ∧
        '.' :: key.toList = KeyPath.points (rootKey :: names) ∧
          ∀ name ∈ names, lowercase name = name := by
  obtain ⟨rest, hrest⟩ := h.behind
  rcases KeyPath.ofKey_cases (by decide) (by decide) hrest with hself | hpath
  · exact .inl hself
  · obtain ⟨_, steps, hleads, hkey⟩ := hpath
    have hmem : ∀ c ∈ '.' :: rest, c ∈ key.toList := by
      intro c hc
      rw [hrest]
      exact List.mem_append_right _ hc
    obtain ⟨names, rfl, hpoints, hnames⟩ := hleads.exists_names fun hc => hbracket (hmem _ hc)
    refine .inr ⟨names, hkey, ?_, fun name hname => ?_⟩
    · rw [hrest, hpoints]
      rfl
    · refine lowercase_eq_of_isName (hnames name hname) fun c hc => h.toLower_eq c (hmem c ?_)
      rw [hpoints]
      exact mem_points hname hc

end Layer.Environment

end GrantConfig
