import GrantConfig.Proofs.Documents
import GrantConfig.Proofs.VariableNames
import Mathlib.Data.Set.List

/-!
# The environment as documents

An environment whose variables name fields of providers is a list of assignments, one for each
variable, and each assignment is a document with a single field. So the environment adds further
documents behind those of the other sources.
-/

namespace GrantConfig.Settings

open Layer Environment Unicode Provider

/-- The value that a variable gives. -/
def written (value : String) : Value := .scalar (some .environment) (.text value)

/-- Environments whose variables under the default prefix each name a field of a provider, no two
of them by one key path. -/
structure IsEnvironment (vars : SortedMap String) : Prop where
  named : ∀ var ∈ vars.keys, hasStart defaultStart var = true →
    ∃ name field, isProviderName name = true ∧ namesField var name field = true
  distinct : ∀ var ∈ vars.keys, ∀ other ∈ vars.keys,
    hasStart defaultStart var = true → hasStart defaultStart other = true →
    keyPath (normalizeName var) = keyPath (normalizeName other) → var = other

/-- The value that an environment gives a field of a provider. -/
def fromEnvironment? (vars : SortedMap String) (name : String) (field : Field) : Option Value :=
  (vars.entries.find? fun entry => isProviderName name && namesField entry.1 name field).map
    fun entry => written entry.2

/-- A field of a provider with the text that a variable gives it. -/
structure Assignment where
  name : String
  field : Field
  value : String
  isName : isProviderName name = true
  isLower : lowercase name = name

namespace Assignment

/-- The entry of the environment's source. -/
def entry (a : Assignment) : String × Value := (fieldPath a.name a.field, written a.value)

/-- The document with a single field. -/
def document (a : Assignment) : Entries :=
  providerDocument a.name [(a.field.key, written a.value)]

/-- The entry of a variable is merged like the document. -/
theorem assignKey_entry (a : Assignment) (root : Entries) :
    assignKey root a.entry.1 a.entry.2 = mergeEntries root a.document := by
  have hpath : KeyPath.ofKey a.entry.1 =
      ⟨rootKey, [providersKey, a.name, a.field.key].map .field⟩ :=
    ofKey_fieldPath a.isName a.field
  exact assignKey_fields hpath root (written a.value)

/-- Variables are merged as the documents that they stand for. -/
theorem mergeSource_entries (assignments : List Assignment) (root : Entries) :
    mergeSource root (assignments.map entry) =
      (assignments.map document).foldl mergeEntries root := by
  induction assignments generalizing root with
  | nil => rfl
  | cons a rest ih =>
    change mergeSource (assignKey root a.entry.1 a.entry.2) (rest.map entry) = _
    rw [assignKey_entry, ih]
    rfl

/-- The key of a field is in lowercase already. -/
theorem lowerKeys_field (a : Assignment) :
    lowerKeys [(a.field.key, written a.value)] = [(a.field.key, written a.value)] :=
  lowerKeys_singleton (a.field.lowercase_key) _

/-- The document of a variable is well formed. -/
theorem wellFormed_document (a : Assignment) : WellFormed a.document := by
  refine wellFormed_providerDocument a.isLower (List.pairwise_singleton _ _) ?_ ?_
  · rw [lowerKeys_field]
    intro entry hentry field _
    obtain rfl := List.mem_singleton.mp hentry
    exact isMixedKey_key a.field
  · rw [lowerKeys_field]
    intro entry hentry inner
    obtain rfl := List.mem_singleton.mp hentry
    intro h
    cases h

/-- The document of an assignment configures its field and nothing else. -/
theorem configured?_document (a : Assignment) (name key : String) :
    configured? name key a.document =
      if name = a.name ∧ key = a.field.key then some (written a.value) else none := by
  rw [configured?, document, documentFields_providerDocument a.isLower]
  by_cases hname : name = a.name
  · rw [if_pos hname, lowerKeys_field]
    simp [lookup_cons_eq_ite, hname]
  · rw [if_neg hname, if_neg fun h => hname h.1]
    rfl

/-- It mentions the provider of the variable and no other one. -/
theorem mentions_document (a : Assignment) (name : String) :
    mentions name a.document = decide (name = a.name) :=
  mentions_providerDocument a.isLower _ _

end Assignment

/-- The variables of the settings. -/
def kept (vars : SortedMap String) : List (String × String) :=
  vars.entries.filter fun entry => hasStart defaultStart entry.1

/-- The variables of the settings are those that have the default prefix. -/
theorem mem_kept {vars : SortedMap String} {entry : String × String} :
    entry ∈ kept vars ↔ entry ∈ vars.entries ∧ hasStart defaultStart entry.1 = true :=
  List.mem_filter

namespace IsEnvironment

variable {vars : SortedMap String} (h : IsEnvironment vars)

include h

/-- Each of them names a field of a provider. -/
theorem named_of_kept {entry : String × String} (hentry : entry ∈ kept vars) :
    ∃ name field, isProviderName name = true ∧ namesField entry.1 name field = true := by
  obtain ⟨hmem, hstart⟩ := mem_kept.mp hentry
  exact h.named entry.1 (List.mem_map_of_mem hmem) hstart

/-- Variables with one key path are the same. -/
theorem eq_of_keyPath {entry other : String × String} (hentry : entry ∈ kept vars)
    (hother : other ∈ kept vars)
    (heq : keyPath (normalizeName entry.1) = keyPath (normalizeName other.1)) : entry = other := by
  obtain ⟨hmem, hstart⟩ := mem_kept.mp hentry
  obtain ⟨hmem', hstart'⟩ := mem_kept.mp hother
  have hname : entry.1 = other.1 :=
    h.distinct _ (List.mem_map_of_mem hmem) _ (List.mem_map_of_mem hmem') hstart hstart' heq
  have hvalue := lookup_of_mem vars.ascending.distinctKeys hmem
  rw [hname, lookup_of_mem vars.ascending.distinctKeys hmem'] at hvalue
  exact Prod.ext hname (Option.some.inj hvalue).symm

/-- No variable is lost when their names are normalized. -/
theorem mem_normalize {entry : String × String} :
    entry ∈ (Environment.normalize defaultStart vars).entries ↔
      ∃ var ∈ kept vars, entry = (normalizeName var.1, var.2) := by
  have hdistinct : DistinctKeys ((kept vars).map fun var => (normalizeName var.1, var.2)) := by
    refine List.pairwise_map.mpr ((vars.ascending.distinctKeys.filter _).imp_of_mem ?_)
    intro var other hvar hother hne heq
    exact hne (congrArg Prod.fst (h.eq_of_keyPath hvar hother (congrArg keyPath heq)))
  rw [Environment.normalize, SortedMap.entries_ofList]
  refine (mem_insertEach_nil hdistinct).trans (List.mem_map.trans ?_)
  simp only [eq_comm]

/-- The entries of the source are those of the variables. -/
theorem mem_source {entry : String × Value} :
    entry ∈ source defaultStart vars ↔
      ∃ var ∈ kept vars, entry = (keyPath (normalizeName var.1), written var.2) := by
  have hstart : ∀ entry ∈ (Environment.normalize defaultStart vars).entries,
      hasStart defaultStart entry.1 = true := by
    intro entry hentry
    obtain ⟨var, hvar, rfl⟩ := h.mem_normalize.mp hentry
    obtain ⟨name, field, hname, hfield⟩ := h.named_of_kept hvar
    exact hasStart_normalizeName hname hfield
  have hdistinct : DistinctKeys ((Environment.normalize defaultStart vars).entries.map fun entry =>
      (keyPath entry.1, written entry.2)) := by
    refine List.pairwise_map.mpr ((SortedMap.ascending _).distinctKeys.imp_of_mem ?_)
    intro entry other hentry hother hne heq
    obtain ⟨var, hvar, rfl⟩ := h.mem_normalize.mp hentry
    obtain ⟨var', hvar', rfl⟩ := h.mem_normalize.mp hother
    have hpath : keyPath (normalizeName var.1) = keyPath (normalizeName var'.1) := heq
    obtain rfl := h.eq_of_keyPath hvar hvar' hpath
    exact hne rfl
  have hsource : source defaultStart vars = insertEach []
      ((Environment.normalize defaultStart vars).entries.map fun entry =>
        (keyPath entry.1, written entry.2)) := by
    rw [source, SortedMap.entries_ofList, pathed, List.filter_eq_self.mpr hstart]
    rfl
  rw [hsource, mem_insertEach_nil hdistinct, List.mem_map]
  constructor
  · intro hgiven
    obtain ⟨_, hmem, rfl⟩ := hgiven
    obtain ⟨var, hvar, rfl⟩ := h.mem_normalize.mp hmem
    exact ⟨var, hvar, rfl⟩
  · intro hgiven
    obtain ⟨var, hvar, rfl⟩ := hgiven
    exact ⟨_, h.mem_normalize.mpr ⟨var, hvar, rfl⟩, rfl⟩

/-- The source of the environment is a list of assignments. -/
theorem exists_assignments :
    ∃ assignments : List Assignment,
      source defaultStart vars = assignments.map Assignment.entry := by
  have hrange : ∀ entry ∈ source defaultStart vars, entry ∈ Set.range Assignment.entry := by
    intro entry hentry
    obtain ⟨var, hvar, rfl⟩ := h.mem_source.mp hentry
    obtain ⟨name, field, hname, hfield⟩ := h.named_of_kept hvar
    refine ⟨⟨name, field, var.2, hname, lowercase_name hname hfield⟩, ?_⟩
    rw [Assignment.entry, keyPath_normalizeName hname hfield]
  have hlist : source defaultStart vars ∈ Set.range (List.map Assignment.entry) := by
    rw [Set.range_list_map]
    exact hrange
  obtain ⟨assignments, heq⟩ := hlist
  exact ⟨assignments, heq.symm⟩

/-- A field has the value of the variable that names it. -/
theorem fromEnvironment?_eq_some_iff {name : String} {field : Field} {v : Value} :
    fromEnvironment? vars name field = some v ↔
      isProviderName name = true ∧
        ∃ var ∈ kept vars, namesField var.1 name field = true ∧ v = written var.2 := by
  rw [fromEnvironment?, Option.map_eq_some_iff]
  constructor
  · intro hgiven
    obtain ⟨var, hfound, rfl⟩ := hgiven
    have hnames := List.find?_some hfound
    rw [Bool.and_eq_true_iff] at hnames
    have hstart := hasStart_of_namesField hnames.1 hnames.2
    exact ⟨hnames.1, var, mem_kept.mpr ⟨List.mem_of_find?_eq_some hfound, hstart⟩, hnames.2, rfl⟩
  · intro hgiven
    obtain ⟨hname, var, hvar, hfield, rfl⟩ := hgiven
    have hsome : (vars.entries.find? fun entry =>
        isProviderName name && namesField entry.1 name field).isSome = true :=
      List.find?_isSome.mpr ⟨var, (mem_kept.mp hvar).1, Bool.and_eq_true_iff.mpr ⟨hname, hfield⟩⟩
    obtain ⟨other, hother⟩ := Option.isSome_iff_exists.mp hsome
    have hnames := List.find?_some hother
    rw [Bool.and_eq_true_iff] at hnames
    have hstart := hasStart_of_namesField hnames.1 hnames.2
    have hkept := mem_kept.mpr ⟨List.mem_of_find?_eq_some hother, hstart⟩
    obtain rfl := h.eq_of_keyPath hvar hkept
      ((keyPath_normalizeName hname hfield).trans (keyPath_normalizeName hnames.1 hnames.2).symm)
    exact ⟨var, hother, rfl⟩

/-- Assignments that make up the source are those of the variables. -/
theorem fromEnvironment?_eq_some_iff_assignment {assignments : List Assignment}
    (heq : source defaultStart vars = assignments.map Assignment.entry) {name : String}
    {field : Field} {v : Value} :
    fromEnvironment? vars name field = some v ↔
      ∃ a ∈ assignments, a.name = name ∧ a.field = field ∧ written a.value = v := by
  rw [h.fromEnvironment?_eq_some_iff]
  constructor
  · intro hgiven
    obtain ⟨hname, var, hvar, hfield, rfl⟩ := hgiven
    have hmem := h.mem_source.mpr ⟨var, hvar, rfl⟩
    rw [heq, keyPath_normalizeName hname hfield] at hmem
    obtain ⟨a, ha, hentry⟩ := List.mem_map.mp hmem
    obtain ⟨hpath, hvalue⟩ := Prod.mk.inj hentry
    obtain ⟨hsame, hfields⟩ := fieldPath_inj a.isName hname hpath
    exact ⟨a, ha, hsame, hfields, hvalue⟩
  · intro hgiven
    obtain ⟨a, ha, rfl, rfl, rfl⟩ := hgiven
    have hmem : a.entry ∈ source defaultStart vars := by
      rw [heq]
      exact List.mem_map_of_mem ha
    obtain ⟨var, hvar, hentry⟩ := h.mem_source.mp hmem
    obtain ⟨name, field, hname, hfield⟩ := h.named_of_kept hvar
    obtain ⟨hpath, hvalue⟩ := Prod.mk.inj hentry
    rw [keyPath_normalizeName hname hfield] at hpath
    obtain ⟨rfl, rfl⟩ := fieldPath_inj a.isName hname hpath
    exact ⟨hname, var, hvar, hfield, hvalue⟩

/-- The last assignment to a field is the only one, that of the variable. -/
theorem lastConfigured?_assignments {assignments : List Assignment}
    (heq : source defaultStart vars = assignments.map Assignment.entry) (name : String)
    (field : Field) :
    lastConfigured? (assignments.map Assignment.document) name field.key =
      fromEnvironment? vars name field := by
  have hsound : ∀ v, lastConfigured? (assignments.map Assignment.document) name field.key = some v →
      fromEnvironment? vars name field = some v := by
    intro v hv
    obtain ⟨document, hmem, hvalue⟩ := exists_of_lastConfigured? hv
    obtain ⟨a, ha, rfl⟩ := List.mem_map.mp hmem
    rw [Assignment.configured?_document, Option.ite_none_right_eq_some] at hvalue
    obtain ⟨⟨hname, hkey⟩, hwritten⟩ := hvalue
    exact (h.fromEnvironment?_eq_some_iff_assignment heq).mpr
      ⟨a, ha, hname.symm, (Field.key_injective hkey).symm, Option.some.inj hwritten⟩
  cases hlast : lastConfigured? (assignments.map Assignment.document) name field.key with
  | some v => exact (hsound v hlast).symm
  | none =>
    refine (Option.eq_none_iff_forall_ne_some.mpr fun v hv => ?_).symm
    obtain ⟨a, ha, rfl, rfl, -⟩ := (h.fromEnvironment?_eq_some_iff_assignment heq).mp hv
    have hnone := lastConfigured?_eq_none_iff.mp hlast _ (List.mem_map_of_mem ha)
    rw [Assignment.configured?_document, if_pos ⟨rfl, rfl⟩] at hnone
    cases hnone

end IsEnvironment

/-- No assignment is spelled with underscores. -/
theorem lastConfigured?_assignments_snakeKey (assignments : List Assignment) (name : String)
    {field : Field} (hspelling : field.snakeKey ≠ field.key) :
    lastConfigured? (assignments.map Assignment.document) name field.snakeKey = none := by
  refine lastConfigured?_eq_none_iff.mpr fun document hmem => ?_
  obtain ⟨a, _, rfl⟩ := List.mem_map.mp hmem
  rw [Assignment.configured?_document, if_neg]
  intro hgiven
  obtain ⟨-, hkey⟩ := hgiven
  revert hspelling hkey
  cases field <;> cases a.field <;> decide

end GrantConfig.Settings
