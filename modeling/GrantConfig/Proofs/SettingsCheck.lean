import GrantConfig.Proofs.Resolution
import GrantConfig.Proofs.Utf8Bytes

/-!
# Settings are checked in the order of names

A check of settings goes through the providers in the byte order of their names and stops at the
first that fails. So the provider that it reports is the failing one with the smallest name, and
neither the outcome nor the log tells in which order the providers have come in.
-/

namespace GrantConfig.Settings

open Text

/-- A check that fails stops behind providers that are all valid. -/
theorem exists_of_validateEntries_error {entries : List (String × Provider)} {e : ConfigError}
    (h : validateEntries entries = .error e) :
    ∃ before name p source after, entries = before ++ (name, p) :: after ∧
      (∀ entry ∈ before, entry.2.validate = .ok ()) ∧ p.validate = .error source ∧
      e = .provider name source := by
  induction entries with
  | nil => cases h
  | cons first rest ih =>
    obtain ⟨name, p⟩ := first
    rw [validateEntries] at h
    cases hp : p.validate with
    | error source =>
      rw [hp] at h
      cases h
      exact ⟨[], name, p, source, rest, rfl, List.forall_mem_nil _, hp, rfl⟩
    | ok valid =>
      rw [hp] at h
      obtain ⟨before, other, q, source, after, rfl, hbefore, hq, rfl⟩ := ih h
      refine ⟨(name, p) :: before, other, q, source, after, rfl, ?_, hq, rfl⟩
      exact List.forall_mem_cons.mpr ⟨hp, hbefore⟩

/-- A provider fails its own check, and no failing provider has a smaller name in byte order. -/
structure FirstFailing (s : Settings) (name : String) (source : ConfigError) : Prop where
  fails : ∃ p, s.provider? name = some p ∧ p.validate = .error source
  smallest : ∀ other p e, s.provider? other = some p → p.validate = .error e →
    Utf8.encode name.toList ≤ Utf8.encode other.toList

/-- The provider at which a check stops is the first failing one. -/
theorem firstFailing_of_validate {s : Settings} {e : ConfigError} (h : s.validate = .error e) :
    ∃ name source, FirstFailing s name source ∧ e = .provider name source := by
  obtain ⟨before, name, p, source, after, hentries, hbefore, hp, rfl⟩ :=
    exists_of_validateEntries_error h
  have hascending := s.providers.ascending
  rw [hentries, Ascending, List.pairwise_append, List.pairwise_cons] at hascending
  refine ⟨name, source, ⟨⟨p, ?_, hp⟩, ?_⟩, rfl⟩
  · rw [provider?, SortedMap.find?_eq_some_iff, hentries]
    exact List.mem_append_right _ List.mem_cons_self
  · intro other q d hother hq
    rw [provider?, SortedMap.find?_eq_some_iff, hentries, List.mem_append, List.mem_cons] at hother
    rcases hother with hvalid | hself | hlater
    · have hok := hbefore _ hvalid
      rw [hq] at hok
      cases hok
    · cases hself
      exact List.le_refl _
    · exact List.le_of_lt (Utf8.encode_toList_lt (hascending.2.1.1 _ hlater))

/-- The names are those of the providers. -/
theorem mem_names_iff {s : Settings} {name : String} :
    name ∈ s.names ↔ ∃ p, s.provider? name = some p := by
  rw [names, SortedMap.keys, mem_keys_iff]
  rfl

/-! ## Names in any order -/

/-- They are in ascending order. -/
theorem pairwise_names (s : Settings) : s.names.Pairwise (· < ·) :=
  List.pairwise_map.mpr s.providers.ascending

/-- Names that are listed in any order are sorted to the ascending ones. -/
theorem mergeSort_eq_names {s : Settings} {listed : List String} (h : listed.Perm s.names) :
    listed.mergeSort (fun a b => decide (a ≤ b)) = s.names := by
  have htrans : ∀ a b c : String, decide (a ≤ b) = true → decide (b ≤ c) = true →
      decide (a ≤ c) = true := by
    simpa only [decide_eq_true_eq] using fun a b c => String.le_trans
  have htotal : ∀ a b : String, (decide (a ≤ b) || decide (b ≤ a)) = true := by
    simpa only [Bool.or_eq_true, decide_eq_true_eq] using String.le_total
  have hsorted := List.pairwise_mergeSort htrans htotal listed
  simp only [decide_eq_true_eq] at hsorted
  refine List.Perm.eq_of_pairwise (fun a b _ _ hab hba => String.le_antisymm hab hba) hsorted ?_
    ((List.mergeSort_perm listed _).trans h)
  exact s.pairwise_names.imp fun hlt => Std.le_of_lt hlt

/-- Check the providers of listed names in turn, up to the first that fails. -/
def validateListed (s : Settings) : List String → Except ConfigError Unit
  | [] => .ok ()
  | name :: rest =>
    match s.provider? name with
    | none => s.validateListed rest
    | some p =>
      match p.validate with
      | .ok _ => s.validateListed rest
      | .error e => .error (.provider name e)

/-- To look up the providers of names in order is to go through the entries. -/
theorem validateListed_eq {s : Settings} {entries : List (String × Provider)}
    (h : ∀ entry ∈ entries, s.provider? entry.1 = some entry.2) :
    s.validateListed (entries.map Prod.fst) = validateEntries entries := by
  induction entries with
  | nil => rfl
  | cons first rest ih =>
    obtain ⟨hfirst, hrest⟩ := List.forall_mem_cons.mp h
    rw [List.map_cons, validateListed, hfirst, ih hrest]
    rfl

/-- To check the providers by their names is to check the settings. -/
theorem validateListed_names (s : Settings) : s.validateListed s.names = s.validate := by
  refine validateListed_eq fun entry hentry => ?_
  exact SortedMap.find?_eq_some_iff.mpr hentry

/-- The check of settings tells of the first failing provider, in its outcome and in its only line,
and depends on the providers by their names alone. -/
structure ChecksInOrder (s : Settings) : Prop where
  /-- Names ascend strictly in byte order. -/
  ascending : s.names.Pairwise fun a b => Utf8.encode a.toList < Utf8.encode b.toList
  complete : ∀ name, name ∈ s.names ↔ ∃ p, s.provider? name = some p
  logged : s.loggedValidate.value = s.validate
  passes : s.validate = .ok () ↔ ∀ name p, s.provider? name = some p → p.validate = .ok ()
  silent : s.validate = .ok () → s.loggedValidate.lines = []
  fails : ∀ e, s.validate = .error e → ∃ name source,
    FirstFailing s name source ∧ e = .provider name source ∧
      s.loggedValidate.lines =
        [⟨.warn, "OAuth provider '" ++ name ++ "' is misconfigured: " ++ source.message⟩]
  /-- Sorting the names settles the order, however they are listed. -/
  listed : ∀ listed : List String, listed.Perm s.names →
    listed.mergeSort (fun a b => decide (a ≤ b)) = s.names ∧
      s.validateListed (listed.mergeSort fun a b => decide (a ≤ b)) = s.validate
  /-- The providers may have been put in in any order. -/
  anyOrder : ∀ entries : List (String × Provider), entries.Perm s.providers.entries →
    (Settings.mk (.ofList entries)).names = s.names ∧
      (Settings.mk (.ofList entries)).loggedValidate = s.loggedValidate

/-- Settings are checked in the byte order of names, up to the first provider that fails. -/
theorem validate_reports_first (s : Settings) : ChecksInOrder s := by
  constructor
  case ascending => exact s.pairwise_names.imp Utf8.encode_toList_lt
  case complete => exact fun name => mem_names_iff
  case logged => rfl
  case passes => exact validate_eq_ok
  case silent =>
    intro hvalid
    rw [loggedValidate, hvalid]
  case fails =>
    intro e he
    obtain ⟨name, source, hfirst, rfl⟩ := firstFailing_of_validate he
    refine ⟨name, source, hfirst, rfl, ?_⟩
    rw [loggedValidate, he]
    rfl
  case listed =>
    intro listed hperm
    rw [mergeSort_eq_names hperm]
    exact ⟨rfl, s.validateListed_names⟩
  case anyOrder =>
    intro entries hperm
    rw [SortedMap.ofList_of_perm hperm]
    exact ⟨rfl, rfl⟩

end GrantConfig.Settings
