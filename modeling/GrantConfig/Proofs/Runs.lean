import GrantConfig.Proofs.Documents
import GrantConfig.Proofs.FoldedSpellings
import GrantConfig.Proofs.Visits
import GrantConfig.Settings.Runs

/-!
# What a section may come to

A section may load to settings that have, for each of its entries, a provider that the entry may load
as. It may fail at any entry that may fail, since that entry may come first. Loading in ascending order
is one of the runs.
-/

namespace GrantConfig

open Layer

namespace Provider

/-- In ascending order, a value loads as it may load in any. -/
theorem loadsAs_ofValue (v : Value) : LoadsAs v (ofValue v) := by
  cases v with
  | table entries => exact .table (List.Perm.refl _) (List.Perm.refl _)
  | scalar | list =>
    refine .other fun entries h => ?_
    cases h

/-- In any order, a table loads from fields that are folded by the laws: if each value of a field can
be read, to a provider with what they give, and if not, to the fault of one of them. -/
theorem exists_of_loadsAs_table {entries : Entries} (hdistinct : DistinctKeys entries)
    {r : Except Fault Provider} (h : LoadsAs (.table entries) r) :
    ∃ folded, FoldedFrom entries folded ∧
      (∀ p, r = .ok p ↔
        ∀ field : Field, field.Takes field.load {} p (List.lookup field.key folded)) ∧
      ∀ fault, r = .error fault →
        ∃ (field : Field) (v : Value), List.lookup field.key folded = some v ∧
          field.load v = .error fault := by
  generalize hv : Value.table entries = v at h
  cases h with
  | other hother => exact absurd hv.symm (hother entries)
  | @table _ visited fields spellings order =>
    obtain rfl := Value.table.inj hv
    have hvisited : DistinctKeys visited := spellings.symm.pairwise hdistinct Ne.symm
    have hfolded := (foldedFrom_kebabFields hvisited).of_perm spellings hvisited
    have hfields : DistinctKeys fields := order.symm.pairwise hfolded.distinct Ne.symm
    have hkebab : ∀ entry ∈ fields, isSnakeKey entry.1 = false :=
      fun entry hentry => isSnakeKey_of_mem_kebabFields entry (order.mem_iff.mp hentry)
    refine ⟨kebabFields visited, hfolded, fun p => ?_, fun fault hfault => ?_⟩
    · rw [loadFields_eq_ok hfields hkebab]
      simp only [lookup_perm order hfields]
    · obtain ⟨⟨key, v⟩, hentry, field, hkey, hvalue⟩ := exists_of_loadFields_error hfault
      refine ⟨field, v, ?_, hvalue⟩
      rw [← lookup_perm order hfields]
      rcases ofKey?_eq_some_iff.mp hkey with heq | heq
      · rw [← heq]
        exact lookup_of_mem hfields hentry
      · have hsnake := hkebab _ hentry
        have hsame : field.snakeKey = field.key := by
          revert hsnake
          rw [heq]
          cases field <;> decide
        rw [← hsame, ← heq]
        exact lookup_of_mem hfields hentry

/-- A value of a field that cannot be read. -/
def Faulty (fields : Entries) (field : Field) (fault : Fault) : Prop :=
  ∃ v, List.lookup field.key (kebabFields fields) = some v ∧ field.load v = .error fault

/-- Where spellings leave no choice, a table loads to the same provider in any order, or to the fault
of one of its fields. -/
theorem LoadsAs.of_foldsClear {fields : Entries} (hdistinct : DistinctKeys fields)
    (hclear : FoldsClear fields) {r : Except Fault Provider} (h : LoadsAs (.table fields) r) :
    (∀ p, r = .ok p ↔ ofValue (.table fields) = .ok p) ∧
      ∀ fault, r = .error fault → ∃ field, Faulty fields field fault := by
  obtain ⟨folded, hfolded, hok, herror⟩ := exists_of_loadsAs_table hdistinct h
  have hdefault := foldedFrom_kebabFields hdistinct
  have hlookup (key : String) : List.lookup key folded = List.lookup key (kebabFields fields) :=
    Option.ext fun v => ⟨hfolded.lookup_eq hdefault hclear, hdefault.lookup_eq hfolded hclear⟩
  simp only [hlookup] at hok herror
  refine ⟨fun p => ?_, herror⟩
  rw [hok, ofValue, loadFields_eq_ok hdefault.distinct isSnakeKey_of_mem_kebabFields]

/-- A table with a value that cannot be read loads to nothing. -/
theorem not_ok_of_faulty {fields : Entries} (hdistinct : DistinctKeys fields) {field : Field}
    {fault : Fault} (h : Faulty fields field fault) (p : Provider) :
    ofValue (.table fields) ≠ .ok p := by
  intro hok
  obtain ⟨v, hv, hfault⟩ := h
  rw [ofValue, loadFields_eq_ok (distinctKeys_kebabFields hdistinct) isSnakeKey_of_mem_kebabFields]
    at hok
  have htakes := hok field
  rw [hv, Field.Takes, hfault] at htakes
  cases htakes

/-- Any value of a field that cannot be read may be the one that is found. -/
theorem loadsAs_of_faulty {fields : Entries} {field : Field} {fault : Fault}
    (h : Faulty fields field fault) : LoadsAs (.table fields) (.error fault) := by
  obtain ⟨v, hv, hfault⟩ := h
  obtain ⟨before, after, hsplit⟩ := List.append_of_mem (mem_of_lookup hv)
  have horder : ((field.key, v) :: (before ++ after)).Perm (kebabFields fields) := by
    rw [hsplit]
    exact List.perm_middle.symm
  have hload : loadFields {} ((field.key, v) :: (before ++ after)) = .error fault := by
    rw [loadFields, ofKey?_eq_some_iff.mpr (.inl rfl)]
    simp only [loadField_eq, hfault]
    rfl
  rw [← hload]
  exact .table (List.Perm.refl _) horder

/-! ## Values that leave no choice -/


/-- A value whose fields are spelled so that folding leaves no choice, if it has fields. -/
def Clear (v : Value) : Prop := ∀ fields, v = .table fields → FoldsClear fields

/-- A clear value loads to the same provider in any order. -/
theorem LoadsAs.ok_iff {v : Value} (hnormal : v.Normal) (hclear : Clear v)
    {r : Except Fault Provider} (h : LoadsAs v r) (p : Provider) :
    r = .ok p ↔ ofValue v = .ok p := by
  by_cases htable : ∃ fields, v = .table fields
  · obtain ⟨fields, rfl⟩ := htable
    exact (h.of_foldsClear hnormal.ascending.distinctKeys (hclear fields rfl)).1 p
  · cases h with
    | table => exact absurd ⟨_, rfl⟩ htable
    | other => exact Iff.rfl

/-- At most one field of a value cannot be read, if it has fields. -/
def OneFaulty (v : Value) : Prop :=
  ∀ fields, v = .table fields → ∀ field other fault fault', Faulty fields field fault →
    Faulty fields other fault' → field = other

/-- A clear value of which one field at most cannot be read fails alike in any order. -/
theorem LoadsAs.error_unique {v : Value} (hnormal : v.Normal) (hclear : Clear v) (hone : OneFaulty v)
    {fault fault' : Fault} (h : LoadsAs v (.error fault)) (h' : LoadsAs v (.error fault')) :
    fault = fault' := by
  by_cases htable : ∃ fields, v = .table fields
  · obtain ⟨fields, rfl⟩ := htable
    have hdistinct := hnormal.ascending.distinctKeys
    obtain ⟨field, hfaulty⟩ := (h.of_foldsClear hdistinct (hclear fields rfl)).2 fault rfl
    obtain ⟨other, hfaulty'⟩ := (h'.of_foldsClear hdistinct (hclear fields rfl)).2 fault' rfl
    obtain rfl := hone fields rfl field other fault fault' hfaulty hfaulty'
    obtain ⟨w, hw, hfault⟩ := hfaulty
    obtain ⟨w', hw', hfault'⟩ := hfaulty'
    obtain rfl := Option.some.inj (hw.symm.trans hw')
    exact Except.error.inj (hfault.symm.trans hfault')
  · have hvalue {fault : Fault} (h : LoadsAs v (.error fault)) : ofValue v = .error fault := by
      generalize hr : (.error fault : Except Fault Provider) = r at h
      cases h with
      | table => exact absurd ⟨_, rfl⟩ htable
      | other => rfl
    exact Except.error.inj ((hvalue h).symm.trans (hvalue h'))

end Provider

namespace Settings

open Provider

/-! ## Filling in any order -/

/-- Filling fails at one of the entries, with a fault of that entry. -/
theorem exists_of_fillsAs_error {known : SortedMap Provider} {entries : Entries} {e : ConfigError}
    (h : FillsAs known entries (.error e)) :
    ∃ entry ∈ entries, ∃ fault, LoadsAs entry.2 (.error fault) ∧
      e = .provider entry.1 (.load fault) := by
  generalize hr : (.error e : Except ConfigError (SortedMap Provider)) = r at h
  induction h with
  | nil => cases hr
  | cons first more ih =>
    obtain ⟨entry, hentry, hfault⟩ := ih hr
    exact ⟨entry, List.mem_cons_of_mem _ hentry, hfault⟩
  | @fault known name v fault rest first =>
    cases hr
    exact ⟨(name, v), List.mem_cons_self, fault, first, rfl⟩

/-- Filling puts a provider that the entry may load as under each name. -/
theorem exists_of_fillsAs_ok {known m : SortedMap Provider} {entries : Entries}
    (hdistinct : DistinctKeys entries) (h : FillsAs known entries (.ok m)) :
    ∃ p : String → Provider, (∀ entry ∈ entries, LoadsAs entry.2 (.ok (p entry.1))) ∧
      m.entries = insertEach known.entries (entries.map fun entry => (entry.1, p entry.1)) := by
  generalize hr : (.ok m : Except ConfigError (SortedMap Provider)) = r at h
  induction h with
  | nil =>
    cases hr
    exact ⟨fun _ => {}, List.forall_mem_nil _, rfl⟩
  | fault => cases hr
  | @cons known name v q rest r first more ih =>
    obtain ⟨hname, hrest⟩ := List.pairwise_cons.mp hdistinct
    obtain ⟨p, hp, hm⟩ := ih hrest hr
    have hself : Function.update p name q name = q := Function.update_self _ _ _
    have hother : ∀ entry ∈ rest, Function.update p name q entry.1 = p entry.1 :=
      fun entry hentry => Function.update_of_ne (hname entry hentry).symm _ _
    refine ⟨Function.update p name q, List.forall_mem_cons.mpr ⟨?_, fun entry hentry => ?_⟩, ?_⟩
    · rw [hself]
      exact first
    · rw [hother entry hentry]
      exact hp entry hentry
    · have hmapped : rest.map (fun entry => (entry.1, Function.update p name q entry.1)) =
          rest.map fun entry => (entry.1, p entry.1) :=
        List.map_congr_left fun entry hentry => by rw [hother entry hentry]
      rw [hm, List.map_cons, hself, hmapped]
      rfl

/-- Providers that the entries may load as may fill. -/
theorem fillsAs_of_loadsAs {p : String → Provider} {entries : Entries}
    (h : ∀ entry ∈ entries, LoadsAs entry.2 (.ok (p entry.1))) (known : SortedMap Provider) :
    ∃ m, FillsAs known entries (.ok m) ∧
      m.entries = insertEach known.entries (entries.map fun entry => (entry.1, p entry.1)) := by
  induction entries generalizing known with
  | nil => exact ⟨known, .nil known, rfl⟩
  | cons first rest ih =>
    obtain ⟨hfirst, hrest⟩ := List.forall_mem_cons.mp h
    obtain ⟨m, hm, hentries⟩ := ih hrest (known.insert first.1 (p first.1))
    exact ⟨m, .cons hfirst hm, hentries⟩

/-! ## Sections -/

/-- Providers of entries by their names. -/
theorem lookup_insertEach_providers (p : String → Provider) {entries : Entries}
    (hdistinct : DistinctKeys entries) (name : String) :
    List.lookup name (insertEach [] (entries.map fun entry => (entry.1, p entry.1))) =
      (List.lookup name entries).map fun _ => p name := by
  have hmapped : DistinctKeys (entries.map fun entry => (entry.1, p entry.1)) :=
    List.pairwise_map.mpr hdistinct
  rw [lookup_insertEach hmapped, lookup_map (fun name _ => p name)]
  exact Option.or_none

/-- Settings that a section may load to have a provider that the entry may load as under each of its
names, and no other ones. -/
theorem exists_of_sectionLoadsAs_ok {found : Option Value} {s : Settings}
    (hdistinct : DistinctKeys (entriesIn found)) (h : SectionLoadsAs found (.ok s)) :
    (∀ v, found = some v → ∃ entries, v = .table entries) ∧
      ∃ p : String → Provider, (∀ entry ∈ entriesIn found, LoadsAs entry.2 (.ok (p entry.1))) ∧
        ∀ name, s.provider? name = (List.lookup name (entriesIn found)).map fun _ => p name := by
  generalize hr : (.ok s : Except ConfigError Settings) = r at h
  cases h with
  | @table entries visited filled order fills =>
    obtain ⟨m, rfl, rfl⟩ := map_eq_ok.mp hr.symm
    have hvisited : DistinctKeys visited := order.symm.pairwise hdistinct Ne.symm
    obtain ⟨p, hp, hm⟩ := exists_of_fillsAs_ok hvisited fills
    refine ⟨fun v hv => ⟨entries, (Option.some.inj hv).symm⟩, p,
      fun entry hentry => hp entry (order.mem_iff.mpr hentry), fun name => ?_⟩
    rw [provider?, SortedMap.find?, hm]
    refine (lookup_insertEach_providers p hvisited name).trans ?_
    rw [lookup_perm order hvisited]
    rfl
  | other hother =>
    obtain ⟨htable, _⟩ := ofSection_eq_ok.mp hr.symm
    cases found with
    | none =>
      cases hr
      exact ⟨htable, fun _ => {}, List.forall_mem_nil _, fun name => rfl⟩
    | some v =>
      obtain ⟨entries, rfl⟩ := htable v rfl
      exact absurd rfl (hother entries)

/-- Conversely, a section that is a table if anything may load to any providers that its entries may
load as. -/
theorem exists_sectionLoadsAs_ok {found : Option Value} (hdistinct : DistinctKeys (entriesIn found))
    (htable : ∀ v, found = some v → ∃ entries, v = .table entries) {p : String → Provider}
    (h : ∀ entry ∈ entriesIn found, LoadsAs entry.2 (.ok (p entry.1))) :
    ∃ s, SectionLoadsAs found (.ok s) ∧
      ∀ name, s.provider? name = (List.lookup name (entriesIn found)).map fun _ => p name := by
  cases found with
  | none => exact ⟨{}, .other (fun _ hv => by cases hv), fun name => rfl⟩
  | some v =>
    obtain ⟨entries, rfl⟩ := htable v rfl
    have hloads : ∀ entry ∈ entries, LoadsAs entry.2 (.ok (p entry.1)) := h
    obtain ⟨m, hm, hentries⟩ := fillsAs_of_loadsAs hloads ∅
    refine ⟨⟨m⟩, .table (List.Perm.refl _) hm, fun name => ?_⟩
    rw [provider?, SortedMap.find?, hentries]
    exact lookup_insertEach_providers p hdistinct name

/-- Two sections with the same entries but for one name may load to the same providers but for that
one, which is what stands under the name. -/
theorem exists_sectionLoadsAs_update {found other : Option Value} {name : String} {q : Provider}
    {p : String → Provider} (hdistinct : DistinctKeys (entriesIn other))
    (htable : ∀ v, other = some v → ∃ entries, v = .table entries)
    (hothers : ∀ key, key ≠ name →
      List.lookup key (entriesIn found) = List.lookup key (entriesIn other))
    (hp : ∀ entry ∈ entriesIn found, LoadsAs entry.2 (.ok (p entry.1)))
    (hq : ∀ v, List.lookup name (entriesIn other) = some v → LoadsAs v (.ok q)) :
    ∃ t, SectionLoadsAs other (.ok t) ∧ ∀ key, t.provider? key =
      (List.lookup key (entriesIn other)).map fun _ => Function.update p name q key := by
  refine exists_sectionLoadsAs_ok hdistinct htable fun entry hentry => ?_
  have hvalue := lookup_of_mem hdistinct hentry
  by_cases hname : entry.1 = name
  · rw [hname, Function.update_self]
    exact hq _ (hname ▸ hvalue)
  · rw [Function.update_of_ne hname]
    rw [← hothers _ hname] at hvalue
    exact hp _ (mem_of_lookup hvalue)

/-- A section may fail where it is no table, and at each entry that may fail. -/
theorem sectionLoadsAs_error_iff {found : Option Value} {e : ConfigError} :
    SectionLoadsAs found (.error e) ↔
      (∀ entries, found ≠ some (.table entries)) ∧ ofSection found = .error e ∨
        ∃ entry ∈ entriesIn found, ∃ fault, LoadsAs entry.2 (.error fault) ∧
          e = .provider entry.1 (.load fault) := by
  constructor
  · intro h
    generalize hr : (.error e : Except ConfigError Settings) = r at h
    cases h with
    | @table entries visited filled order fills =>
      right
      cases filled with
      | ok m => cases hr
      | error fault =>
        cases hr
        obtain ⟨entry, hentry, hfault⟩ := exists_of_fillsAs_error fills
        exact ⟨entry, order.mem_iff.mp hentry, hfault⟩
    | other hother => exact .inl ⟨hother, rfl⟩
  · rintro (⟨hother, herror⟩ | ⟨⟨name, v⟩, hentry, fault, hfault, rfl⟩)
    · rw [← herror]
      exact .other hother
    · cases found with
      | none => cases hentry
      | some w =>
        cases w with
        | scalar | list => cases hentry
        | table entries =>
          -- the entry may come first
          obtain ⟨before, after, hsplit⟩ := List.append_of_mem hentry
          have hsplit : entries = before ++ (name, v) :: after := hsplit
          have horder : ((name, v) :: (before ++ after)).Perm entries := by
            rw [hsplit]
            exact List.perm_middle.symm
          exact .table horder (.fault ∅ name (before ++ after) hfault)

/-- What is no table has no entries. -/
theorem entriesIn_of_ne_table {found : Option Value} (h : ∀ entries, found ≠ some (.table entries)) :
    entriesIn found = [] := by
  cases found with
  | none => rfl
  | some v =>
    cases v with
    | scalar | list => rfl
    | table entries => exact absurd rfl (h entries)

/-- Any section may come to something. -/
theorem sectionLoadsAs_ofSection (found : Option Value) : SectionLoadsAs found (ofSection found) := by
  have hfills (known : SortedMap Provider) (entries : Entries) :
      FillsAs known entries (loadEntries known entries) := by
    induction entries generalizing known with
    | nil => exact .nil known
    | cons first rest ih =>
      obtain ⟨name, v⟩ := first
      have hfirst := loadsAs_ofValue v
      rw [loadEntries]
      cases hvalue : ofValue v with
      | ok p => exact .cons (hvalue ▸ hfirst) (ih _)
      | error fault => exact .fault known name rest (hvalue ▸ hfirst)
  by_cases htable : ∃ entries, found = some (.table entries)
  · obtain ⟨entries, rfl⟩ := htable
    exact .table (List.Perm.refl _) (hfills ∅ entries)
  · exact .other (not_exists.mp htable)

/-! ## Sections that leave no choice -/

/-- At most one provider of a section does not load, because of one field at most. -/
structure OneFault (found : Option Value) : Prop where
  provider : ∀ entry ∈ entriesIn found, ∀ other ∈ entriesIn found, ∀ fault fault',
    ofValue entry.2 = .error fault → ofValue other.2 = .error fault' → entry = other
  field : ∀ entry ∈ entriesIn found, OneFaulty entry.2

section

variable {found : Option Value} (hnormal : ∀ v, found = some v → v.Normal)
  (hclear : ∀ entry ∈ entriesIn found, Clear entry.2)

include hnormal

/-- The entries of a section in normal form are in normal form. -/
theorem normal_entriesIn : (Value.table (entriesIn found)).Normal := by
  cases found with
  | none => exact .empty
  | some v => exact (hnormal v rfl).toEntries

include hclear

/-- A clear section loads to the same settings in any order, if it loads in one. -/
theorem SectionLoadsAs.eq_of_ok {s : Settings} (h : SectionLoadsAs found (.ok s))
    {r : Except ConfigError Settings} (h' : SectionLoadsAs found r) : r = .ok s := by
  have hentries := normal_entriesIn hnormal
  have hdistinct := hentries.ascending.distinctKeys
  have hvalues : ∀ entry ∈ entriesIn found, entry.2.Normal := by
    cases hentries with
    | table _ values => exact values
  obtain ⟨htable, p, hp, hs⟩ := exists_of_sectionLoadsAs_ok hdistinct h
  have hloads : ∀ entry ∈ entriesIn found, ofValue entry.2 = .ok (p entry.1) := fun entry hentry =>
    ((hp entry hentry).ok_iff (hvalues entry hentry) (hclear entry hentry) _).mp rfl
  cases r with
  | ok t =>
    obtain ⟨_, q, hq, ht⟩ := exists_of_sectionLoadsAs_ok hdistinct h'
    have hsame : t.providers = s.providers := SortedMap.ext_find? fun name => by
      refine (ht name).trans (Eq.trans ?_ (hs name).symm)
      cases hvalue : List.lookup name (entriesIn found) with
      | none => rfl
      | some v =>
        have hmem := mem_of_lookup hvalue
        have hq' := ((hq _ hmem).ok_iff (hvalues _ hmem) (hclear _ hmem) _).mp rfl
        exact congrArg some (Except.ok.inj (hq'.symm.trans (hloads _ hmem)))
    exact congrArg (fun m => Except.ok (Settings.mk m)) hsame
  | error e =>
    rcases sectionLoadsAs_error_iff.mp h' with hother | hentry
    · obtain ⟨hother, herror⟩ := hother
      cases found with
      | none => cases herror
      | some v =>
        obtain ⟨entries, rfl⟩ := htable v rfl
        exact absurd rfl (hother entries)
    · obtain ⟨entry, hmem, fault, hfault, _⟩ := hentry
      have hok := (hfault.ok_iff (hvalues entry hmem) (hclear entry hmem) _).mpr (hloads entry hmem)
      cases hok

/-- A clear section that one field at most keeps from loading comes to the same in any order. -/
theorem SectionLoadsAs.unique (hone : OneFault found) {r r' : Except ConfigError Settings}
    (h : SectionLoadsAs found r) (h' : SectionLoadsAs found r') : r = r' := by
  cases r with
  | ok s => exact (h.eq_of_ok hnormal hclear h').symm
  | error e =>
    cases r' with
    | ok s => exact h'.eq_of_ok hnormal hclear h
    | error e' =>
      have hvalues : ∀ entry ∈ entriesIn found, entry.2.Normal := by
        cases normal_entriesIn hnormal with
        | table _ values => exact values
      have hfails {entry : String × Value} (hmem : entry ∈ entriesIn found) {fault : Fault}
          (hfault : LoadsAs entry.2 (.error fault)) : ∃ fault, ofValue entry.2 = .error fault := by
        cases hvalue : ofValue entry.2 with
        | error fault => exact ⟨fault, rfl⟩
        | ok p => cases (hfault.ok_iff (hvalues entry hmem) (hclear entry hmem) p).mpr hvalue
      rcases sectionLoadsAs_error_iff.mp h with hother | hentry
      · rcases sectionLoadsAs_error_iff.mp h' with hother' | hentry'
        · rw [← hother.2, hother'.2]
        · obtain ⟨entry, hmem, _⟩ := hentry'
          rw [entriesIn_of_ne_table hother.1] at hmem
          cases hmem
      · obtain ⟨entry, hmem, fault, hfault, rfl⟩ := hentry
        rcases sectionLoadsAs_error_iff.mp h' with hother' | hentry'
        · rw [entriesIn_of_ne_table hother'.1] at hmem
          cases hmem
        · obtain ⟨other, hmem', fault', hfault', rfl⟩ := hentry'
          obtain ⟨_, herror⟩ := hfails hmem hfault
          obtain ⟨_, herror'⟩ := hfails hmem' hfault'
          obtain rfl := hone.provider entry hmem other hmem' _ _ herror herror'
          rw [hfault.error_unique (hvalues entry hmem) (hclear entry hmem) (hone.field entry hmem)
            hfault']

end

/-! ## Runs -/

section

variable {files : Files} {sources : List Source} {start : String} {vars : SortedMap String}

/-- Loading in ascending order is one of the runs. -/
theorem loads_load (files : Files) (sources : List Source) (start : String)
    (vars : SortedMap String) : Loads files sources start vars (load files sources start vars) := by
  rw [load]
  cases hread : sources.mapM (Source.read files) with
  | error fault => exact .unread (List.Perm.refl _) hread
  | ok documents =>
    have hvisits : List.Forall₂ DocumentVisited documents documents :=
      List.forall₂_same.mpr fun document _ => .refl document
    exact .merged (List.Perm.refl _) hread hvisits (Environment.written_source start vars)
      (sectionLoadsAs_ofSection _)

/-- Documents in any order and what the variables may write are merged in one of the runs. -/
theorem loads_visited {documents visited : List Entries} {writes : Entries}
    (hread : sources.mapM (Source.read files) = .ok documents)
    (hvisits : List.Forall₂ DocumentVisited documents visited)
    (hwritten : Environment.Written start vars writes) {r : Except ConfigError Settings}
    (h : SectionLoadsAs (section? (mergeSources (visited ++ [writes]))) r) :
    Loads files sources start vars
      (told sources (section? (mergeSources (visited ++ [writes]))).isNone r) :=
  .merged (List.Perm.refl _) hread hvisits hwritten h

/-- The fields of a provider in a document may be gone through in any order. -/
theorem documentVisited_providerDocument (name : String) {fields visited : Entries}
    (order : fields.Perm visited) :
    DocumentVisited (providerDocument name fields) (providerDocument name visited) := by
  have hname : (Value.table [(name, .table fields)]).Visited (.table [(name, .table visited)]) :=
    .table (.cons name (.table (.refl fields) order) .nil) (List.Perm.refl _)
  have hproviders : (Value.table [(providersKey, .table [(name, .table fields)])]).Visited
      (.table [(providersKey, .table [(name, .table visited)])]) :=
    .table (.cons providersKey hname .nil) (List.Perm.refl _)
  refine ⟨providerDocument name visited, .cons ⟨rfl, hproviders, fun hlist => ?_⟩ .nil,
    List.Perm.refl _⟩
  have hroot : endsInList (KeyPath.ofKey rootKey).steps = false := by decide
  cases hroot.symm.trans hlist

/-- Where every run succeeds, the sources can be read in any order of formats. -/
theorem exists_read_of_loads
    (h : ∀ r, Loads files sources start vars r → ∃ s, r.value = .ok s) {formats : List Format}
    (order : formats.Perm Format.all) :
    ∃ documents, sources.mapM (Source.readIn files formats) = .ok documents := by
  cases hread : sources.mapM (Source.readIn files formats) with
  | ok documents => exact ⟨documents, rfl⟩
  | error fault =>
    obtain ⟨s, hs⟩ := h _ (.unread order hread)
    cases hs

/-- The entries of the section of a merged table have distinct keys. -/
theorem distinctKeys_section (sources : List Entries) :
    DistinctKeys (entriesIn (section? (mergeSources sources))) := by
  rw [entriesIn, section?_toEntries]
  exact (normal_providersOf (normal_mergeSources sources)).ascending.distinctKeys

end

end Settings

end GrantConfig
