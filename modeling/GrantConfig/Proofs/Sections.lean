import GrantConfig.Proofs.Merge
import GrantConfig.Proofs.Spelling

/-!
# Settings provider by provider

Settings are filled entry by entry, from the providers' section of a merged table as well as from a
JSON object. They are there exactly when every entry gives a provider, and then they hold that
provider under the name of the entry and nothing else.
-/

namespace GrantConfig

open Layer

variable {ε α β : Type}

/-- Put what the values of entries give under their keys, one after the other. -/
def fillEach (f : String → α → Except ε β) (known : SortedMap β) :
    List (String × α) → Except ε (SortedMap β)
  | [] => .ok known
  | (name, v) :: rest => do fillEach f (known.insert name (← f name v)) rest

/-- What a map that is filled holds under a name: what the value of that name gives, or what was
there before. -/
def FilledAt (f : String → α → Except ε β) (before after : SortedMap β) (name : String) :
    Option α → Prop
  | some v => ∃ b, f name v = .ok b ∧ after.find? name = some b
  | none => after.find? name = before.find? name

/-- A value that is put under another name does not matter to a name. -/
theorem filledAt_insert_iff {f : String → α → Except ε β} {m n : SortedMap β} {name other : String}
    (b : β) (h : other ≠ name) (value : Option α) :
    FilledAt f (m.insert name b) n other value ↔ FilledAt f m n other value := by
  cases value with
  | none => rw [FilledAt, FilledAt, SortedMap.find?_insert_of_ne m b h]
  | some v => exact Iff.rfl

/-- Filling from entries with distinct keys succeeds exactly when every entry gives something. -/
theorem fillEach_eq_ok {f : String → α → Except ε β} {entries : List (String × α)}
    (hdistinct : DistinctKeys entries) {known m : SortedMap β} :
    fillEach f known entries = .ok m ↔
      ∀ name, FilledAt f known m name (List.lookup name entries) := by
  induction entries generalizing known with
  | nil =>
    constructor
    · intro h name
      cases h
      rfl
    · intro h
      exact congrArg _ (SortedMap.ext_find? fun name => (h name).symm)
  | cons first rest ih =>
    obtain ⟨k, v⟩ := first
    have hrest := List.pairwise_cons.mp hdistinct
    have hlater := lookup_tail hdistinct
    rw [fillEach]
    simp only [bind_eq_ok, ih hrest.2]
    constructor
    · intro hgiven name
      obtain ⟨b, hb, h⟩ := hgiven
      by_cases hname : name = k
      · subst hname
        have hfound := h name
        rw [hlater, FilledAt, SortedMap.find?_insert_self] at hfound
        rw [List.lookup_cons_self]
        exact ⟨b, hb, hfound⟩
      · rw [lookup_cons_of_ne v rest hname]
        exact (filledAt_insert_iff b hname _).mp (h name)
    · intro h
      have hfirst := h k
      rw [List.lookup_cons_self] at hfirst
      obtain ⟨b, hb, hfound⟩ := hfirst
      refine ⟨b, hb, fun name => ?_⟩
      by_cases hname : name = k
      · subst hname
        rw [hlater, FilledAt, SortedMap.find?_insert_self]
        exact hfound
      · have hother := h name
        rw [lookup_cons_of_ne v rest hname] at hother
        exact (filledAt_insert_iff b hname _).mpr hother

namespace Settings

/-- The provider that a value of the providers' section gives under a name. -/
def loadProvider (name : String) (v : Value) : Except ConfigError Provider :=
  (Provider.ofValue v).mapError fun fault => .provider name (.load fault)

/-- To load providers is to fill a map by loading each entry. -/
theorem loadEntries_eq (known : SortedMap Provider) (entries : Entries) :
    loadEntries known entries = fillEach loadProvider known entries := by
  induction entries generalizing known with
  | nil => rfl
  | cons first rest ih =>
    obtain ⟨name, v⟩ := first
    rw [loadEntries, fillEach, loadProvider]
    cases Provider.ofValue v with
    | error fault => rfl
    | ok p => exact ih _

/-- To bind providers is to fill a map by binding each entry. -/
theorem bindEntries_eq (known : SortedMap Provider) (entries : List (String × Json)) :
    bindEntries known entries = fillEach (fun _ => Provider.ofJson) known entries := by
  induction entries generalizing known with
  | nil => rfl
  | cons first rest ih =>
    obtain ⟨name, v⟩ := first
    rw [bindEntries, fillEach]
    cases Provider.ofJson v with
    | error fault => rfl
    | ok p => exact ih _

/-- The entries of the providers' section of a root table; there are none where no table is. -/
def providersOf (root : Entries) : Entries := tableUnder providersKey (tableUnder rootKey root)

/-- The entries of the section are the providers of the table. -/
theorem section?_toEntries (root : Entries) :
    ((section? root).getD (.table [])).toEntries = providersOf root := by
  rw [section?, providersOf, tableUnder, tableUnder]
  cases List.lookup rootKey root with
  | none => rfl
  | some v => cases v <;> rfl

/-- The section is what stands under its second key in the table under the first one. -/
theorem section?_eq (root : Entries) : section? root =
    List.lookup providersKey (tableUnder rootKey root) := by
  rw [section?, tableUnder]
  cases List.lookup rootKey root with
  | none => rfl
  | some v => cases v <;> rfl

/-- The section depends on what stands under the root key. -/
theorem section?_congr {root other : Entries}
    (h : List.lookup rootKey root = List.lookup rootKey other) : section? root = section? other := by
  rw [section?, section?, h]

/-- The section stands under the key of the providers. -/
theorem lookup_of_section? {root : Entries} {v : Value} (h : section? root = some v) :
    List.lookup providersKey (tableUnder rootKey root) = some v :=
  (section?_eq root).symm.trans h

/-- The environment is merged last. -/
theorem merged_eq (documents : List Entries) (start : String) (vars : SortedMap String) :
    merged documents start vars =
      mergeSource (mergeSources documents) (Environment.source start vars) := by
  rw [merged, mergeSources, List.foldl_append]
  rfl

/-- Settings are loaded from a section that is a table or missing, entry by entry. -/
theorem ofSection_eq_ok {found : Option Value} {s : Settings} :
    ofSection found = .ok s ↔
      (∀ v, found = some v → ∃ entries, v = .table entries) ∧
        loadEntries ∅ (found.getD (.table [])).toEntries = .ok s.providers := by
  obtain ⟨providers⟩ := s
  cases found with
  | none =>
    constructor
    · intro h
      cases h
      exact ⟨fun _ hv => (by cases hv), rfl⟩
    · intro hgiven
      obtain ⟨_, h⟩ := hgiven
      cases h
      rfl
  | some v =>
    cases v with
    | scalar | list =>
      refine ⟨fun h => (by cases h), fun h => ?_⟩
      obtain ⟨_, hv⟩ := h.1 _ rfl
      cases hv
    | table entries =>
      rw [ofSection, map_eq_ok]
      constructor
      · intro hgiven
        obtain ⟨m, h, hm⟩ := hgiven
        cases hm
        exact ⟨fun v hv => ⟨entries, (Option.some.inj hv).symm⟩, h⟩
      · intro hgiven
        obtain ⟨_, h⟩ := hgiven
        exact ⟨providers, h, rfl⟩

/-- The lines do not touch the result. -/
@[simp]
theorem value_told (sources : List Source) (missing : Bool) (r : Except ConfigError Settings) :
    (told sources missing r).value = r := by
  cases r <;> rfl

/-- The lines know sources by the lines that tell of them. -/
theorem told_congr {sources sources' : List Source}
    (h : sources.filterMap Source.line? = sources'.filterMap Source.line?) (missing : Bool)
    (r : Except ConfigError Settings) : told sources missing r = told sources' missing r := by
  cases r <;> simp only [told, h]

/-- A value that is seen to be found is found. -/
theorem eq_some_of_isSame {found : Option Value} {v : Value}
    (h : found.any (Value.isSame · v) = true) : found = some v := by
  cases found with
  | none => cases h
  | some w => exact congrArg _ (Value.eq_of_isSame h)

/-- A document that is seen to be read is read. -/
theorem eq_ok_of_areSame {r : Except Fault Entries} {document : Entries}
    (h : r.toOption.any (Value.areSameEntries · document) = true) : r = .ok document := by
  cases r with
  | error => cases h
  | ok read => exact congrArg _ (Value.eq_of_areSameEntries h)

/-- Reading sources succeeds with the document of the first one in front of those of the others. -/
theorem mapM_read_cons {files : Files} {source : Source} {document : Entries} {sources : List Source}
    {documents : List Entries} (h : source.read files = .ok document)
    (hrest : sources.mapM (Source.read files) = .ok documents) :
    (source :: sources).mapM (Source.read files) = .ok (document :: documents) := by
  rw [List.mapM_cons, h, hrest]
  rfl

/-- Reading one source succeeds with its document. -/
theorem mapM_read_singleton {files : Files} {source : Source} {document : Entries}
    (h : source.read files = .ok document) :
    [source].mapM (Source.read files) = .ok [document] :=
  mapM_read_cons h rfl

/-- Loading sources that can all be read gives what their documents give. -/
theorem load_value_eq {files : Files} {sources : List Source} {documents : List Entries}
    (h : sources.mapM (Source.read files) = .ok documents) (start : String)
    (vars : SortedMap String) :
    (load files sources start vars).value = ofDocuments documents start vars := by
  simp only [load, h, ofDocuments, value_told]

/-- A load depends on its sources and variables through the lines that tell of the sources and through
the section that is found. -/
theorem load_eq_of_found {files files' : Files} {sources sources' : List Source}
    {start start' : String} {vars vars' : SortedMap String}
    (hlines : sources.filterMap Source.line? = sources'.filterMap Source.line?)
    (h : (sources.mapM (Source.read files)).map
        (fun documents => section? (merged documents start vars)) =
      (sources'.mapM (Source.read files')).map
        fun documents => section? (merged documents start' vars')) :
    load files sources start vars = load files' sources' start' vars' := by
  rw [load, load]
  rcases map_eq_map_iff.mp h with hok | herror
  · obtain ⟨documents, documents', hread, hread', hfound⟩ := hok
    simp only [hread, hread', hfound, told_congr hlines]
  · obtain ⟨fault, hread, hread'⟩ := herror
    simp only [hread, hread', told_congr hlines]

/-- Variables and what begins their names only matter for the section that is found. -/
theorem load_congr {start start' : String} {vars vars' : SortedMap String}
    (h : ∀ documents, section? (merged documents start vars) =
      (section? (merged documents start' vars')))
    (files : Files) (sources : List Source) :
    load files sources start vars = load files sources start' vars' := by
  apply load_eq_of_found rfl
  simp only [h]

/-- Two results that are the same as far as it determines the names of providers are told alike. -/
theorem lines_told_congr {α : Type} {f : Settings → α} (hf : ∀ s t, f s = f t → s.names = t.names)
    (sources : List Source) (missing : Bool) {r r' : Except ConfigError Settings}
    (h : r.map f = r'.map f) :
    (told sources missing r).lines = (told sources missing r').lines := by
  rcases map_eq_map_iff.mp h with hok | herror
  · obtain ⟨s, t, rfl, rfl, hsame⟩ := hok
    have hline : loadedLine s = loadedLine t := by
      simp only [loadedLine, hf s t hsame]
    exact congrArg (_ ++ [·]) hline
  · obtain ⟨e, rfl, rfl⟩ := herror
    rfl

end Settings

end GrantConfig
