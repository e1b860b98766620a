import GrantConfig.Proofs.Layers
import GrantConfig.Proofs.Sections
import Mathlib.Data.List.Basic

/-!
# Documents of settings

What a single document says about the providers, and what remains of it when documents are merged:
the last document that has a key of a provider decides the value of that key, and a provider is
there as soon as one document mentions it.
-/

namespace GrantConfig.Settings

open Layer Unicode Provider

/-- The providers of a document. -/
def documentProviders (document : Entries) : Entries :=
  tableAt providersKey (tableAt rootKey document)

/-- The entries of a provider in a document. -/
def documentFields (name : String) (document : Entries) : Entries :=
  tableAt name (documentProviders document)

/-- The value under a key of a provider in a document. Letter case of the keys does not count. -/
def configured? (name key : String) (document : Entries) : Option Value :=
  List.lookup key (lowerKeys (documentFields name document))

/-- Whether a document has an entry for a provider. -/
def mentions (name : String) (document : Entries) : Bool :=
  (List.lookup name (lowerKeys (documentProviders document))).isSome

/-- The value under a key of a provider in the last document that has one. -/
def lastConfigured? (documents : List Entries) (name key : String) : Option Value :=
  documents.reverse.findSome? (configured? name key)

/-- The value of a field in the last document that spells it with hyphens, or else in the last one
that spells it with underscores. -/
def lastValue? (documents : List Entries) (name : String) (field : Field) : Option Value :=
  (lastConfigured? documents name field.key).or (lastConfigured? documents name field.snakeKey)

/-- Whether a key folds to that of a field. -/
def IsFieldKey (key : String) : Prop := ∃ field : Field, kebabKey key = field.key

/-- Both spellings of a field fold to its key. -/
theorem isFieldKey_key (field : Field) : IsFieldKey field.key :=
  ⟨field, by cases field <;> decide⟩

/-- The spelling of a field with underscores folds to its key. -/
theorem isFieldKey_snakeKey (field : Field) : IsFieldKey field.snakeKey :=
  ⟨field, by cases field <;> decide⟩

/-- Documents that are merged key by key: plain identifiers at the top, tables wherever tables are
expected, no two keys that collapse to one in lowercase, and fields that are spelled one way and are
no tables. -/
structure WellFormed (document : Entries) : Prop where
  plain : PlainKeys document
  oneCase : OneCase document
  root : TableOrNothing rootKey (lowerKeys document)
  rootOneCase : OneCase (tableAt rootKey document)
  providers : TableOrNothing providersKey (lowerKeys (tableAt rootKey document))
  providersOneCase : OneCase (documentProviders document)
  provider : ∀ name, TableOrNothing name (lowerKeys (documentProviders document))
  fieldsOneCase : ∀ name, OneCase (documentFields name document)
  unmixed : ∀ name, Unmixed (lowerKeys (documentFields name document))
  noTable : ∀ name key, IsFieldKey key → ∀ inner,
    configured? name key document ≠ some (.table inner)

/-- The entries of a provider in a merged root table. -/
def fieldsOf (name : String) (root : Entries) : Entries := tableUnder name (providersOf root)

/-- Providers of a document are merged with those before. -/
theorem providersOf_mergeEntries {document : Entries} (h : WellFormed document) (root : Entries) :
    providersOf (mergeEntries root document) =
      mergeEntries (providersOf root) (documentProviders document) := by
  rw [providersOf, tableUnder_mergeEntries h.oneCase h.root,
    tableUnder_mergeEntries h.rootOneCase h.providers]
  rfl

/-- Entries of a provider in a document are merged with those before. -/
theorem fieldsOf_mergeEntries {document : Entries} (h : WellFormed document) (name : String)
    (root : Entries) :
    fieldsOf name (mergeEntries root document) =
      mergeEntries (fieldsOf name root) (documentFields name document) := by
  rw [fieldsOf, providersOf_mergeEntries h,
    tableUnder_mergeEntries h.providersOneCase (h.provider name)]
  rfl

/-- A value that is no table takes the place of what stood there. -/
theorem over_of_ne_table {v : Value} (h : ∀ inner, v ≠ .table inner) (under : Option Value) :
    v.over under = v := by
  cases v with
  | scalar origin s => rfl
  | list origin items => rfl
  | table inner => exact absurd rfl (h inner)

/-- A document decides the value of a field's key if it has one. -/
theorem lookup_fieldsOf_mergeEntries {document : Entries} (h : WellFormed document)
    (name : String) {key : String} (hkey : IsFieldKey key) (root : Entries) :
    List.lookup key (fieldsOf name (mergeEntries root document)) =
      (configured? name key document).or (List.lookup key (fieldsOf name root)) := by
  rw [fieldsOf_mergeEntries h, lookup_mergeEntries (h.fieldsOneCase name)]
  have htable := h.noTable name key hkey
  rw [configured?] at htable ⊢
  cases hvalue : List.lookup key (lowerKeys (documentFields name document)) with
  | none => rfl
  | some v =>
    have hv : ∀ inner, v ≠ .table inner := fun inner heq => htable inner (by rw [hvalue, heq])
    rw [Option.some_or]
    exact congrArg some (over_of_ne_table hv _)

/-- A provider is there when the document mentions it or it was there before. -/
theorem isSome_provider_mergeEntries {document : Entries} (h : WellFormed document)
    (name : String) (root : Entries) :
    (List.lookup name (providersOf (mergeEntries root document))).isSome =
      (mentions name document || (List.lookup name (providersOf root)).isSome) := by
  rw [providersOf_mergeEntries h, lookup_mergeEntries h.providersOneCase, mentions]
  cases List.lookup name (lowerKeys (documentProviders document)) <;> simp

/-- The first of the documents counts when no later one has the key. -/
theorem lastConfigured?_cons (document : Entries) (documents : List Entries) (name key : String) :
    lastConfigured? (document :: documents) name key =
      (lastConfigured? documents name key).or (configured? name key document) := by
  rw [lastConfigured?, List.reverse_cons, List.findSome?_append, List.findSome?_singleton]
  rfl

/-- Later documents count before earlier ones. -/
theorem lastConfigured?_append (documents more : List Entries) (name key : String) :
    lastConfigured? (documents ++ more) name key =
      (lastConfigured? more name key).or (lastConfigured? documents name key) := by
  rw [lastConfigured?, List.reverse_append, List.findSome?_append]
  rfl

/-- What is configured last is configured by some document. -/
theorem exists_of_lastConfigured? {documents : List Entries} {name key : String} {v : Value}
    (h : lastConfigured? documents name key = some v) :
    ∃ document ∈ documents, configured? name key document = some v := by
  obtain ⟨document, hmem, hv⟩ := List.exists_of_findSome?_eq_some h
  exact ⟨document, List.mem_reverse.mp hmem, hv⟩

/-- There is no such document exactly when none configures the key. -/
theorem lastConfigured?_eq_none_iff {documents : List Entries} {name key : String} :
    lastConfigured? documents name key = none ↔
      ∀ document ∈ documents, configured? name key document = none := by
  rw [lastConfigured?, List.findSome?_eq_none_iff]
  simp only [List.mem_reverse]

/-- The root table of documents laid over one another. -/
def layered (documents : List Entries) : Entries := documents.foldl mergeEntries []

/-- Documents with plain keys are merged entry by entry. -/
theorem mergeSources_eq_layered {documents : List Entries} (h : ∀ d ∈ documents, WellFormed d) :
    mergeSources documents = layered documents :=
  List.foldl_ext _ _ _ fun root d hd => mergeSource_plain (h d hd).plain root

/-- The last document that has a key of a provider decides its value. -/
theorem lookup_fieldsOf_foldl {documents : List Entries} (h : ∀ d ∈ documents, WellFormed d)
    (name : String) {key : String} (hkey : IsFieldKey key) (root : Entries) :
    List.lookup key (fieldsOf name (documents.foldl mergeEntries root)) =
      (lastConfigured? documents name key).or (List.lookup key (fieldsOf name root)) := by
  induction documents generalizing root with
  | nil => rfl
  | cons document rest ih =>
    rw [List.foldl_cons, ih fun d hd => h d (List.mem_cons_of_mem _ hd),
      lookup_fieldsOf_mergeEntries (h document List.mem_cons_self) name hkey,
      lastConfigured?_cons, Option.or_assoc]

/-- A key of a provider has the value of the last document that has it. -/
theorem lookup_fieldsOf_layered {documents : List Entries} (h : ∀ d ∈ documents, WellFormed d)
    (name : String) {key : String} (hkey : IsFieldKey key) :
    List.lookup key (fieldsOf name (layered documents)) = lastConfigured? documents name key := by
  rw [layered, lookup_fieldsOf_foldl h name hkey]
  exact Option.or_none

/-- A provider is there when some document mentions it. -/
theorem isSome_provider_foldl {documents : List Entries} (h : ∀ d ∈ documents, WellFormed d)
    (name : String) (root : Entries) :
    (List.lookup name (providersOf (documents.foldl mergeEntries root))).isSome =
      (documents.any (mentions name) || (List.lookup name (providersOf root)).isSome) := by
  induction documents generalizing root with
  | nil => rfl
  | cons document rest ih =>
    rw [List.foldl_cons, ih fun d hd => h d (List.mem_cons_of_mem _ hd),
      isSome_provider_mergeEntries (h document List.mem_cons_self), List.any_cons]
    cases mentions name document <;> simp

/-- A provider is there when any of the documents mentions it. -/
theorem isSome_provider_layered {documents : List Entries} (h : ∀ d ∈ documents, WellFormed d)
    (name : String) :
    (List.lookup name (providersOf (layered documents))).isSome = documents.any (mentions name) := by
  rw [layered, isSome_provider_foldl h name]
  exact Bool.or_false _

/-- The section of the providers is a table, if there is one. -/
theorem tableOrNothing_section {documents : List Entries} (h : ∀ d ∈ documents, WellFormed d) :
    TableOrNothing providersKey (tableUnder rootKey (layered documents)) := by
  refine List.foldlRecOn documents mergeEntries
    (motive := fun root => TableOrNothing providersKey (tableUnder rootKey root))
    tableOrNothing_nil ?_
  intro root hroot document hd
  have hdocument := h document hd
  rw [tableUnder_mergeEntries hdocument.oneCase hdocument.root]
  exact tableOrNothing_mergeEntries hdocument.rootOneCase hdocument.providers hroot

/-- Every provider is a table. -/
theorem tableOrNothing_provider {documents : List Entries} (h : ∀ d ∈ documents, WellFormed d)
    (name : String) : TableOrNothing name (providersOf (layered documents)) := by
  refine List.foldlRecOn documents mergeEntries
    (motive := fun root => TableOrNothing name (providersOf root)) tableOrNothing_nil ?_
  intro root hroot document hd
  have hdocument := h document hd
  rw [providersOf_mergeEntries hdocument]
  exact tableOrNothing_mergeEntries hdocument.providersOneCase (hdocument.provider name) hroot

/-- Merged documents are in normal form. -/
theorem normal_layered (documents : List Entries) : (Value.table (layered documents)).Normal := by
  refine List.foldlRecOn documents mergeEntries (motive := fun root => (Value.table root).Normal)
    .empty ?_
  intro root hroot document _
  exact normal_mergeEntries hroot document

/-- The providers of a merged table are in normal form. -/
theorem normal_providersOf {root : Entries} (h : (Value.table root).Normal) :
    (Value.table (providersOf root)).Normal :=
  normal_tableUnder (normal_tableUnder h rootKey) providersKey

/-- Whatever stands at the place of the section is as merging leaves it. -/
theorem normal_section? {documents : List Entries} :
    ∀ v, section? (mergeSources documents) = some v → v.Normal := by
  intro v hv
  exact (normal_tableUnder (normal_mergeSources documents) rootKey).lookup (lookup_of_section? hv)

/-- The providers of merged documents are in ascending order. -/
theorem ascending_providersOf_layered (documents : List Entries) :
    Ascending (providersOf (layered documents)) :=
  (normal_providersOf (normal_layered documents)).ascending

/-- So are the fields of each of them. -/
theorem ascending_fieldsOf_layered (documents : List Entries) (name : String) :
    Ascending (fieldsOf name (layered documents)) :=
  (normal_tableUnder (normal_providersOf (normal_layered documents)) name).ascending

/-- No document mixes the spellings of a field, so neither do all of them together. -/
theorem unmixed_fieldsOf_layered {documents : List Entries} (h : ∀ d ∈ documents, WellFormed d)
    (name : String) : Unmixed (fieldsOf name (layered documents)) := by
  intro entry hentry field hkey
  obtain ⟨key, v⟩ := entry
  have hvalue := lookup_of_mem (ascending_fieldsOf_layered documents name).distinctKeys hentry
  rw [lookup_fieldsOf_layered h name ⟨field, hkey⟩] at hvalue
  obtain ⟨document, hmem, hv⟩ := exists_of_lastConfigured? hvalue
  exact (h document hmem).unmixed name _ (mem_of_lookup hv) field hkey

/-- A field of a provider has the value that the documents give it last. -/
theorem valueIn?_fieldsOf_layered {documents : List Entries} (h : ∀ d ∈ documents, WellFormed d)
    (name : String) (field : Field) :
    field.valueIn? (fieldsOf name (layered documents)) = lastValue? documents name field := by
  rw [Field.valueIn?, lookup_fieldsOf_layered h name (isFieldKey_key field),
    lookup_fieldsOf_layered h name (isFieldKey_snakeKey field), lastValue?]

/-- What documents make of a provider: it is there when one of them mentions it, and then each of
its fields takes its last value. -/
def Gives (documents : List Entries) (name : String) : Option Provider → Prop
  | some p => documents.any (mentions name) = true ∧
      ∀ field : Field, field.Takes field.load {} p (lastValue? documents name field)
  | none => documents.any (mentions name) = false

/-- The merged section gives under each name what the documents give. -/
theorem filledAt_layered_iff {documents : List Entries} (h : ∀ d ∈ documents, WellFormed d)
    (m : SortedMap Provider) (name : String) :
    FilledAt loadProvider ∅ m name (List.lookup name (providersOf (layered documents))) ↔
      Gives documents name (m.find? name) := by
  have hpresent := isSome_provider_layered h name
  cases hvalue : List.lookup name (providersOf (layered documents)) with
  | none =>
    rw [hvalue, Option.isSome_none] at hpresent
    constructor
    · intro hfilled
      have hfound : m.find? name = none := hfilled
      rw [hfound, Gives, hpresent]
    · intro hgives
      cases hfound : m.find? name with
      | none => exact hfound
      | some p =>
        rw [hfound, Gives, ← hpresent] at hgives
        cases hgives.1
  | some v =>
    rw [hvalue, Option.isSome_some] at hpresent
    obtain ⟨table, rfl⟩ := tableOrNothing_provider h name v hvalue
    have htable : table = fieldsOf name (layered documents) := by
      rw [fieldsOf, tableUnder, hvalue]
      rfl
    have hload (p : Provider) : loadProvider name (.table table) = .ok p ↔
        ∀ field : Field, field.Takes field.load {} p (lastValue? documents name field) := by
      rw [htable, loadProvider, mapError_eq_ok, ofValue_table_eq_ok
        (ascending_fieldsOf_layered documents name) (unmixed_fieldsOf_layered h name)]
      simp only [valueIn?_fieldsOf_layered h]
    constructor
    · intro hgiven
      obtain ⟨p, hp, hfound⟩ := hgiven
      rw [hfound]
      exact ⟨hpresent.symm, (hload p).mp hp⟩
    · intro hgives
      cases hfound : m.find? name with
      | none =>
        rw [hfound, Gives, ← hpresent] at hgives
        cases hgives
      | some p =>
        rw [hfound] at hgives
        exact ⟨p, (hload p).mpr hgives.2, hfound⟩

/-- Well-formed documents load exactly to the settings that they give name by name. -/
theorem ofSection_layered_eq_ok {documents : List Entries} (h : ∀ d ∈ documents, WellFormed d)
    {s : Settings} :
    ofSection (section? (layered documents)) = .ok s ↔
      ∀ name, Gives documents name (s.provider? name) := by
  have hsection : ∀ v, section? (layered documents) = some v → ∃ entries, v = .table entries :=
    fun v hv => tableOrNothing_section h v (lookup_of_section? hv)
  rw [ofSection_eq_ok, section?_toEntries, loadEntries_eq,
    fillEach_eq_ok (ascending_providersOf_layered documents).distinctKeys]
  simp only [filledAt_layered_iff h]
  exact and_iff_right hsection

/-- The root key is a name, and no path. -/
theorem isName_rootKey : KeyPath.IsName rootKey.toList :=
  KeyPath.isName_iff.mpr ⟨by decide, by decide⟩

/-- The document of a single provider. -/
def providerDocument (name : String) (fields : Entries) : Entries :=
  [(rootKey, .table [(providersKey, .table [(name, .table fields)])])]

/-- Under the root key, the document of a provider has the providers. -/
theorem tableAt_providerDocument (name : String) (fields : Entries) :
    tableAt rootKey (providerDocument name fields) =
      [(providersKey, .table [(name, .table fields)])] :=
  tableAt_singleton (by decide) _

/-- It has the one provider. -/
theorem documentProviders_providerDocument (name : String) (fields : Entries) :
    documentProviders (providerDocument name fields) = [(name, .table fields)] := by
  rw [documentProviders, tableAt_providerDocument]
  exact tableAt_singleton (by decide) _

/-- A document of one provider holds the fields of that provider and of no other one. -/
theorem documentFields_providerDocument {name : String} (h : lowercase name = name)
    (fields : Entries) (other : String) :
    documentFields other (providerDocument name fields) = if other = name then fields else [] := by
  rw [documentFields, documentProviders_providerDocument]
  by_cases hname : other = name
  · subst hname
    rw [if_pos rfl]
    exact tableAt_singleton h _
  · rw [if_neg hname, tableAt, lowerKeys_singleton h, tableUnder, lookup_cons_of_ne _ _ hname]
    rfl

/-- It mentions no other one. -/
theorem mentions_providerDocument {name : String} (h : lowercase name = name) (fields : Entries)
    (other : String) : mentions other (providerDocument name fields) = decide (other = name) := by
  rw [mentions, documentProviders_providerDocument, lowerKeys_singleton h,
    lookup_cons_eq_ite]
  by_cases hname : other = name <;> simp [hname]

/-- A table alone under a key in lowercase is a table or nothing. -/
theorem tableOrNothing_singleton {key : String} (h : lowercase key = key) (inner : Entries)
    (other : String) : TableOrNothing other (lowerKeys [(key, .table inner)]) := by
  intro v hv
  rw [lowerKeys_singleton h, lookup_cons_eq_ite] at hv
  split at hv
  · exact ⟨inner, (Option.some.inj hv).symm⟩
  · cases hv

/-- A document of one provider is well-formed when the fields of that provider are. -/
theorem wellFormed_providerDocument {name : String} (h : lowercase name = name) {fields : Entries}
    (honeCase : OneCase fields) (hunmixed : Unmixed (lowerKeys fields))
    (hnoTable : ∀ entry ∈ lowerKeys fields, ∀ inner, entry.2 ≠ .table inner) :
    WellFormed (providerDocument name fields) where
  plain := List.forall_mem_singleton.mpr isName_rootKey
  oneCase := List.pairwise_singleton _ _
  root := tableOrNothing_singleton (by decide) _ _
  rootOneCase := by
    rw [tableAt_providerDocument]
    exact List.pairwise_singleton _ _
  providers := by
    rw [tableAt_providerDocument]
    exact tableOrNothing_singleton (by decide) _ _
  providersOneCase := by
    rw [documentProviders_providerDocument]
    exact List.pairwise_singleton _ _
  provider other := by
    rw [documentProviders_providerDocument]
    exact tableOrNothing_singleton h _ _
  fieldsOneCase other := by
    rw [documentFields_providerDocument h]
    split
    · exact honeCase
    · exact List.Pairwise.nil
  unmixed other := by
    rw [documentFields_providerDocument h]
    split
    · exact hunmixed
    · exact unmixed_nil
  noTable other key _ inner hvalue := by
    have hmem := mem_of_lookup hvalue
    rw [documentFields_providerDocument h] at hmem
    split at hmem
    · exact hnoTable _ hmem inner rfl
    · cases hmem

end GrantConfig.Settings
