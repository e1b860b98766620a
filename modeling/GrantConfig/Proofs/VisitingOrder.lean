import GrantConfig.Proofs.Runs
import GrantConfig.Proofs.Writes

/-!
# The order of variables

When no key path of a variable lies within that of another one, the variables may be given in any order
and be written into the tree in any order: the section of the merged table is the same. What else may
show an order are the sources and the providers. Where no keys of a source collapse and no two spellings
leave a choice, all runs load the same, and they fail alike when a single field can fail.
-/

namespace GrantConfig

open Layer

namespace Settings

open Environment Provider

/-! ## Variables in any order -/

/-- The variables of a list that belong to the settings. -/
def keptOf (vars : List (String × String)) : List (String × String) :=
  vars.filter fun var => hasStart defaultStart var.1

/-- Variables of the settings without brackets in their names, none of whose key paths lies within
that of another one. -/
structure Separate (vars : List (String × String)) : Prop where
  bracket : ∀ var ∈ keptOf vars, '[' ∉ var.1.toList
  apart : (keptOf vars).Pairwise fun var other =>
    ¬KeyPath.Overlap (keyPath (normalizeName var.1)) (keyPath (normalizeName other.1))

/-- Separate variables are so in any order. -/
theorem Separate.perm {vars order : List (String × String)} (h : Separate vars)
    (hperm : order.Perm vars) : Separate order := by
  have hkept : (keptOf order).Perm (keptOf vars) := hperm.filter _
  exact ⟨fun var hvar => h.bracket var (hkept.mem_iff.mp hvar),
    hkept.symm.pairwise h.apart fun hapart hoverlap => hapart hoverlap.symm⟩

/-- What is written is written by variables of the settings. -/
theorem offered_eq_keptOf (vars : List (String × String)) :
    offered defaultStart vars =
      ((keptOf vars).filter fun var => hasStart defaultStart (normalizeName var.1)).map fun var =>
        (keyPath (normalizeName var.1), written var.2) := by
  rw [keptOf, List.filter_filter, offered]
  simp only [Bool.and_comm]

/-- The variables of a list with different names offer what they offer in the map of the list. -/
theorem offered_ofList_perm {vars : List (String × String)} (h : DistinctKeys (keptOf vars)) :
    (offered defaultStart (SortedMap.ofList vars).entries).Perm (offered defaultStart vars) := by
  have hkept : (keptOf (SortedMap.ofList vars).entries).Perm (keptOf vars) := by
    rw [keptOf, SortedMap.entries_ofList, filter_insertEach_nil]
    exact insertEach_nil_perm h
  rw [offered_eq_keptOf, offered_eq_keptOf]
  exact (hkept.filter _).map _

namespace Separate

variable {vars order : List (String × String)} (h : Separate vars)

include h

/-- No two of them have one name. -/
theorem distinctKeys_keptOf : DistinctKeys (keptOf vars) := by
  refine h.apart.imp fun hapart heq => hapart (.inl (.inl ?_))
  rw [heq]

/-- What separate variables write does not overlap. -/
theorem pairwise_offered :
    (offered defaultStart vars).Pairwise fun a b => ¬KeyPath.Overlap a.1 b.1 := by
  rw [offered_eq_keptOf]
  exact List.pairwise_map.mpr (h.apart.filter _)

/-- What separate variables write is what each of them writes, in any order. -/
theorem perm_of_written {writes : Entries}
    (hwritten : Written defaultStart (SortedMap.ofList vars) writes) :
    writes.Perm (offered defaultStart vars) := by
  have hoffered := offered_ofList_perm h.distinctKeys_keptOf
  have hdistinct : DistinctKeys (offered defaultStart vars) :=
    h.pairwise_offered.imp fun hapart heq => hapart (.inl (.inl heq))
  obtain ⟨given, hgiven, hwrites⟩ := written_iff.mp hwritten
  rw [SortedMap.entries_ofList] at hwrites
  exact hwrites.trans (insertEach_nil_perm_of_perm hdistinct (hgiven.trans hoffered))

/-- Separate variables may write the same when they are given in another order. -/
theorem written_iff_of_perm (hperm : order.Perm vars) {writes : Entries} :
    Written defaultStart (SortedMap.ofList order) writes ↔
      Written defaultStart (SortedMap.ofList vars) writes := by
  have hoffered : (offered defaultStart (SortedMap.ofList order).entries).Perm
      (offered defaultStart (SortedMap.ofList vars).entries) := by
    refine (offered_ofList_perm (h.perm hperm).distinctKeys_keptOf).trans ?_
    exact ((hperm.filter _).map _).trans (offered_ofList_perm h.distinctKeys_keptOf).symm
  rw [written_iff, written_iff]
  constructor
  · rintro ⟨given, hgiven, hwrites⟩
    exact ⟨given, hgiven.trans hoffered, hwrites⟩
  · rintro ⟨given, hgiven, hwrites⟩
    exact ⟨given, hgiven.trans hoffered.symm, hwrites⟩

/-- What separate variables write may be assigned in either order. -/
theorem assignBelow_comm_of_mem :
    ∀ a ∈ offered defaultStart vars, ∀ b ∈ offered defaultStart vars, ∀ v,
      assignBelow (assignBelow v a) b = assignBelow (assignBelow v b) a := by
  have hpairs : (offered defaultStart vars).Pairwise fun a b => ∀ v,
      assignBelow (assignBelow v a) b = assignBelow (assignBelow v b) a := by
    refine h.pairwise_offered.imp_of_mem fun {a b} ha hb hapart v => ?_
    obtain ⟨var, hvar, hkept, hstart, rfl⟩ := mem_offered.mp ha
    obtain ⟨var', hvar', hkept', hstart', rfl⟩ := mem_offered.mp hb
    refine assignBelow_comm ?_ ?_ ?_ ?_ hapart v
    · exact isSettingKey_keyPath hstart
    · exact isSettingKey_keyPath hstart'
    · exact bracket_not_mem_keyPath (h.bracket var (List.mem_filter.mpr ⟨hvar, hkept⟩))
    · exact bracket_not_mem_keyPath (h.bracket var' (List.mem_filter.mpr ⟨hvar', hkept'⟩))
  exact hpairs.forall_of_forall_of_flip (fun _ _ _ => rfl) (hpairs.imp fun hcomm v => (hcomm v).symm)

/-- The section of a merged table does not depend on the order in which separate variables are
written. -/
theorem section?_eq {writes writes' : Entries}
    (hwritten : Written defaultStart (SortedMap.ofList vars) writes)
    (hwritten' : Written defaultStart (SortedMap.ofList vars) writes') (documents : List Entries) :
    (section? (mergeSources (documents ++ [writes]))) =
      (section? (mergeSources (documents ++ [writes']))) := by
  have hleaf {writes : Entries} (hwritten : Written defaultStart (SortedMap.ofList vars) writes) :
      ∀ entry ∈ writes, entry.2.Leaf := by
    intro entry hentry
    obtain ⟨var, _, _, _, rfl⟩ := mem_offered.mp ((h.perm_of_written hwritten).mem_iff.mp hentry)
    exact leaf_written var.2
  have hperm := (h.perm_of_written hwritten).trans (h.perm_of_written hwritten').symm
  refine section?_congr ?_
  rw [mergeSources, mergeSources, List.foldl_append, List.foldl_append]
  change List.lookup rootKey (mergeSource (mergeSources documents) writes) =
    List.lookup rootKey (mergeSource (mergeSources documents) writes')
  rw [lookup_mergeSource (hleaf hwritten), lookup_mergeSource (hleaf hwritten')]
  refine hperm.foldl_eq' (fun a ha b hb => h.assignBelow_comm_of_mem a ?_ b ?_) _
  · exact (h.perm_of_written hwritten).mem_iff.mp ha
  · exact (h.perm_of_written hwritten).mem_iff.mp hb

end Separate

/-! ## Runs that agree -/

/-- Sources of which no order shows: they read alike whichever format is tried first, no two keys of
one of them collapse, and in the merged section no two spellings of a field leave a choice. -/
structure Unordered (files : Files) (sources : List Source) (vars : List (String × String)) :
    Prop where
  reads : ∀ formats, formats.Perm Format.all →
    sources.mapM (Source.readIn files formats) = sources.mapM (Source.read files)
  uncollapsed : ∀ documents, sources.mapM (Source.read files) = .ok documents →
    ∀ document ∈ documents, Uncollapsed document
  clear : ∀ documents, sources.mapM (Source.read files) = .ok documents →
    ∀ entry ∈ entriesIn (section? (merged documents defaultStart (SortedMap.ofList vars))),
      Clear entry.2

/-- Documents whose keys do not collapse are merged alike in any order. -/
theorem mergeSources_visited {documents visited : List Entries}
    (hvisits : List.Forall₂ DocumentVisited documents visited)
    (h : ∀ document ∈ documents, Uncollapsed document) (root : Entries) :
    documents.foldl mergeSource root = visited.foldl mergeSource root := by
  induction hvisits generalizing root with
  | nil => rfl
  | cons hvisit _ ih =>
    obtain ⟨hfirst, hrest⟩ := List.forall_mem_cons.mp h
    rw [List.foldl_cons, List.foldl_cons, hfirst.mergeSource_visited hvisit]
    exact ih hrest _

/-- A run over such sources and separate variables finds the section that is found in ascending
order. -/
theorem Unordered.loads_cases {files : Files} {sources : List Source} {vars : List (String × String)}
    (h : Unordered files sources vars) (hseparate : Separate vars)
    {r : Logged (Except ConfigError Settings)}
    (hloads : Loads files sources defaultStart (SortedMap.ofList vars) r) :
    (∃ fault, sources.mapM (Source.read files) = .error fault ∧
        r = told sources false (.error (.load fault))) ∨
      ∃ documents found loaded, sources.mapM (Source.read files) = .ok documents ∧
        found = section? (merged documents defaultStart (SortedMap.ofList vars)) ∧
        SectionLoadsAs found loaded ∧ r = told sources found.isNone loaded := by
  cases hloads with
  | @unread formats fault order read =>
    rw [h.reads formats order] at read
    exact .inl ⟨fault, read, rfl⟩
  | @merged formats documents visited writes loaded order read visits written loads =>
    rw [h.reads formats order] at read
    have hvisited (source : Entries) :
        mergeSources (visited ++ [source]) = mergeSources (documents ++ [source]) := by
      rw [mergeSources, mergeSources, List.foldl_append, List.foldl_append,
        mergeSources_visited visits (h.uncollapsed documents read)]
    have hfound : (section? (mergeSources (visited ++ [writes]))) =
        (section? (Settings.merged documents defaultStart (SortedMap.ofList vars))) := by
      rw [hvisited]
      exact hseparate.section?_eq written (written_source _ _) documents
    exact .inr ⟨documents, _, loaded, read, hfound, loads, rfl⟩

/-- All runs over such sources and separate variables load the same if one of them loads, and they come
to the same error when one field of one provider at most cannot be read. -/
theorem Unordered.runs_agree {files : Files} {sources : List Source} {vars : List (String × String)}
    (h : Unordered files sources vars) (hseparate : Separate vars)
    {r r' : Logged (Except ConfigError Settings)}
    (hr : Loads files sources defaultStart (SortedMap.ofList vars) r)
    (hr' : Loads files sources defaultStart (SortedMap.ofList vars) r') :
    (∀ s, r.value = .ok s ∨ r'.value = .ok s → r = r') ∧
      ((∀ documents, sources.mapM (Source.read files) = .ok documents →
        OneFault (section? (merged documents defaultStart (SortedMap.ofList vars)))) → r = r') := by
  rcases h.loads_cases hseparate hr with ⟨fault, hread, rfl⟩ |
    ⟨documents, found, loaded, hread, hfound, hsection, rfl⟩
  · rcases h.loads_cases hseparate hr' with ⟨fault', hread', rfl⟩ | ⟨documents', _, _, hread', _⟩
    · obtain rfl := Except.error.inj (hread.symm.trans hread')
      exact ⟨fun _ _ => rfl, fun _ => rfl⟩
    · rw [hread] at hread'
      cases hread'
  · rcases h.loads_cases hseparate hr' with ⟨fault', hread', rfl⟩ |
      ⟨documents', found', loaded', hread', hfound', hsection', rfl⟩
    · rw [hread] at hread'
      cases hread'
    · obtain rfl := Except.ok.inj (hread.symm.trans hread')
      obtain rfl := hfound'.trans hfound.symm
      have hnormal : ∀ v, found' = some v → v.Normal := by
        rw [hfound]
        exact normal_section?
      have hclear : ∀ entry ∈ entriesIn found', Clear entry.2 := by
        rw [hfound]
        exact h.clear documents hread
      rw [value_told, value_told]
      refine ⟨fun s hs => ?_, fun hone => ?_⟩
      · rcases hs with rfl | rfl
        · rw [hsection.eq_of_ok hnormal hclear hsection']
        · rw [hsection'.eq_of_ok hnormal hclear hsection]
      · rw [hsection.unique hnormal hclear (hfound ▸ hone documents hread) hsection']

/-- Separate variables may be given in any order: what loading may come to is the same, and the order
in which they are written does not show in the section that is found, whatever the sources are. Where
the sources show no order either, all runs load the same settings if one of them loads, and they come
to the same error when one field of one provider at most cannot be read. -/
theorem load_any_order (files : Files) (sources : List Source) {vars order : List (String × String)}
    (h : Separate vars) (hperm : order.Perm vars) :
    (∀ r, Loads files sources defaultStart (SortedMap.ofList order) r ↔
        Loads files sources defaultStart (SortedMap.ofList vars) r) ∧
      (∀ documents writes writes', Written defaultStart (SortedMap.ofList vars) writes →
        Written defaultStart (SortedMap.ofList order) writes' →
        (section? (mergeSources (documents ++ [writes]))) =
          (section? (mergeSources (documents ++ [writes'])))) ∧
      (Unordered files sources vars →
        ∀ r r', Loads files sources defaultStart (SortedMap.ofList vars) r →
          Loads files sources defaultStart (SortedMap.ofList order) r' →
          (∀ s, r.value = .ok s ∨ r'.value = .ok s → r = r') ∧
          ((∀ documents, sources.mapM (Source.read files) = .ok documents →
            OneFault (section? (merged documents defaultStart (SortedMap.ofList vars)))) → r = r')) := by
  have hloads : ∀ r, Loads files sources defaultStart (SortedMap.ofList order) r ↔
      Loads files sources defaultStart (SortedMap.ofList vars) r := by
    intro r
    constructor
    · rintro (⟨formats, read⟩ | ⟨formats, read, visits, written, loads⟩)
      · exact .unread formats read
      · exact .merged formats read visits ((h.written_iff_of_perm hperm).mp written) loads
    · rintro (⟨formats, read⟩ | ⟨formats, read, visits, written, loads⟩)
      · exact .unread formats read
      · exact .merged formats read visits ((h.written_iff_of_perm hperm).mpr written) loads
  refine ⟨hloads, fun documents writes writes' hwritten hwritten' => ?_,
    fun hunordered r r' hr hr' => ?_⟩
  · exact h.section?_eq hwritten ((h.written_iff_of_perm hperm).mp hwritten') documents
  · exact hunordered.runs_agree h hr ((hloads r').mp hr')

/-! ## Instances -/

/-- Two variables of a provider and one that does not belong to the settings. -/
def kakaoPair : List (String × String) :=
  [("OAUTH__PROVIDERS__KAKAO__CLIENT_ID", "k"), ("PATH", "/bin"),
    ("OAUTH__PROVIDERS__KAKAO__CLIENT_SECRET", "s")]

/-- The provider that the variables give. -/
def kakaoPairFields : Entries := [("client-id", written "k"), ("client-secret", written "s")]

/-- The variables of the example are separate. -/
theorem separate_kakaoPair : Separate kakaoPair where
  bracket := by decide
  apart := by decide

/-- What they write, in ascending order. -/
theorem source_kakaoPair : source defaultStart (SortedMap.ofList kakaoPair) =
    [("oauth.providers.kakao.client-id", written "k"),
      ("oauth.providers.kakao.client-secret", written "s")] :=
  Value.eq_of_areSameEntries (by decide)

/-- A text in which the section is no table. -/
def numberSource : Source := .text "[oauth]\nproviders = 5\n" .toml

/-- A text with another provider, of which a field cannot be read. -/
def faultSource : Source := .text "[oauth.providers.naver]\nclient-id = [1]\n" .toml

/-- A text with two such fields. -/
def faultsSource : Source :=
  .text "[oauth.providers.naver]\nclient-id = [1]\nredirect-uri = [2]\n" .toml

/-- A text with two keys of another provider that are one in lowercase. -/
def casesSource : Source :=
  .text "[oauth.providers.naver]\nclient-id = \"a\"\nCLIENT-ID = \"b\"\n" .toml

/-- A number. -/
def numberValue (n : Int) : Value := .scalar none (.integer n)

/-- The field that cannot be read. -/
def faultFields : Entries := [("client-id", .list none [numberValue 1])]

/-- The fields that cannot be read. -/
def faultsFields : Entries :=
  [("client-id", .list none [numberValue 1]), ("redirect-uri", .list none [numberValue 2])]

/-- The two keys that are one in lowercase. -/
def casesFields : Entries :=
  [("CLIENT-ID", .scalar none (.text "b")), ("client-id", .scalar none (.text "a"))]

/-- The text is read as a document whose section is a number. -/
theorem read_numberSource :
    numberSource.read ∅ = .ok [("oauth", .table [("providers", numberValue 5)])] :=
  eq_ok_of_areSame (by decide +kernel)

/-- The text is read as the document of its provider. -/
theorem read_faultSource : faultSource.read ∅ = .ok (providerDocument "naver" faultFields) :=
  eq_ok_of_areSame (by decide +kernel)

/-- So is the one with two such fields. -/
theorem read_faultsSource : faultsSource.read ∅ = .ok (providerDocument "naver" faultsFields) :=
  eq_ok_of_areSame (by decide +kernel)

/-- So is the one with two keys that are one. -/
theorem read_casesSource : casesSource.read ∅ = .ok (providerDocument "naver" casesFields) :=
  eq_ok_of_areSame (by decide +kernel)

/-- What is written is merged into the document. -/
theorem mergeSources_pair (document writes : Entries) :
    mergeSources ([document] ++ [writes]) = mergeSource (mergeSources [document]) writes := rfl

/-- The variables put their provider into whatever stands in the place of the section. -/
theorem mergeSource_kakaoPair {v : Value} (h : List.lookup "kakao" v.toEntries = none) :
    mergeSource [(rootKey, .table [(providersKey, v)])]
        (source defaultStart (SortedMap.ofList kakaoPair)) =
      [(rootKey, .table [(providersKey,
        .table (insertEntry "kakao" (.table kakaoPairFields) v.toEntries))])] := by
  have hid : KeyPath.ofKey "oauth.providers.kakao.client-id" =
      ⟨"oauth", [.field "providers", .field "kakao", .field "client-id"]⟩ := by
    decide
  have hsecret : KeyPath.ofKey "oauth.providers.kakao.client-secret" =
      ⟨"oauth", [.field "providers", .field "kakao", .field "client-secret"]⟩ := by
    decide
  have hlower : ∀ name ∈ ["oauth", "providers", "kakao", "client-id", "client-secret"],
      Unicode.lowercase name = name := by
    decide
  simp only [List.forall_mem_cons] at hlower
  have htable (entries : Entries) : (Value.table entries).toEntries = entries := rfl
  have hnull : Value.null.toEntries = [] := rfl
  rw [source_kakaoPair]
  simp only [mergeSource, List.foldl_cons, List.foldl_nil, assignKey, hid, hsecret, assign, hlower, htable,
    hnull, h, List.lookup_cons_self, Option.getD_some, Option.getD_none, mergeField, insertEntry,
    String.reduceLT, String.reduceEq, reduceIte, rootKey, providersKey, kakaoPairFields, written,
    lookup_insertEntry_self, insertEntry_insertEntry_self]

/-- The variables make the section a table. -/
theorem section?_numberSource :
    (section? (merged [[("oauth", .table [("providers", numberValue 5)])]] defaultStart
      (SortedMap.ofList kakaoPair))) = some (.table [("kakao", .table kakaoPairFields)]) := by
  have hmerged : mergeSources [[("oauth", .table [("providers", numberValue 5)])]] =
      [(rootKey, .table [(providersKey, numberValue 5)])] := rfl
  rw [merged, mergeSources_pair, hmerged, mergeSource_kakaoPair rfl]
  rfl

/-- The variables add their provider to the other one. -/
theorem section?_naver {given fields : Entries}
    (h : mergeSources [providerDocument "naver" given] = providerDocument "naver" fields) :
    (section? (mergeSources ([providerDocument "naver" given] ++
      [source defaultStart (SortedMap.ofList kakaoPair)]))) =
        some (.table [("kakao", .table kakaoPairFields), ("naver", .table fields)]) := by
  rw [mergeSources_pair, h, providerDocument, mergeSource_kakaoPair rfl]
  rfl

/-- The document with fields that cannot be read is merged as it is, alone. -/
theorem mergeSources_faultFields :
    mergeSources [providerDocument "naver" faultFields] = providerDocument "naver" faultFields := rfl

/-- So is the one with two such fields. -/
theorem mergeSources_faultsFields :
    mergeSources [providerDocument "naver" faultsFields] = providerDocument "naver" faultsFields := rfl

/-- A text with a plain document shows no order. -/
theorem unordered_of_plain {source : Source} {document : Entries} {vars : List (String × String)}
    (htext : ∃ content format, source = .text content format)
    (hread : source.read ∅ = .ok document) (hplain : PlainKeys document)
    (hdistinct : (Value.table document).Distinct)
    (hclear : ∀ entry ∈ entriesIn (section? (merged [document] defaultStart (SortedMap.ofList vars))),
      Clear entry.2) : Unordered ∅ [source] vars := by
  obtain ⟨content, format, rfl⟩ := htext
  constructor
  case reads => exact fun _ _ => rfl
  case uncollapsed =>
    intro documents hdocuments
    obtain rfl := Except.ok.inj ((mapM_read_singleton hread).symm.trans hdocuments)
    exact List.forall_mem_singleton.mpr (uncollapsed_of_plain hplain hdistinct)
  case clear =>
    intro documents hdocuments
    obtain rfl := Except.ok.inj ((mapM_read_singleton hread).symm.trans hdocuments)
    exact hclear

/-- Fields that fold apart leave no choice. -/
theorem clear_of_foldsApart {fields : Entries} (h : FoldsApart fields) : Clear (.table fields) := by
  intro fields' heq
  obtain rfl := Value.table.inj heq
  exact FoldsApart.clear h

/-- The document of a provider whose fields are no tables has no keys that collapse. -/
theorem distinct_providerDocument (name : String) {fields : Entries} (hone : OneCase fields)
    (hleaf : ∀ entry ∈ fields, entry.2.Leaf) :
    (Value.table (providerDocument name fields)).Distinct := by
  have hsingle (key : String) {v : Value} (h : v.Distinct) : (Value.table [(key, v)]).Distinct :=
    .table (List.pairwise_singleton _ _) (List.forall_mem_singleton.mpr h)
  refine hsingle _ (hsingle _ (hsingle _ (.table hone fun entry hentry => ?_)))
  have hentry := hleaf entry hentry
  cases hvalue : entry.2 with
  | scalar origin s => exact .scalar origin s
  | list origin items => exact .list origin items
  | table inner => exact absurd hvalue (hentry inner)

/-- The only root key of the document of a provider is plain. -/
theorem plainKeys_providerDocument (name : String) (fields : Entries) :
    PlainKeys (providerDocument name fields) :=
  List.forall_mem_singleton.mpr isName_rootKey

/-- The text with a number shows no order. -/
theorem unordered_numberSource : Unordered ∅ [numberSource] kakaoPair := by
  refine unordered_of_plain ⟨_, _, rfl⟩ read_numberSource ?_ ?_ fun entry hentry => ?_
  · exact List.forall_mem_singleton.mpr isName_rootKey
  · refine .table (by decide) (List.forall_mem_singleton.mpr (.table (by decide) ?_))
    exact List.forall_mem_singleton.mpr (.scalar _ _)
  · rw [section?_numberSource] at hentry
    obtain rfl := List.mem_singleton.mp hentry
    exact clear_of_foldsApart (by decide)

/-- Nor does the text with a field that cannot be read. -/
theorem unordered_faultSource : Unordered ∅ [faultSource] kakaoPair := by
  refine unordered_of_plain ⟨_, _, rfl⟩ read_faultSource (plainKeys_providerDocument _ _) ?_
    fun entry hentry => ?_
  · refine distinct_providerDocument "naver" (by decide) (List.forall_mem_singleton.mpr ?_)
    intro inner h
    cases h
  · rw [merged, section?_naver mergeSources_faultFields] at hentry
    rcases List.mem_cons.mp hentry with rfl | hnaver
    · exact clear_of_foldsApart (by decide)
    · rw [List.mem_singleton.mp hnaver]
      exact clear_of_foldsApart (by decide)

/-- The provider that the variables give loads. -/
theorem ofValue_kakaoPairFields (fault : Fault) :
    ofValue (.table kakaoPairFields) ≠ .error fault := by
  have hok : (ofValue (.table kakaoPairFields)).toOption.isSome = true := by decide
  intro herror
  rw [herror] at hok
  cases hok

/-- The field that cannot be read is the only fault. -/
theorem oneFault_faultSource :
    OneFault (some (.table [("kakao", .table kakaoPairFields), ("naver", .table faultFields)])) where
  provider := by
    intro entry hentry other hother fault fault' hfault hfault'
    rcases List.mem_cons.mp hentry with rfl | hnaver
    · exact absurd hfault (ofValue_kakaoPairFields fault)
    · rcases List.mem_cons.mp hother with rfl | hnaver'
      · exact absurd hfault' (ofValue_kakaoPairFields fault')
      · rw [List.mem_singleton.mp hnaver, List.mem_singleton.mp hnaver']
  field := by
    intro entry hentry fields hfields field other fault fault' hfaulty hfaulty'
    rcases List.mem_cons.mp hentry with rfl | hnaver
    · obtain rfl := Value.table.inj hfields
      cases hvalue : ofValue (.table kakaoPairFields) with
      | ok p =>
        exact absurd hvalue (not_ok_of_faulty (by decide) hfaulty p)
      | error fault => exact absurd hvalue (ofValue_kakaoPairFields fault)
    · obtain rfl := List.mem_singleton.mp hnaver
      obtain rfl := Value.table.inj hfields
      have hkey {field : Field} {fault : Fault} (h : Faulty faultFields field fault) :
          field = .clientId := by
        obtain ⟨v, hv, _⟩ := h
        have hfolded : kebabFields faultFields = faultFields :=
          Value.eq_of_areSameEntries (by decide)
        rw [hfolded] at hv
        have hmem := List.mem_singleton.mp (mem_of_lookup hv)
        exact Field.key_injective (congrArg Prod.fst hmem)
      rw [hkey hfaulty, hkey hfaulty']

/-- With the variables, the text with a number loads to their provider. -/
theorem names_load_kakaoPair :
    (load ∅ [numberSource] defaultStart (SortedMap.ofList kakaoPair)).value.toOption.map
      Settings.names = some ["kakao"] := by
  rw [load_value_eq (mapM_read_singleton read_numberSource), ofDocuments, section?_numberSource]
  decide

/-- Either of the two variables may be the one that makes the section a table, and in all runs both of
them do. A field that cannot be read is named in all runs. -/
theorem load_any_order_kakaoPair :
    (∃ s, s.names = ["kakao"] ∧
        ∀ r, Loads ∅ [numberSource] defaultStart (SortedMap.ofList kakaoPair.reverse) r →
          r.value = .ok s) ∧
      ∀ r r', Loads ∅ [faultSource] defaultStart (SortedMap.ofList kakaoPair) r →
        Loads ∅ [faultSource] defaultStart (SortedMap.ofList kakaoPair.reverse) r' → r = r' := by
  obtain ⟨s, hs, hkakao⟩ := Option.map_eq_some_iff.mp names_load_kakaoPair
  refine ⟨⟨s, hkakao, fun r hr => ?_⟩, fun r r' hr hr' => ?_⟩
  · have hruns := (load_any_order ∅ [numberSource] separate_kakaoPair
      (List.reverse_perm kakaoPair)).2.2 unordered_numberSource
    have hsame := (hruns _ r (loads_load _ _ _ _) hr).1 s (.inl (eq_ok_of_toOption hs))
    rw [← hsame]
    exact eq_ok_of_toOption hs
  · have hruns := (load_any_order ∅ [faultSource] separate_kakaoPair
      (List.reverse_perm kakaoPair)).2.2 unordered_faultSource
    refine (hruns r r' hr hr').2 fun documents hdocuments => ?_
    obtain rfl := Except.ok.inj ((mapM_read_singleton read_faultSource).symm.trans hdocuments)
    rw [merged, section?_naver mergeSources_faultFields]
    exact oneFault_faultSource

/-- A client id. -/
def clientFields (value : String) : Entries := [("client-id", .scalar none (.text value))]

/-- Of two keys that are one in lowercase, the one that comes last wins. -/
theorem exists_loads_casesSource {visited : Entries} (order : casesFields.Perm visited)
    {value : String} (h : mergeSources [providerDocument "naver" visited] =
      providerDocument "naver" (clientFields value))
    (hclient : (ofSection (some (.table [("kakao", .table kakaoPairFields),
      ("naver", .table (clientFields value))]))).toOption.map
        (fun s => (s.provider? "naver").bind (·.clientId)) = some (some value))
    {vars : SortedMap String}
    (hwritten : Written defaultStart vars (source defaultStart (SortedMap.ofList kakaoPair))) :
    ∃ r s, Loads ∅ [casesSource] defaultStart vars r ∧ r.value = .ok s ∧
      (s.provider? "naver").bind (·.clientId) = some value := by
  rw [← section?_naver h] at hclient
  obtain ⟨s, hs, hclient⟩ := Option.map_eq_some_iff.mp hclient
  refine ⟨_, s, loads_visited (mapM_read_singleton read_casesSource)
    (.cons (documentVisited_providerDocument "naver" order) .nil) hwritten
    (sectionLoadsAs_ofSection _), ?_, hclient⟩
  rw [value_told]
  exact eq_ok_of_toOption hs

/-- Of the fields that cannot be read any one may be named. -/
theorem exists_loads_faultsSource (field : Field) {fault : Fault}
    (hfaulty : Faulty faultsFields field fault) {vars : SortedMap String}
    (hwritten : Written defaultStart vars (source defaultStart (SortedMap.ofList kakaoPair))) :
    ∃ r, Loads ∅ [faultsSource] defaultStart vars r ∧
      r.value = .error (.provider "naver" (.load fault)) := by
  have hsection : SectionLoadsAs (section? (mergeSources ([providerDocument "naver" faultsFields] ++
      [source defaultStart (SortedMap.ofList kakaoPair)])))
        (.error (.provider "naver" (.load fault))) := by
    rw [section?_naver mergeSources_faultsFields]
    refine sectionLoadsAs_error_iff.mpr (.inr ⟨("naver", .table faultsFields), ?_, fault,
      loadsAs_of_faulty hfaulty, rfl⟩)
    exact List.mem_cons_of_mem _ List.mem_cons_self
  refine ⟨_, loads_visited (mapM_read_singleton read_faultsSource)
    (List.forall₂_same.mpr fun document _ => .refl document) hwritten hsection, ?_⟩
  exact value_told _ _ _

/-- Sources may show an order: of two keys that are one in lowercase either one may win, and of two
fields of one provider that cannot be read either one may be named. -/
theorem load_shows_order_of_sources :
    Separate kakaoPair ∧ kakaoPair.reverse.Perm kakaoPair ∧
      (∃ r r' s s', Loads ∅ [casesSource] defaultStart (SortedMap.ofList kakaoPair) r ∧
        Loads ∅ [casesSource] defaultStart (SortedMap.ofList kakaoPair.reverse) r' ∧
        r.value = .ok s ∧ r'.value = .ok s' ∧ s ≠ s') ∧
      (∀ documents, [faultsSource].mapM (Source.read ∅) = .ok documents →
        ∀ entry ∈ entriesIn (section? (merged documents defaultStart (SortedMap.ofList kakaoPair))),
          ∀ fault, ofValue entry.2 = .error fault → entry.1 = "naver") ∧
      ∃ r r' fault fault', Loads ∅ [faultsSource] defaultStart (SortedMap.ofList kakaoPair) r ∧
        Loads ∅ [faultsSource] defaultStart (SortedMap.ofList kakaoPair.reverse) r' ∧
        r.value = .error (.provider "naver" (.load fault)) ∧
        r'.value = .error (.provider "naver" (.load fault')) ∧ fault ≠ fault' := by
  have hwritten := (separate_kakaoPair.written_iff_of_perm (List.reverse_perm kakaoPair)).mpr
    (written_source _ _)
  refine ⟨separate_kakaoPair, List.reverse_perm _, ?_, ?_, ?_⟩
  · obtain ⟨r, s, hr, hs, hclient⟩ := exists_loads_casesSource (List.Perm.refl _)
      (rfl : _ = providerDocument "naver" (clientFields "a")) (by decide) (written_source _ _)
    obtain ⟨r', s', hr', hs', hclient'⟩ := exists_loads_casesSource (.swap _ _ _)
      (rfl : _ = providerDocument "naver" (clientFields "b")) (by decide) hwritten
    refine ⟨r, r', s, s', hr, hr', hs, hs', fun heq => ?_⟩
    rw [heq, hclient'] at hclient
    revert hclient
    decide
  · intro documents hdocuments entry hentry fault hfault
    obtain rfl := Except.ok.inj ((mapM_read_singleton read_faultsSource).symm.trans hdocuments)
    rw [merged, section?_naver mergeSources_faultsFields] at hentry
    rcases List.mem_cons.mp hentry with rfl | hnaver
    · exact absurd hfault (ofValue_kakaoPairFields fault)
    · rw [List.mem_singleton.mp hnaver]
  · obtain ⟨r, hr, hvalue⟩ := exists_loads_faultsSource .clientId
      ⟨.list none [numberValue 1], by rfl, rfl⟩ (written_source _ _)
    obtain ⟨r', hr', hvalue'⟩ := exists_loads_faultsSource .redirectUri
      ⟨.list none [numberValue 2], by rfl, rfl⟩ hwritten
    exact ⟨r, r', _, _, hr, hr', hvalue, hvalue', by decide⟩

end Settings

end GrantConfig
