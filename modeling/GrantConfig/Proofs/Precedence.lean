import GrantConfig.Proofs.Variables

/-!
# Precedence of sources

Loading lays the sources over one another, brings keys to lowercase, rewrites the names of variables
and folds the two spellings of fields. What comes out follows a plain rule for each field of each
provider by itself: the environment wins, then the last document that has the key with hyphens,
then the last document that has the key with underscores, and then the default.
-/

namespace GrantConfig.Settings

open Layer Unicode Provider

/-- The value that documents and an environment together give a field of a provider. -/
def effective? (documents : List Entries) (vars : SortedMap String) (name : String)
    (field : Field) : Option Value :=
  (fromEnvironment? vars name field).or (lastValue? documents name field)

/-- The environment is merged as further documents. -/
theorem merged_eq_layered {documents : List Entries} (h : ∀ d ∈ documents, WellFormed d)
    {vars : SortedMap String} {assignments : List Assignment}
    (heq : Environment.source defaultStart vars = assignments.map Assignment.entry) :
    merged documents defaultStart vars =
      layered (documents ++ assignments.map Assignment.document) := by
  have hsource : merged documents defaultStart vars =
      mergeSource (mergeSources documents) (Environment.source defaultStart vars) := by
    rw [merged, mergeSources, List.foldl_append]
    rfl
  rw [hsource, mergeSources_eq_layered h, heq, Assignment.mergeSource_entries, layered, layered,
    List.foldl_append]

/-- All documents are well-formed, those of the environment included. -/
theorem wellFormed_append {documents : List Entries} (h : ∀ d ∈ documents, WellFormed d)
    (assignments : List Assignment) :
    ∀ d ∈ documents ++ assignments.map Assignment.document, WellFormed d := by
  intro d hd
  rcases List.mem_append.mp hd with hmem | hmem
  · exact h d hmem
  · obtain ⟨a, _, rfl⟩ := List.mem_map.mp hmem
    exact a.wellFormed_document

/-- The last value of a field, with the environment behind the other documents. -/
theorem lastValue?_append {vars : SortedMap String} (henvironment : IsEnvironment vars)
    {assignments : List Assignment}
    (heq : Environment.source defaultStart vars = assignments.map Assignment.entry)
    (documents : List Entries) (name : String) (field : Field) :
    lastValue? (documents ++ assignments.map Assignment.document) name field =
      effective? documents vars name field := by
  rw [lastValue?, lastConfigured?_append, lastConfigured?_append,
    henvironment.lastConfigured?_assignments heq, effective?, lastValue?]
  by_cases hspelling : field.snakeKey = field.key
  · rw [hspelling, henvironment.lastConfigured?_assignments heq, Option.or_self, Option.or_self]
  · rw [lastConfigured?_assignments_snakeKey assignments name hspelling, Option.none_or,
      Option.or_assoc]

/-- The names of providers that documents or variables mention. -/
theorem any_mentions_append {documents : List Entries} {vars : SortedMap String}
    (henvironment : IsEnvironment vars) {assignments : List Assignment}
    (heq : Environment.source defaultStart vars = assignments.map Assignment.entry)
    (name : String) :
    (documents ++ assignments.map Assignment.document).any (mentions name) = true ↔
      documents.any (mentions name) = true ∨
        ∃ field v, fromEnvironment? vars name field = some v := by
  rw [List.any_append, Bool.or_eq_true]
  refine or_congr_right ?_
  simp only [List.any_map, List.any_eq_true, Function.comp_apply, Assignment.mentions_document,
    decide_eq_true_eq, henvironment.fromEnvironment?_eq_some_iff_assignment heq]
  constructor
  · intro h
    obtain ⟨a, ha, rfl⟩ := h
    exact ⟨a.field, written a.value, a, ha, rfl, rfl, rfl⟩
  · intro h
    obtain ⟨_, _, a, ha, hname, -, -⟩ := h
    exact ⟨a, ha, hname.symm⟩

/-- Loading holds exactly the providers that a document or a variable mentions, and each field of
each of them is what its effective value gives. -/
theorem load_takes_effective {files : Files} {sources : List Source} {documents : List Entries}
    {vars : SortedMap String} {s : Settings}
    (hread : sources.mapM (Source.read files) = .ok documents)
    (hdocuments : ∀ d ∈ documents, WellFormed d) (henvironment : IsEnvironment vars)
    (hload : (load files sources defaultStart vars).value = .ok s) (name : String) :
    ((s.provider? name).isSome = true ↔ documents.any (mentions name) = true ∨
        ∃ field v, fromEnvironment? vars name field = some v) ∧
      ∀ p, s.provider? name = some p → ∀ field : Field,
        field.Takes field.load {} p (effective? documents vars name field) := by
  obtain ⟨assignments, heq⟩ := henvironment.exists_assignments
  have hall := wellFormed_append hdocuments assignments
  rw [load_value_eq hread, ofDocuments, merged_eq_layered hdocuments heq,
    ofSection_layered_eq_ok hall] at hload
  have hgives := hload name
  rw [← any_mentions_append henvironment heq]
  cases hfound : s.provider? name with
  | none =>
    rw [hfound, Gives] at hgives
    rw [hgives]
    exact ⟨Iff.rfl, fun p hp => by cases hp⟩
  | some p =>
    rw [hfound] at hgives
    obtain ⟨hmentions, htakes⟩ := hgives
    rw [hmentions]
    refine ⟨Iff.rfl, fun q hq field => ?_⟩
    obtain rfl := Option.some.inj hq
    rw [← lastValue?_append henvironment heq]
    exact htakes field

/-- Two texts that spell fields of one provider in either way. -/
def layersSources : List Source :=
  [.text ("\x7b\"oauth\":\x7b\"providers\":\x7b\"kakao\":\x7b\"client_id\":\"first\"," ++
      "\"scopes\":[\"a\"],\"token_path\":\"old\"\x7d\x7d\x7d\x7d") .json,
    .text "[oauth.providers.kakao]\ntoken_path = \"new\"\nuser-info-path = 7\n" .toml]

/-- The entries of the provider in the first text. -/
def firstFields : Entries :=
  [("client_id", .scalar none (.text "first")), ("scopes", .list none [.scalar none (.text "a")]),
    ("token_path", .scalar none (.text "old"))]

/-- The entries of the provider in the second text. -/
def secondFields : Entries :=
  [("token_path", .scalar none (.text "new")), ("user-info-path", .scalar none (.integer 7))]

/-- A variable of the provider, with its name in another letter case. -/
def layersVars : SortedMap String :=
  (∅ : SortedMap String).insert "OAUTH__PROVIDERS__Kakao__CLIENT_ID" "second"

/-- The texts of the example are read as two documents of one provider. -/
theorem read_layersSources :
    layersSources.mapM (Source.read ∅) =
      .ok [providerDocument "kakao" firstFields, providerDocument "kakao" secondFields] := by
  exact mapM_read_cons (eq_ok_of_areSame (by decide +kernel))
    (mapM_read_singleton (eq_ok_of_areSame (by decide +kernel)))

/-- Both documents are well formed. -/
theorem wellFormed_layers :
    ∀ d ∈ [providerDocument "kakao" firstFields, providerDocument "kakao" secondFields],
      WellFormed d := by
  have hname : lowercase "kakao" = "kakao" := by decide
  have hfirst : ∀ entry ∈ lowerKeys firstFields, isMixedKey entry.1 = false := by decide
  have hsecond : ∀ entry ∈ lowerKeys secondFields, isMixedKey entry.1 = false := by decide
  refine List.forall_mem_cons.mpr ⟨?_, List.forall_mem_singleton.mpr ?_⟩
  · refine wellFormed_providerDocument hname (by decide) (fun e he _ _ => hfirst e he) ?_
    simp [lowerKeys, firstFields]
  · refine wellFormed_providerDocument hname (by decide) (fun e he _ _ => hsecond e he) ?_
    simp [lowerKeys, secondFields]

/-- The variables of the example name fields. -/
theorem isEnvironment_layersVars : IsEnvironment layersVars where
  named var hvar _ := by
    obtain rfl := List.mem_singleton.mp hvar
    exact ⟨"kakao", .clientId, by decide, by decide⟩
  distinct var hvar other hother _ _ _ := by
    rw [List.mem_singleton.mp hvar, List.mem_singleton.mp hother]

/-- The variable wins, the second text replaces what it spells, and the rest of the first stays. -/
theorem load_takes_effective_layers :
    ∃ s p, (load ∅ layersSources defaultStart layersVars).value = .ok s ∧
      s.provider? "kakao" = some p ∧ p.clientId = some "second" ∧ p.tokenPath = some "new" ∧
      p.userInfoPath = some "7" ∧ p.scopes = ["a"] ∧ p.redirectUri = none := by
  have hsome : (load ∅ layersSources defaultStart layersVars).value.toOption.isSome = true := by
    rw [load_value_eq read_layersSources]
    decide +kernel
  obtain ⟨s, hs⟩ := Option.isSome_iff_exists.mp hsome
  have hload := eq_ok_of_toOption hs
  obtain ⟨hpresent, hfields⟩ := load_takes_effective read_layersSources wellFormed_layers
    isEnvironment_layersVars hload "kakao"
  obtain ⟨p, hp⟩ := Option.isSome_iff_exists.mp (hpresent.mpr (.inl (by decide)))
  have htakes := hfields p hp
  refine ⟨s, p, hload, hp, ?_, ?_, ?_, ?_, ?_⟩
  · exact (Except.ok.inj (htakes .clientId)).symm
  · exact (Except.ok.inj (htakes .tokenPath)).symm
  · exact (Except.ok.inj (htakes .userInfoPath)).symm
  · exact (Except.ok.inj (htakes .scopes)).symm
  · exact htakes .redirectUri

end GrantConfig.Settings
