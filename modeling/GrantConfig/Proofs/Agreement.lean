import GrantConfig.Proofs.Documents
import GrantConfig.Proofs.Serialization

/-!
# Loading agrees with binding

An object of settings can be bound from JSON, and it can be loaded as the only document. Where the
keys are in lowercase and fields are spelled one way, whatever binds loads to the same settings. So
settings are back after serialization and loading, but for their secrets.
-/

namespace GrantConfig.Settings

open Layer Unicode Provider Json

/-- Objects of settings that can be laid out as a document: keys in lowercase outside lists, an
object for each provider, and fields that are spelled one way. -/
structure Loadable (entries : List (String × Json)) : Prop where
  lowerKeyed : (Json.members entries).LowerKeyed
  objects : ∀ entry ∈ membersUnder providersKey entries, ∃ fields, entry.2 = .members fields
  unmixed : ∀ name, Unmixed (membersUnder name (membersUnder providersKey entries))

/-- The document of an object of settings. -/
def settingsDocument (origin : Option Origin) (entries : List (String × Json)) : Entries :=
  ofJsonMembers origin [(rootKey, .members entries)]

/-- Settings bind from an object whose providers are an object, or missing, entry by entry. -/
theorem ofJson_members_eq_ok {entries : List (String × Json)} {s : Settings} :
    ofJson (.members entries) = .ok s ↔
      (∀ v, List.lookup providersKey entries = some v → ∃ inner, v = .members inner) ∧
        bindEntries ∅ (membersUnder providersKey entries) = .ok s.providers := by
  obtain ⟨providers⟩ := s
  have hkey : List.lookup "providers" entries = List.lookup providersKey entries := rfl
  rw [ofJson, membersUnder]
  simp only [hkey]
  cases List.lookup providersKey entries with
  | none =>
    constructor
    · intro h
      cases h
      exact ⟨fun _ hv => (by cases hv), rfl⟩
    · intro hgiven
      obtain ⟨_, h⟩ := hgiven
      cases h
      rfl
  | some v =>
    cases v with
    | members inner =>
      simp only [ofProviders, map_eq_ok]
      constructor
      · intro hgiven
        obtain ⟨m, h, hm⟩ := hgiven
        cases hm
        exact ⟨fun v hv => ⟨inner, (Option.some.inj hv).symm⟩, h⟩
      · intro hgiven
        obtain ⟨_, h⟩ := hgiven
        exact ⟨providers, h, rfl⟩
    | null | bool | number | string | array =>
      refine ⟨fun h => (by cases h), fun h => ?_⟩
      obtain ⟨_, hv⟩ := h.1 _ rfl
      cases hv

namespace Loadable

variable {entries : List (String × Json)} (h : Loadable entries)

include h

/-- The root of the document has its keys in lowercase as well. -/
theorem lowerKeyed_root : (Json.members [(rootKey, .members entries)]).LowerKeyed :=
  lowerKeyed_singleton (by decide) h.lowerKeyed

/-- Under the root key, the document has what the entries become. -/
theorem tableAt_rootKey (origin : Option Origin) :
    tableAt rootKey (settingsDocument origin entries) = ofJsonMembers origin entries := by
  rw [settingsDocument, h.lowerKeyed_root.tableAt_ofJsonMembers, membersUnder_cons_self]

/-- The providers of the document are what the providers of the object become. -/
theorem documentProviders_eq (origin : Option Origin) :
    documentProviders (settingsDocument origin entries) =
      ofJsonMembers origin (membersUnder providersKey entries) := by
  rw [documentProviders, h.tableAt_rootKey, h.lowerKeyed.tableAt_ofJsonMembers]

/-- The fields of a provider in the document are what its fields in the object become. -/
theorem documentFields_eq (origin : Option Origin) (name : String) :
    documentFields name (settingsDocument origin entries) =
      ofJsonMembers origin (membersUnder name (membersUnder providersKey entries)) := by
  rw [documentFields, h.documentProviders_eq,
    (h.lowerKeyed.membersUnder providersKey).tableAt_ofJsonMembers]

/-- The fields of a provider have their keys in lowercase as well. -/
theorem lowerKeyed_fields (name : String) :
    (Json.members (membersUnder name (membersUnder providersKey entries))).LowerKeyed :=
  (h.lowerKeyed.membersUnder providersKey).membersUnder name

/-- The document configures what the object has under a key of a provider. -/
theorem configured?_eq (origin : Option Origin) (name key : String) :
    configured? name key (settingsDocument origin entries) =
      (List.lookup key (membersUnder name (membersUnder providersKey entries))).map
        (Layer.ofJson origin) := by
  rw [configured?, h.documentFields_eq, (h.lowerKeyed_fields name).lowerKeys_ofJsonMembers,
    lookup_ofJsonMembers]

/-- No two providers of the object have one name. -/
theorem distinct_providers : DistinctKeys (membersUnder providersKey entries) := by
  cases h.lowerKeyed.membersUnder providersKey with
  | members distinct _ _ => exact distinct

/-- Binding fills in a provider for each member of the providers. -/
theorem filledAt_providers {s : Settings} (hbind : ofJson (.members entries) = .ok s)
    (name : String) :
    FilledAt (fun _ => Provider.ofJson) ∅ s.providers name
      (List.lookup name (membersUnder providersKey entries)) := by
  have hentries := (ofJson_members_eq_ok.mp hbind).2
  rw [bindEntries_eq, fillEach_eq_ok h.distinct_providers] at hentries
  exact hentries name

/-- Each provider of an object is bound from the members under its name. -/
theorem exists_bindMembers {s : Settings} (hbind : ofJson (.members entries) = .ok s)
    {name : String} {v : Json}
    (hv : List.lookup name (membersUnder providersKey entries) = some v) :
    ∃ p, s.providers.find? name = some p ∧
      bindMembers [] {} (membersUnder name (membersUnder providersKey entries)) = .ok p := by
  have hfilled := h.filledAt_providers hbind name
  rw [hv] at hfilled
  obtain ⟨p, hp, hfound⟩ := hfilled
  obtain ⟨fields, hfields⟩ := h.objects _ (mem_of_lookup hv)
  obtain rfl : v = .members fields := hfields
  refine ⟨p, hfound, ?_⟩
  rw [membersUnder, hv]
  exact hp

/-- No field of a provider that binds is an object. -/
theorem noTable {s : Settings} (hbind : ofJson (.members entries) = .ok s)
    (origin : Option Origin) (name key : String) (hkey : IsFieldKey key) (inner : Entries) :
    configured? name key (settingsDocument origin entries) ≠ some (.table inner) := by
  rw [h.configured?_eq]
  intro hvalue
  obtain ⟨v, hv, htable⟩ := Option.map_eq_some_iff.mp hvalue
  obtain ⟨members, rfl⟩ : ∃ members, v = .members members := by
    cases v with
    | members members => exact ⟨members, rfl⟩
    | null | bool | number | string | array => cases htable
  have hmem := mem_of_lookup hv
  obtain ⟨field, hfield⟩ := hkey
  have hname := ofKey?_of_kebabKey hfield (h.unmixed name _ hmem field hfield)
  -- The provider has this member, so it is there and has been bound.
  cases hprovider : List.lookup name (membersUnder providersKey entries) with
  | none =>
    rw [membersUnder, hprovider] at hmem
    cases hmem
  | some provider =>
    obtain ⟨p, _, hp⟩ := h.exists_bindMembers hbind hprovider
    have htakes := (takes_of_bindMembers hp field).1
    rw [valueIn?_of_bindMembers hp hmem hname] at htakes
    exact bind_members_ne_ok field members _ htakes

/-- An object that binds is a well-formed document. -/
theorem wellFormed {s : Settings} (hbind : ofJson (.members entries) = .ok s)
    (origin : Option Origin) : WellFormed (settingsDocument origin entries) where
  plain := List.forall_mem_singleton.mpr isName_rootKey
  oneCase := h.lowerKeyed_root.oneCase_ofJsonMembers origin
  root := by
    refine h.lowerKeyed_root.tableOrNothing_ofJsonMembers origin fun v hv => ?_
    rw [List.lookup_cons_self] at hv
    exact ⟨entries, (Option.some.inj hv).symm⟩
  rootOneCase := by
    rw [h.tableAt_rootKey]
    exact h.lowerKeyed.oneCase_ofJsonMembers origin
  providers := by
    rw [h.tableAt_rootKey]
    exact h.lowerKeyed.tableOrNothing_ofJsonMembers origin (ofJson_members_eq_ok.mp hbind).1
  providersOneCase := by
    rw [h.documentProviders_eq]
    exact (h.lowerKeyed.membersUnder providersKey).oneCase_ofJsonMembers origin
  provider name := by
    rw [h.documentProviders_eq]
    exact (h.lowerKeyed.membersUnder providersKey).tableOrNothing_ofJsonMembers origin
      fun v hv => h.objects _ (mem_of_lookup hv)
  fieldsOneCase name := by
    rw [h.documentFields_eq]
    exact (h.lowerKeyed_fields name).oneCase_ofJsonMembers origin
  unmixed name := by
    rw [h.documentFields_eq, (h.lowerKeyed_fields name).lowerKeys_ofJsonMembers,
      ofJsonMembers_eq_map]
    intro entry hentry field hkey
    obtain ⟨member, hmember, rfl⟩ := List.mem_map.mp hentry
    exact h.unmixed name member hmember field hkey
  noTable name key hkey inner := h.noTable hbind origin name key hkey inner

/-- The only document of an object has what the object has for a field. -/
theorem lastValue?_eq (origin : Option Origin) (name : String) (field : Field) :
    lastValue? [settingsDocument origin entries] name field =
      (field.valueIn? (membersUnder name (membersUnder providersKey entries))).map
        (Layer.ofJson origin) := by
  rw [lastValue?, lastConfigured?_cons, lastConfigured?_cons, h.configured?_eq, h.configured?_eq,
    Field.valueIn?, Option.map_or]
  rfl

/-- The document mentions the providers of the object. -/
theorem any_mentions_eq (origin : Option Origin) (name : String) :
    [settingsDocument origin entries].any (mentions name) =
      (List.lookup name (membersUnder providersKey entries)).isSome := by
  rw [List.any_cons, List.any_nil, Bool.or_false, mentions, h.documentProviders_eq,
    (h.lowerKeyed.membersUnder providersKey).lowerKeys_ofJsonMembers, lookup_ofJsonMembers,
    Option.isSome_map]

/-- The only document of an object that binds gives each provider what it binds to. -/
theorem gives {s : Settings} (hbind : ofJson (.members entries) = .ok s) (origin : Option Origin)
    (name : String) : Gives [settingsDocument origin entries] name (s.provider? name) := by
  have hmentions := h.any_mentions_eq origin name
  have hfilled := h.filledAt_providers hbind name
  cases hvalue : List.lookup name (membersUnder providersKey entries) with
  | none =>
    rw [hvalue] at hfilled hmentions
    have hfound : s.provider? name = none := hfilled
    rw [hfound, Gives, hmentions, Option.isSome_none]
  | some v =>
    rw [hvalue, Option.isSome_some] at hmentions
    obtain ⟨p, hfound, hp⟩ := h.exists_bindMembers hbind hvalue
    rw [provider?, hfound]
    refine ⟨hmentions, fun field => ?_⟩
    rw [h.lastValue?_eq]
    exact takes_load_of_bindMembers hp origin field

/-- Loading the only document of an object that binds gives the same settings. -/
theorem ofDocuments_eq_ok {s : Settings} (hbind : ofJson (.members entries) = .ok s)
    (origin : Option Origin) (start : String) :
    ofDocuments [settingsDocument origin entries] start ∅ = .ok s := by
  have hall : ∀ d ∈ [settingsDocument origin entries], WellFormed d :=
    List.forall_mem_singleton.mpr (h.wellFormed hbind origin)
  have hmerged : merged [settingsDocument origin entries] start ∅ =
      layered [settingsDocument origin entries] := by
    rw [← mergeSources_eq_layered hall]
    rfl
  rw [ofDocuments, hmerged, ofSection_layered_eq_ok hall]
  exact h.gives hbind origin

end Loadable

/-- The members of the object of settings. -/
def toMembers (s : Settings) : List (String × Json) :=
  [("providers", .members (s.providers.entries.map fun entry => (entry.1, entry.2.toJson)))]

/-- Serialized settings have their serialized providers. -/
theorem membersUnder_toMembers (s : Settings) :
    membersUnder providersKey s.toMembers =
      s.providers.entries.map fun entry => (entry.1, entry.2.toJson) := by
  rw [toMembers, providersKey, membersUnder_cons_self]

/-- A serialized provider has all its fields spelled with hyphens. -/
theorem unmixed_toJson (s : Settings) (name : String) :
    Unmixed (membersUnder name (membersUnder providersKey s.toMembers)) := by
  rw [membersUnder_toMembers, membersUnder, lookup_map fun _ p => Provider.toJson p]
  cases List.lookup name s.providers.entries with
  | none => exact unmixed_nil
  | some p =>
    rw [Option.map_some, toJson_eq]
    intro entry hentry _ _
    obtain ⟨field, _, rfl⟩ := List.mem_map.mp hentry
    exact isMixedKey_key field

/-- Settings whose names are in lowercase can be laid out as a document. -/
theorem loadable_toMembers {s : Settings} (h : ∀ name ∈ s.names, lowercase name = name) :
    Loadable s.toMembers where
  lowerKeyed := by
    refine lowerKeyed_singleton (by decide) ?_
    refine .members (List.pairwise_map.mpr s.providers.ascending.distinctKeys) ?_ ?_
    · intro entry hentry
      obtain ⟨member, hmember, rfl⟩ := List.mem_map.mp hentry
      exact h member.1 (List.mem_map_of_mem hmember)
    · intro entry hentry
      obtain ⟨member, _, rfl⟩ := List.mem_map.mp hentry
      exact member.2.lowerKeyed_toJson
  objects := by
    rw [membersUnder_toMembers]
    intro entry hentry
    obtain ⟨member, _, rfl⟩ := List.mem_map.mp hentry
    exact ⟨_, toJson_eq member.2⟩
  unmixed := s.unmixed_toJson

/-- Loading the only document of an object gives what binding the object gives, and loading
serialized settings gives them back without their secrets. -/
theorem load_document_eq_bind :
    (∀ (entries : List (String × Json)) (s : Settings), Loadable entries →
      ofJson (.members entries) = .ok s →
        ∀ (files : Files) (source : Source) (origin : Option Origin) (start : String),
          source.read files = .ok (ofJsonMembers origin [(rootKey, .members entries)]) →
            (load files [source] start ∅).value = .ok s) ∧
      ∀ s : Settings, (∀ name ∈ s.names, lowercase name = name) →
        ∀ (files : Files) (source : Source) (origin : Option Origin) (start : String),
          source.read files = .ok (ofJsonMembers origin [(rootKey, s.toJson)]) →
            (load files [source] start ∅).value = .ok s.withoutSecrets := by
  constructor
  · intro entries s h hbind files source origin start hread
    rw [load_value_eq (mapM_read_singleton hread)]
    exact h.ofDocuments_eq_ok hbind origin start
  · intro s hnames files source origin start hread
    rw [load_value_eq (mapM_read_singleton hread)]
    exact (loadable_toMembers hnames).ofDocuments_eq_ok s.ofJson_toJson origin start

/-- The members of a provider in both spellings, with a parameter and a key that is no field. -/
def kakaoFields : List (String × Json) :=
  [("client_id", .string "a"),
    ("extra-params", .array [.members [("name", .string "Prompt"), ("value", .string "x")]]),
    ("note", .null), ("scopes", .string "b, c")]

/-- An object of settings with that provider. -/
def kakaoEntries : List (String × Json) :=
  [("providers", .members [("kakao", .members kakaoFields)])]

/-- A text of the object under its root key. -/
def kakaoSource : Source :=
  .text ("\x7b\"oauth\":\x7b\"providers\":\x7b\"kakao\":\x7b\"client_id\":\"a\"," ++
    "\"extra-params\":[\x7b\"name\":\"Prompt\",\"value\":\"x\"\x7d]," ++
    "\"note\":null,\"scopes\":\"b, c\"\x7d\x7d\x7d\x7d") .json

/-- The settings that the object gives. -/
def kakaoSettings : Settings :=
  ⟨(∅ : SortedMap Provider).insert "kakao"
    { clientId := some "a", scopes := ["b", "c"],
      extraParams := (∅ : SortedMap String).insert "Prompt" "x" }⟩

/-- The same settings with a secret. -/
def secretSettings : Settings :=
  ⟨(∅ : SortedMap Provider).insert "kakao"
    { clientId := some "a", clientSecret := some "s", scopes := ["b", "c"],
      extraParams := (∅ : SortedMap String).insert "Prompt" "x" }⟩

/-- The text that the settings with a secret serialize to, under their root key. -/
def serializedSource : Source :=
  .text ("\x7b\"oauth\":\x7b\"providers\":\x7b\"kakao\":\x7b\"client-id\":\"a\"," ++
    "\"code-path\":null,\"extra-params\":[\x7b\"name\":\"Prompt\",\"value\":\"x\"\x7d]," ++
    "\"redirect-uri\":null,\"scopes\":[\"b\",\"c\"],\"token-path\":null," ++
    "\"user-info-path\":null\x7d\x7d\x7d\x7d") .json

/-- The example has one provider. -/
theorem membersUnder_kakaoEntries :
    membersUnder providersKey kakaoEntries = [("kakao", .members kakaoFields)] := by
  rw [kakaoEntries, providersKey, membersUnder_cons_self]

/-- Its fields are in lowercase. -/
theorem lowerKeyed_kakaoFields : (Json.members kakaoFields).LowerKeyed := by
  have hlower : ∀ entry ∈ kakaoFields, lowercase entry.1 = entry.1 := by decide
  refine .members (by decide) hlower ?_
  simp only [kakaoFields, List.forall_mem_cons]
  exact ⟨.string _, .array _, .null, .string _, List.forall_mem_nil _⟩

/-- The example can be loaded. -/
theorem loadable_kakaoEntries : Loadable kakaoEntries where
  lowerKeyed := lowerKeyed_singleton (by decide)
    (lowerKeyed_singleton (by decide) lowerKeyed_kakaoFields)
  objects := by
    rw [membersUnder_kakaoEntries]
    exact List.forall_mem_singleton.mpr ⟨kakaoFields, rfl⟩
  unmixed name := by
    have hkeys : ∀ entry ∈ kakaoFields, isMixedKey entry.1 = false := by decide
    rw [membersUnder_kakaoEntries]
    by_cases hname : name = "kakao"
    · rw [hname, membersUnder_cons_self]
      exact fun entry hentry _ _ => hkeys entry hentry
    · rw [membersUnder_cons_of_ne _ _ hname]
      exact unmixed_nil

/-- The text of the example is read as its document. -/
theorem read_kakaoSource :
    kakaoSource.read ∅ = .ok (ofJsonMembers none [(rootKey, .members kakaoEntries)]) :=
  eq_ok_of_areSame (by decide +kernel)

/-- The text of serialized settings is read as their document. -/
theorem read_serializedSource :
    serializedSource.read ∅ = .ok (ofJsonMembers none [(rootKey, secretSettings.toJson)]) :=
  eq_ok_of_areSame (by decide +kernel)

/-- An object that spells a field with underscores loads as it binds, and its settings are back. -/
theorem load_document_eq_bind_kakao :
    (load ∅ [kakaoSource] defaultStart ∅).value = .ok kakaoSettings ∧
      (load ∅ [serializedSource] defaultStart ∅).value = .ok secretSettings.withoutSecrets :=
  ⟨load_document_eq_bind.1 kakaoEntries kakaoSettings loadable_kakaoEntries
      (eq_ok_of_toOption (by decide +kernel)) ∅ kakaoSource none defaultStart read_kakaoSource,
    load_document_eq_bind.2 secretSettings (by decide) ∅ serializedSource none defaultStart
      read_serializedSource⟩

end GrantConfig.Settings
