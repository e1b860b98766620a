import GrantConfig.Proofs.FieldValues
import GrantConfig.Proofs.JsonDocuments
import GrantConfig.Proofs.Sections

/-!
# Binding what has been serialized

The JSON value of a provider binds to that provider without its secret: unset texts are null, scopes
are a list of texts, and parameters are entries whose names keep their letter case. So the JSON
value of settings binds to those settings without their secrets, and nothing is lost by serializing
settings that have none.
-/

namespace GrantConfig

open Provider

namespace Provider

/-- A provider without its secret. -/
def withoutSecret (p : Provider) : Provider := { p with clientSecret := none }

/-- The secret leaves no trace in what is serialized. -/
theorem toJson_withoutSecret (p : Provider) : p.withoutSecret.toJson = p.toJson := rfl

/-- The member of a field in the object of a provider. The secret has none. -/
def fieldJson (p : Provider) : Field → Json
  | .clientId => .ofText? p.clientId
  | .clientSecret => .null
  | .redirectUri => .ofText? p.redirectUri
  | .tokenPath => .ofText? p.tokenPath
  | .codePath => .ofText? p.codePath
  | .userInfoPath => .ofText? p.userInfoPath
  | .scopes => .array (p.scopes.map .string)
  | .extraParams => .array (p.extraParams.entries.map paramJson)

/-- The fields that are serialized, in the order of their keys. -/
def serializedFields : List Field :=
  [.clientId, .codePath, .extraParams, .redirectUri, .scopes, .tokenPath, .userInfoPath]

/-- A provider is serialized field by field. -/
theorem toJson_eq (p : Provider) :
    p.toJson = .members (serializedFields.map fun field => (field.key, p.fieldJson field)) := by
  simp only [toJson, toMembers, Json.object, List.foldl_cons, List.foldl_nil, insertEntry, serializedFields,
    Field.key, List.map_cons, List.map_nil, fieldJson, String.reduceLT, String.reduceEq, reduceIte]

/-- A text that is serialized configures itself. -/
theorem configuresText_ofText? (text : Option String) : ConfiguresText (.ofText? text) text := by
  cases text with
  | none => exact .unset
  | some s => exact .text s

/-- Parameters are configured by their own entries. -/
theorem configuresParams_entries (params : SortedMap String) :
    ConfiguresParams (.array (params.entries.map paramJson)) params := by
  have hitems : List.Forall₂ ConfiguresParam (params.entries.map paramJson) params.entries := by
    rw [List.forall₂_map_left_iff, List.forall₂_same]
    exact fun param _ => .entry rfl rfl
  have hlist := ConfiguresParams.list hitems
  rwa [SortedMap.ofList_of_perm (.refl _)] at hlist

/-- The member of a field binds to what the field holds. -/
theorem bind_fieldJson (p : Provider) (field : Field) :
    field.bind (p.fieldJson field) = .ok (p.withoutSecret.get field) := by
  apply Field.bind_eq_ok_iff.mpr
  cases field with
  | scopes => exact .list p.scopes
  | extraParams => exact configuresParams_entries p.extraParams
  | clientSecret => exact .unset
  | clientId | redirectUri | tokenPath | codePath | userInfoPath =>
    exact configuresText_ofText? _

/-- No key is written twice. -/
theorem distinctKeys_fieldJson (p : Provider) :
    DistinctKeys (serializedFields.map fun field => (field.key, p.fieldJson field)) := by
  refine List.pairwise_map.mpr ?_
  exact (by decide : serializedFields.Nodup).imp fun hne heq => hne (Field.key_injective heq)

/-- A provider is back after serialization, but for its secret. -/
theorem ofJson_toJson (p : Provider) : ofJson p.toJson = .ok p.withoutSecret := by
  have hkeys : ∀ entry ∈ serializedFields.map fun field => (field.key, p.fieldJson field),
      ∃ field : Field, entry.1 = field.key := by
    simp only [List.forall_mem_map]
    exact fun field _ => ⟨field, rfl⟩
  rw [toJson_eq, ofJson, bindMembers_eq_ok p.distinctKeys_fieldJson hkeys (List.forall_mem_nil _)]
  intro field
  cases field with
  | clientSecret => rfl
  | clientId | redirectUri | tokenPath | codePath | userInfoPath | scopes | extraParams =>
    exact p.bind_fieldJson _

/-- The object of a provider has its keys in lowercase. -/
theorem lowerKeyed_toJson (p : Provider) : p.toJson.LowerKeyed := by
  have hleaf : ∀ field, (p.fieldJson field).LowerKeyed := by
    intro field
    cases field with
    | scopes | extraParams => exact .array _
    | clientSecret => exact .null
    | clientId => exact Json.lowerKeyed_ofText? _
    | redirectUri => exact Json.lowerKeyed_ofText? _
    | tokenPath => exact Json.lowerKeyed_ofText? _
    | codePath => exact Json.lowerKeyed_ofText? _
    | userInfoPath => exact Json.lowerKeyed_ofText? _
  rw [toJson_eq]
  refine .members ?_ ?_ ?_
  · exact p.distinctKeys_fieldJson
  · intro entry hentry
    obtain ⟨field, _, rfl⟩ := List.mem_map.mp hentry
    exact field.lowercase_key
  · intro entry hentry
    obtain ⟨field, _, rfl⟩ := List.mem_map.mp hentry
    exact hleaf field

end Provider

namespace Settings

/-- Settings without secrets. -/
def withoutSecrets (s : Settings) : Settings :=
  ⟨s.providers.mapEntries fun _ p => p.withoutSecret⟩

/-- The object of the providers binds entry by entry. -/
theorem bindEntries_toJson (s : Settings) :
    bindEntries ∅ (s.providers.entries.map fun entry => (entry.1, entry.2.toJson)) =
      .ok s.withoutSecrets.providers := by
  have hdistinct : DistinctKeys (s.providers.entries.map fun entry => (entry.1, entry.2.toJson)) :=
    List.pairwise_map.mpr s.providers.ascending.distinctKeys
  rw [bindEntries_eq, fillEach_eq_ok hdistinct]
  intro name
  rw [lookup_map fun _ p => Provider.toJson p]
  have hfound : s.withoutSecrets.providers.find? name =
      (s.providers.find? name).map Provider.withoutSecret :=
    SortedMap.find?_mapEntries _ _ _
  rw [SortedMap.find?] at hfound
  cases hvalue : List.lookup name s.providers.entries with
  | none =>
    rw [SortedMap.find?, hvalue] at hfound
    exact hfound
  | some p =>
    rw [SortedMap.find?, hvalue] at hfound
    exact ⟨p.withoutSecret, p.ofJson_toJson, hfound⟩

/-- Settings are back after serialization, but for their secrets. -/
theorem ofJson_toJson (s : Settings) : ofJson s.toJson = .ok s.withoutSecrets := by
  have hproviders : List.lookup "providers" [("providers",
      Json.members (s.providers.entries.map fun entry => (entry.1, entry.2.toJson)))] =
        some (.members (s.providers.entries.map fun entry => (entry.1, entry.2.toJson))) :=
    List.lookup_cons_self
  rw [toJson, ofJson]
  simp only [hproviders]
  rw [ofProviders, bindEntries_toJson]
  rfl

/-- Without secrets, settings have the same names. -/
theorem names_withoutSecrets (s : Settings) : s.withoutSecrets.names = s.names :=
  SortedMap.keys_mapEntries _ _

/-- Each provider has lost its own secret. -/
theorem provider?_withoutSecrets (s : Settings) (name : String) :
    s.withoutSecrets.provider? name = (s.provider? name).map Provider.withoutSecret :=
  SortedMap.find?_mapEntries _ _ _

/-- The secrets leave no trace in what is serialized. -/
theorem toJson_withoutSecrets (s : Settings) : s.withoutSecrets.toJson = s.toJson := by
  rw [toJson, toJson, withoutSecrets, SortedMap.mapEntries, List.map_map]
  rfl

/-- Settings lose nothing with their secrets when there are none, not even empty ones. -/
theorem withoutSecrets_eq_self_iff {s : Settings} :
    s.withoutSecrets = s ↔ ∀ name p, s.provider? name = some p → p.clientSecret = none := by
  constructor
  · intro h name p hp
    have hwithout := s.provider?_withoutSecrets name
    rw [h, hp] at hwithout
    exact congrArg Provider.clientSecret (Option.some.inj hwithout)
  · intro h
    have hproviders : s.withoutSecrets.providers = s.providers := by
      refine SortedMap.ext_find? fun name => (s.provider?_withoutSecrets name).trans ?_
      cases hp : s.provider? name with
      | none => exact hp.symm
      | some p =>
        have hsecret : p.withoutSecret = p := by rw [Provider.withoutSecret, ← h name p hp]
        rw [Option.map_some, hsecret]
        exact hp.symm
    exact congrArg Settings.mk hproviders

/-- Binding what has been serialized gives it back without secrets, and what is bound serializes to
the same value. So settings are back as they were exactly when they have no secrets. -/
theorem bind_serialized_loses_secrets :
    (∀ p : Provider, ∃ q, Provider.ofJson p.toJson = .ok q ∧ q = { p with clientSecret := none } ∧
      q.toJson = p.toJson) ∧
      (∀ s : Settings, ∃ t, ofJson s.toJson = .ok t ∧ t.names = s.names ∧
        (∀ name, t.provider? name =
          (s.provider? name).map fun p => { p with clientSecret := none }) ∧
        t.toJson = s.toJson) ∧
      ∀ s : Settings, ofJson s.toJson = .ok s ↔
        ∀ name p, s.provider? name = some p → p.clientSecret = none := by
  refine ⟨fun p => ?_, fun s => ?_, fun s => ?_⟩
  · exact ⟨p.withoutSecret, p.ofJson_toJson, rfl, p.toJson_withoutSecret⟩
  · exact ⟨s.withoutSecrets, s.ofJson_toJson, s.names_withoutSecrets,
      s.provider?_withoutSecrets, s.toJson_withoutSecrets⟩
  · rw [ofJson_toJson, Except.ok.injEq, withoutSecrets_eq_self_iff]

end Settings

end GrantConfig
