import GrantConfig.Proofs.Serialization

/-!
# Providers as lists of values

A provider may be given as the list of its values, in the order in which its fields are declared.
Such a list binds exactly when the object does that holds the same values under the keys of the
fields, and to the same provider, although the members of an object are visited in the order of
their keys. Fields beyond the end of the list keep their defaults, and a list with more values than
there are fields never binds. The list of all values of a provider, its secret among them, binds to
that provider.
-/

namespace GrantConfig.Provider

/-- Values under the keys of fields, one after the other. -/
def keyed (fields : List Field) (items : List Json) : List (String × Json) :=
  (fields.map Field.key).zip items

/-- The values of a provider in the order of its fields. -/
def values (p : Provider) : List Json :=
  [ .ofText? p.clientId, .ofText? p.clientSecret, .ofText? p.redirectUri, .ofText? p.tokenPath,
    .ofText? p.codePath, .ofText? p.userInfoPath, .array (p.scopes.map .string),
    .array (p.extraParams.entries.map paramJson) ]

/-! ## Values under keys -/

/-- Every entry has the key of a field. -/
theorem exists_of_mem_keyed {fields : List Field} {items : List Json} {entry : String × Json}
    (h : entry ∈ keyed fields items) : ∃ field ∈ fields, entry.1 = field.key := by
  obtain ⟨field, hfield, hkey⟩ := List.mem_map.mp (List.of_mem_zip h).1
  exact ⟨field, hfield, hkey.symm⟩

/-- A field has no value beyond the end of the list. -/
theorem lookup_keyed_of_mem_drop {fields : List Field} (hnodup : fields.Nodup)
    {items : List Json} {field : Field} (h : field ∈ fields.drop items.length) :
    List.lookup field.key (keyed fields items) = none := by
  induction fields generalizing items with
  | nil => simp at h
  | cons first rest ih =>
    cases items with
    | nil => rfl
    | cons v items =>
      obtain ⟨hfirst, hrest⟩ := List.nodup_cons.mp hnodup
      have hne : field.key ≠ first.key := by
        intro heq
        rw [Field.key_injective heq] at h
        exact hfirst (List.mem_of_mem_drop h)
      change List.lookup field.key ((first.key, v) :: keyed rest items) = none
      rw [lookup_cons_of_ne v _ hne]
      exact ih hrest h

/-- Different fields put their values under different keys. -/
theorem distinctKeys_keyed {fields : List Field} (hnodup : fields.Nodup) (items : List Json) :
    DistinctKeys (keyed fields items) := by
  induction fields generalizing items with
  | nil => exact .nil
  | cons first rest ih =>
    cases items with
    | nil => exact .nil
    | cons v items =>
      obtain ⟨hfirst, hrest⟩ := List.nodup_cons.mp hnodup
      refine List.Pairwise.cons ?_ (ih hrest items)
      intro entry hentry heq
      obtain ⟨field, hfield, hkey⟩ := exists_of_mem_keyed hentry
      have hsame : first = field := Field.key_injective (Eq.trans heq hkey)
      exact hfirst (hsame ▸ hfield)

/-! ## Binding by position and by key -/

/-- Binding values in order is binding the members that have the keys of the fields. -/
theorem bindItems_eq_bindMembers {fields seen : List Field} (hnodup : fields.Nodup)
    (hseen : ∀ field ∈ fields, field ∉ seen) (p : Provider) (items : List Json) :
    bindItems p fields items = bindMembers seen p (keyed fields items) := by
  -- A field that has been bound is seen from then on, and no later one is the same.
  induction fields generalizing seen p items with
  | nil => rfl
  | cons first rest ih =>
    cases items with
    | nil => rfl
    | cons v items =>
      obtain ⟨hfirst, hrest⟩ := List.nodup_cons.mp hnodup
      have hlater : ∀ field ∈ rest, field ∉ first :: seen := by
        intro field hfield hmem
        rcases List.mem_cons.mp hmem with rfl | hmem
        · exact hfirst hfield
        · exact hseen field (List.mem_cons_of_mem _ hfield) hmem
      change _ = bindMembers seen p ((first.key, v) :: keyed rest items)
      rw [bindItems, bindMembers, ofKey?_eq_some_iff.mpr (.inl rfl)]
      simp only [if_neg (hseen first List.mem_cons_self), ih hrest hlater]

/-- An object that is made of values under keys of fields binds when they do in the given order. -/
theorem ofJson_object_keyed_eq_ok {fields : List Field} (hnodup : fields.Nodup)
    {items : List Json} {p : Provider} :
    ofJson (.object (keyed fields items)) = .ok p ↔
      ∀ field : Field, field.Takes field.bind {} p (List.lookup field.key (keyed fields items)) := by
  have hdistinct := distinctKeys_keyed hnodup items
  have hascending : Ascending (insertEach [] (keyed fields items)) :=
    ascending_insertEach List.Pairwise.nil _
  have hvalue (key : String) :
      List.lookup key (insertEach [] (keyed fields items)) = List.lookup key (keyed fields items) := by
    rw [lookup_insertEach hdistinct]
    exact Option.or_none
  have hkeys : ∀ entry ∈ insertEach [] (keyed fields items), ∃ field : Field,
      entry.1 = field.key := by
    intro entry hentry
    obtain ⟨field, _, hkey⟩ := exists_of_mem_keyed (mem_of_mem_insertEach_nil hentry)
    exact ⟨field, hkey⟩
  change bindMembers [] {} (insertEach [] (keyed fields items)) = .ok p ↔ _
  rw [bindMembers_eq_ok hascending.distinctKeys hkeys (List.forall_mem_nil _)]
  simp only [hvalue]

/-! ## Lists that bind -/

/-- No field is listed twice. -/
theorem nodup_all : Field.all.Nodup := by decide

/-- A list that is not too long gives each field the value at its place. -/
theorem ofJson_array_eq_ok {items : List Json} (hlength : items.length ≤ Field.all.length)
    {p : Provider} :
    ofJson (.array items) = .ok p ↔
      ∀ field : Field, field.Takes field.bind {} p (List.lookup field.key (keyed Field.all items)) := by
  have hkeys : ∀ entry ∈ keyed Field.all items, ∃ field : Field, entry.1 = field.key := by
    intro entry hentry
    obtain ⟨field, _, hkey⟩ := exists_of_mem_keyed hentry
    exact ⟨field, hkey⟩
  rw [← bindMembers_eq_ok (distinctKeys_keyed nodup_all items) hkeys (List.forall_mem_nil _),
    ← bindItems_eq_bindMembers nodup_all fun _ _ => List.not_mem_nil]
  rw [ofJson, bind_eq_ok]
  simp only [if_neg (Nat.not_lt.mpr hlength)]
  constructor
  · intro h
    obtain ⟨q, hq, hsame⟩ := h
    cases hsame
    exact hq
  · exact fun h => ⟨p, h, rfl⟩

/-- A list with more values than there are fields does not bind. -/
theorem ofJson_array_eq_error {items : List Json} (hlength : Field.all.length < items.length) :
    ∃ fault, ofJson (.array items) = .error fault := by
  rw [ofJson]
  cases hbind : bindItems {} Field.all items with
  | error fault => exact ⟨fault, rfl⟩
  | ok p =>
    refine ⟨.tooLong items.length, ?_⟩
    simp only [if_pos hlength]
    rfl

/-- A provider has a value for every field. -/
theorem length_values (p : Provider) : p.values.length = Field.all.length := rfl

/-- The value of a provider for a field stands at the place of that field. -/
theorem takes_values (p : Provider) (field : Field) :
    field.Takes field.bind {} p (List.lookup field.key (keyed Field.all p.values)) := by
  cases field with
  | clientId | clientSecret | redirectUri | tokenPath | codePath | userInfoPath =>
    exact bindText_eq_ok_iff.mpr (configuresText_ofText? _)
  | scopes => exact Field.bind_eq_ok_iff.mpr (.list p.scopes)
  | extraParams => exact Field.bind_eq_ok_iff.mpr (configuresParams_entries p.extraParams)

/-- A list binds exactly when its values do under the keys of the first fields, to the same provider,
and leaves the other fields at their defaults. A list that is too long does not bind, and the list of
all values of a provider gives that provider. -/
theorem list_binds_like_object :
    (∀ items : List Json, items.length ≤ 8 →
      (∀ p, ofJson (.array items) = .ok p ↔ ofJson (.object (keyed Field.all items)) = .ok p) ∧
        ∀ p, ofJson (.array items) = .ok p →
          ∀ field ∈ Field.all.drop items.length, p.get field = ({} : Provider).get field) ∧
      (∀ items : List Json, 8 < items.length → ∃ fault, ofJson (.array items) = .error fault) ∧
      ∀ p : Provider, ofJson (.array p.values) = .ok p := by
  refine ⟨?_, fun items hlength => ofJson_array_eq_error hlength, ?_⟩
  · intro items hlength
    constructor
    · intro p
      rw [ofJson_array_eq_ok hlength, ofJson_object_keyed_eq_ok nodup_all]
    · intro p hp field hfield
      have htakes := (ofJson_array_eq_ok hlength).mp hp field
      rw [lookup_keyed_of_mem_drop nodup_all hfield] at htakes
      exact htakes
  · intro p
    exact (ofJson_array_eq_ok p.length_values.le).mpr p.takes_values

/-- Values for all fields but the parameters, some of them null. -/
def sevenValues : List Json :=
  [ .string "a", .string "s", .null, .string "", .null, .string "https://p.example/me",
    .string "openid, email" ]

/-- One value more than there are fields. -/
def nineValues : List Json := sevenValues ++ [.null, .null]

/-- What the seven values configure. -/
def sevenProvider : Provider where
  clientId := some "a"
  clientSecret := some "s"
  tokenPath := some ""
  userInfoPath := some "https://p.example/me"
  scopes := ["openid", "email"]

/-- Seven values bind as members too, and leave the parameters empty; nine values never bind. -/
theorem list_binds_like_object_oneMissing :
    sevenValues.length ≤ 8 ∧ ofJson (.array sevenValues) = .ok sevenProvider ∧
      ofJson (.object (keyed Field.all sevenValues)) = .ok sevenProvider ∧
      sevenProvider.get .extraParams = ({} : Provider).get .extraParams ∧
      8 < nineValues.length ∧
      ∃ fault, ofJson (.array nineValues) = .error fault := by
  obtain ⟨hshort, hlong, _⟩ := list_binds_like_object
  obtain ⟨hsame, hdefault⟩ := hshort sevenValues (by decide)
  have hbinds : ofJson (.array sevenValues) = .ok sevenProvider :=
    eq_ok_of_toOption (by decide +kernel)
  refine ⟨by decide, hbinds, (hsame sevenProvider).mp hbinds, ?_, by decide, ?_⟩
  · exact hdefault sevenProvider hbinds .extraParams List.mem_cons_self
  · exact hlong nineValues (by decide)

end GrantConfig.Provider
