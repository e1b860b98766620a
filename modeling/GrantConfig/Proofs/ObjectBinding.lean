import GrantConfig.Proofs.FieldValues
import GrantConfig.Proofs.Utf8Bytes

/-!
# Objects that bind

An object binds to a provider exactly when it gives no field under both spellings and every value of
a field configures it. The provider holds what the values configure, whichever spelling they stand
under, and members that name no field play no part. Any other object fails with the fault of its
first offending key, in the byte order of the keys.
-/

namespace GrantConfig

open Text

namespace Provider

/-- An object gives a field a value under one of its spellings. -/
def Field.Given (field : Field) (m : SortedMap Json) (v : Json) : Prop :=
  m.find? field.key = some v ∨ m.find? field.snakeKey = some v

/-- An object holds a field under both of its spellings. -/
def Field.Repeated (field : Field) (m : SortedMap Json) : Prop :=
  field.key ≠ field.snakeKey ∧ m.find? field.key ≠ none ∧ m.find? field.snakeKey ≠ none

/-- A key of an object cannot be bound, and this is its fault: it is the later one of two spellings
of a field, or else its value alone is at fault. -/
inductive Offends (m : SortedMap Json) : String → BindFault → Prop
  | repeated {field : Field} : field.Repeated m → Offends m field.snakeKey (.duplicate field)
  | value {key : String} {v : Json} {fault : BindFault} : m.find? key = some v →
      (∀ field : Field, field.Repeated m → key ≠ field.snakeKey) →
      ofJson (.members [(key, v)]) = .error fault → Offends m key fault

/-- No key that offends comes before this one in byte order. -/
structure FirstOffence (m : SortedMap Json) (key : String) (fault : BindFault) : Prop where
  offends : Offends m key fault
  first : ∀ other fault', Offends m other fault' → other ≠ key →
    Utf8.encode key.toList < Utf8.encode other.toList

/-- A key with its words joined by underscores if it is that of a chosen field, by hyphens if it is
that of another field, and as it is if it names no field. -/
def respelledKey (chosen : Field → Bool) (key : String) : String :=
  match Field.ofKey? key with
  | some field => if chosen field then field.snakeKey else field.key
  | none => key

/-- An object with its fields spelled anew. -/
def respelled (chosen : Field → Bool) (m : SortedMap Json) : SortedMap Json :=
  SortedMap.ofList (m.entries.map fun entry => (respelledKey chosen entry.1, entry.2))

/-- What binding an object comes to. -/
structure Binding (m : SortedMap Json) (outcome : Except BindFault Provider) : Prop where
  /-- An object binds when no field stands there twice and every value configures its field. -/
  accepted : (∃ p, outcome = .ok p) ↔
    (∀ field : Field, ¬field.Repeated m) ∧
      ∀ (field : Field) v, field.Given m v → ∃ c, field.Configures v c
  /-- A field with a value holds what the value configures. -/
  given : ∀ p, outcome = .ok p → ∀ (field : Field) v, field.Given m v →
    field.Configures v (p.get field)
  /-- A field without a value holds what null configures. -/
  absent : ∀ p, outcome = .ok p → ∀ field : Field, (∀ v, ¬field.Given m v) →
    field.Configures .null (p.get field)
  /-- Keys that name no field have no influence. -/
  unnamed : ∀ n : SortedMap Json, (∀ key, Field.ofKey? key ≠ none → n.find? key = m.find? key) →
    ofJson (.members n.entries) = outcome
  /-- Whichever fields are spelled with underscores, the provider is the same. -/
  respelled : ∀ p, outcome = .ok p → ∀ chosen,
    ofJson (.members (respelled chosen m).entries) = .ok p
  /-- An error is the fault of the first key that offends. -/
  failed : ∀ fault, outcome = .error fault ↔ ∃ key, FirstOffence m key fault

/-! ## Keys and the fields they name -/

/-- A value is given for a field exactly when it stands under a key that names it. -/
theorem Field.given_iff {field : Field} {m : SortedMap Json} {v : Json} :
    field.Given m v ↔ ∃ key, Field.ofKey? key = some field ∧ m.find? key = some v := by
  simp only [ofKey?_eq_some_iff, or_and_right, exists_or, exists_eq_left]
  exact Iff.rfl

/-- The spelling with hyphens comes before the one with underscores. -/
theorem Field.key_lt_snakeKey {field : Field} (h : field.key ≠ field.snakeKey) :
    field.key < field.snakeKey := by
  revert h
  cases field <;> decide

/-- The spelling with underscores names the field. -/
theorem ofKey?_snakeKey (field : Field) : Field.ofKey? field.snakeKey = some field :=
  ofKey?_eq_some_iff.mpr (.inr rfl)

variable {m : SortedMap Json}

/-- Two keys of one field are its two spellings, the one with hyphens first. -/
theorem spellings_of_lt {key other : String} {field : Field} (hkey : Field.ofKey? key = some field)
    (hother : Field.ofKey? other = some field) (hlt : key < other) :
    key = field.key ∧ other = field.snakeKey := by
  rcases ofKey?_eq_some_iff.mp hkey with rfl | rfl <;>
    rcases ofKey?_eq_some_iff.mp hother with rfl | rfl
  · exact absurd hlt (String.lt_irrefl _)
  · exact ⟨rfl, rfl⟩
  · have hne : field.key ≠ field.snakeKey := fun heq => String.lt_irrefl _ (heq ▸ hlt)
    exact absurd (Field.key_lt_snakeKey hne) (String.lt_asymm hlt)
  · exact absurd hlt (String.lt_irrefl _)

/-- A field that is found under two keys is repeated. -/
theorem repeated_of_lt {key other : String} {v w : Json} {field : Field}
    (hkey : Field.ofKey? key = some field) (hother : Field.ofKey? other = some field)
    (hlt : key < other) (hv : m.find? key = some v) (hw : m.find? other = some w) :
    field.Repeated m := by
  obtain ⟨rfl, rfl⟩ := spellings_of_lt hkey hother hlt
  refine ⟨fun heq => ?_, by simp [hv], by simp [hw]⟩
  rw [heq] at hlt
  exact String.lt_irrefl _ hlt

/-! ## Binding key by key -/

/-- The fault of a member on its own is that of its value. -/
theorem ofJson_singleton_eq_error_iff {key : String} {v : Json} {field : Field} {fault : BindFault}
    (hkey : Field.ofKey? key = some field) :
    ofJson (.members [(key, v)]) = .error fault ↔ field.bind v = .error fault := by
  simp only [ofJson, bindMembers, hkey, List.not_mem_nil, if_false, bindField_eq]
  cases field.bind v <;> simp [bind, Except.bind, Except.map]

/-- A key that offends names a field. -/
theorem Offends.exists_field {key : String} {fault : BindFault} (h : Offends m key fault) :
    ∃ field v, Field.ofKey? key = some field ∧ m.find? key = some v := by
  cases h with
  | @repeated field hrepeated =>
    obtain ⟨v, hv⟩ := Option.ne_none_iff_exists'.mp hrepeated.2.2
    exact ⟨field, v, ofKey?_snakeKey field, hv⟩
  | value hv _ hfault =>
    cases hkey : Field.ofKey? key with
    | none =>
      simp only [ofJson, bindMembers, hkey] at hfault
      cases hfault
    | some field => exact ⟨field, _, rfl, hv⟩

/-- What is at fault with the key of a field. -/
theorem offends_iff {key : String} {v : Json} {field : Field} {fault : BindFault}
    (hkey : Field.ofKey? key = some field) (hv : m.find? key = some v) :
    Offends m key fault ↔
      (field.Repeated m ∧ key = field.snakeKey) ∧ fault = .duplicate field ∨
        ¬(field.Repeated m ∧ key = field.snakeKey) ∧ field.bind v = .error fault := by
  constructor
  · intro h
    cases h with
    | @repeated other hrepeated =>
      obtain rfl := Option.some.inj ((ofKey?_snakeKey other).symm.trans hkey)
      exact .inl ⟨⟨hrepeated, rfl⟩, rfl⟩
    | value hfound hlone hfault =>
      obtain rfl := Option.some.inj (hfound.symm.trans hv)
      refine .inr ⟨fun hboth => hlone field hboth.1 hboth.2, ?_⟩
      exact (ofJson_singleton_eq_error_iff hkey).mp hfault
  · intro h
    rcases h with ⟨⟨hrepeated, rfl⟩, rfl⟩ | ⟨hlone, hfault⟩
    · exact .repeated hrepeated
    · refine .value hv ?_ ((ofJson_singleton_eq_error_iff hkey).mpr hfault)
      intro other hrepeated hother
      have hnamed := ofKey?_snakeKey other
      rw [← hother, hkey] at hnamed
      obtain rfl := Option.some.inj hnamed
      exact hlone ⟨hrepeated, hother⟩

/-- A key offends in one way only. -/
theorem Offends.unique {key : String} {fault fault' : BindFault} (h : Offends m key fault)
    (h' : Offends m key fault') : fault = fault' := by
  obtain ⟨field, v, hkey, hv⟩ := h.exists_field
  rw [offends_iff hkey hv] at h h'
  rcases h with ⟨hrepeated, rfl⟩ | ⟨hlone, hfault⟩
  · rcases h' with ⟨_, rfl⟩ | ⟨hlone, _⟩
    · rfl
    · exact absurd hrepeated hlone
  · rcases h' with ⟨hrepeated, _⟩ | ⟨_, hfault'⟩
    · exact absurd hrepeated hlone
    · exact Except.error.inj (hfault.symm.trans hfault')

section Members

variable {before rest : List (String × Json)} {key : String} {v : Json} {seen : List Field}

/-- The fields that have been seen are those that the members before name. -/
def SeenIn (seen : List Field) (before : List (String × Json)) : Prop :=
  ∀ field, field ∈ seen ↔ ∃ entry ∈ before, Field.ofKey? entry.1 = some field

/-- A field has been seen before one of its keys exactly when that key repeats it. -/
theorem mem_seen_iff (hsplit : m.entries = before ++ (key, v) :: rest) (hseen : SeenIn seen before)
    {field : Field} (hkey : Field.ofKey? key = some field) :
    field ∈ seen ↔ field.Repeated m ∧ key = field.snakeKey := by
  have hordered := m.ascending
  rw [hsplit, Ascending, List.pairwise_append, List.pairwise_cons] at hordered
  obtain ⟨_, ⟨hlater, _⟩, hearlier⟩ := hordered
  rw [hseen]
  constructor
  · intro h
    obtain ⟨⟨k, w⟩, hmem, hk⟩ := h
    have hlt : k < key := hearlier _ hmem _ List.mem_cons_self
    have hw : m.find? k = some w := SortedMap.find?_eq_some_iff.mpr (by simp [hsplit, hmem])
    have hv : m.find? key = some v := SortedMap.find?_eq_some_iff.mpr (by simp [hsplit])
    exact ⟨repeated_of_lt hk hkey hlt hw hv, (spellings_of_lt hk hkey hlt).2⟩
  · intro h
    obtain ⟨⟨hne, hfound, _⟩, rfl⟩ := h
    obtain ⟨w, hw⟩ := Option.ne_none_iff_exists'.mp hfound
    have hmem := SortedMap.find?_eq_some_iff.mp hw
    refine ⟨(field.key, w), ?_, ofKey?_eq_some_iff.mpr (.inl rfl)⟩
    rw [hsplit] at hmem
    rcases List.mem_append.mp hmem with hmem | hmem
    · exact hmem
    -- The spelling with hyphens cannot stand behind the other one.
    rcases List.mem_cons.mp hmem with heq | hmem
    · exact absurd (congrArg Prod.fst heq) hne
    · exact absurd (hlater _ hmem) (String.lt_asymm (Field.key_lt_snakeKey hne))

/-- One key offends and its fault is the outcome, or it does not and the outcome is that of the
keys behind it. -/
theorem bindMembers_step (hsplit : m.entries = before ++ (key, v) :: rest)
    (hseen : SeenIn seen before) (p : Provider) :
    (∃ fault, Offends m key fault ∧ bindMembers seen p ((key, v) :: rest) = .error fault) ∨
      (∀ fault, ¬Offends m key fault) ∧ ∃ seen' q, SeenIn seen' (before ++ [(key, v)]) ∧
        bindMembers seen p ((key, v) :: rest) = bindMembers seen' q rest := by
  rw [bindMembers]
  cases hkey : Field.ofKey? key with
  | none =>
    refine .inr ⟨fun fault hoffends => ?_, seen, p, fun field => ?_, rfl⟩
    · obtain ⟨field, _, hfield, _⟩ := hoffends.exists_field
      rw [hkey] at hfield
      cases hfield
    · simp [hseen field, or_and_right, exists_or, hkey]
  | some field =>
    have hv : m.find? key = some v := SortedMap.find?_eq_some_iff.mpr (by simp [hsplit])
    simp only [bindField_eq]
    by_cases hmem : field ∈ seen
    · have hrepeated := (mem_seen_iff hsplit hseen hkey).mp hmem
      exact .inl ⟨_, (offends_iff hkey hv).mpr (.inl ⟨hrepeated, rfl⟩), if_pos hmem⟩
    · have hlone := mt (mem_seen_iff hsplit hseen hkey).mpr hmem
      rw [if_neg hmem]
      cases hbind : field.bind v with
      | error fault => exact .inl ⟨fault, (offends_iff hkey hv).mpr (.inr ⟨hlone, hbind⟩), rfl⟩
      | ok c =>
        refine .inr ⟨fun fault hoffends => ?_, field :: seen, p.set field c, fun other => ?_, rfl⟩
        · rcases (offends_iff hkey hv).mp hoffends with ⟨hrepeated, _⟩ | ⟨_, hfault⟩
          · exact hlone hrepeated
          · rw [hbind] at hfault
            cases hfault
        · simp [hseen other, or_and_right, exists_or, hkey, or_comm, eq_comm]

/-- The first key that offends decides the outcome, or no key offends and the members bind. -/
theorem bindMembers_run (hsplit : m.entries = before ++ rest) (hseen : SeenIn seen before)
    (p : Provider) :
    (∃ key fault, Offends m key fault ∧ bindMembers seen p rest = .error fault ∧
      ∀ entry ∈ rest, ∀ fault', Offends m entry.1 fault' → entry.1 = key ∨ key < entry.1) ∨
      (∀ entry ∈ rest, ∀ fault, ¬Offends m entry.1 fault) ∧
        ∃ q, bindMembers seen p rest = .ok q := by
  -- Members move from `rest` to `before`; what has been seen is what `before` names.
  induction rest generalizing before seen p with
  | nil => exact .inr ⟨List.forall_mem_nil _, p, rfl⟩
  | cons first rest ih =>
    obtain ⟨key, v⟩ := first
    rcases bindMembers_step hsplit hseen p with
      ⟨fault, hoffends, herror⟩ | ⟨hnone, _, q, hseen', hstep⟩
    · refine .inl ⟨key, fault, hoffends, herror, List.forall_mem_cons.mpr ⟨?_, ?_⟩⟩
      · exact fun _ _ => .inl rfl
      · intro entry hentry _ _
        have hordered := m.ascending
        rw [hsplit, Ascending, List.pairwise_append, List.pairwise_cons] at hordered
        exact .inr (hordered.2.1.1 entry hentry)
    · rw [hstep]
      rw [List.append_cons] at hsplit
      rcases ih hsplit hseen' q with ⟨key', fault, hoffends, herror, hfirst⟩ | ⟨hlater, hbinds⟩
      · refine .inl ⟨key', fault, hoffends, herror, List.forall_mem_cons.mpr ⟨?_, hfirst⟩⟩
        exact fun fault' hoffends' => absurd hoffends' (hnone fault')
      · exact .inr ⟨List.forall_mem_cons.mpr ⟨hnone, hlater⟩, hbinds⟩

end Members

/-! ## When an object binds -/

/-- The first key that offends decides the outcome, or no key offends and the object binds. -/
theorem ofJson_object_cases (m : SortedMap Json) :
    (∃ key fault, FirstOffence m key fault ∧ ofJson (.members m.entries) = .error fault) ∨
      (∀ key fault, ¬Offends m key fault) ∧ ∃ p, ofJson (.members m.entries) = .ok p := by
  have hseen : SeenIn [] [] := fun field => by simp
  have hmem {key : String} {fault : BindFault} (h : Offends m key fault) :
      ∃ v, (key, v) ∈ m.entries := by
    obtain ⟨_, v, _, hv⟩ := h.exists_field
    exact ⟨v, SortedMap.find?_eq_some_iff.mp hv⟩
  rcases bindMembers_run rfl hseen {} with
    ⟨key, fault, hoffends, herror, hfirst⟩ | ⟨hnone, hbinds⟩
  · refine .inl ⟨key, fault, ⟨hoffends, fun other fault' hother hne => ?_⟩, herror⟩
    obtain ⟨v, hv⟩ := hmem hother
    exact Utf8.encode_toList_lt ((hfirst _ hv fault' hother).resolve_left hne)
  · refine .inr ⟨fun key fault hoffends => ?_, hbinds⟩
    obtain ⟨v, hv⟩ := hmem hoffends
    exact hnone _ hv fault hoffends

/-- Only one key is the first to offend, with one fault. -/
theorem FirstOffence.unique {key key' : String} {fault fault' : BindFault}
    (h : FirstOffence m key fault) (h' : FirstOffence m key' fault') : fault = fault' := by
  by_cases hne : key' = key
  · subst hne
    exact h.offends.unique h'.offends
  · exact absurd (h'.first key fault h.offends (Ne.symm hne))
      (List.lt_asymm (h.first key' fault' h'.offends hne))

/-- No key offends exactly when no field is repeated and every value configures its field. -/
theorem forall_not_offends_iff :
    (∀ key fault, ¬Offends m key fault) ↔
      (∀ field : Field, ¬field.Repeated m) ∧
        ∀ (field : Field) v, field.Given m v → ∃ c, field.Configures v c := by
  constructor
  · intro hnone
    refine ⟨fun field hrepeated => hnone _ _ (.repeated hrepeated), fun field v hgiven => ?_⟩
    obtain ⟨key, hkey, hv⟩ := Field.given_iff.mp hgiven
    cases hbind : field.bind v with
    | ok c => exact ⟨c, Field.bind_eq_ok_iff.mp hbind⟩
    | error fault =>
      have hlone : ¬(field.Repeated m ∧ key = field.snakeKey) :=
        fun hboth => hnone _ _ (.repeated hboth.1)
      exact absurd ((offends_iff hkey hv).mpr (.inr ⟨hlone, hbind⟩)) (hnone key fault)
  · intro hgiven key fault hoffends
    obtain ⟨hlone, hconfigures⟩ := hgiven
    obtain ⟨field, v, hkey, hv⟩ := hoffends.exists_field
    obtain ⟨c, hc⟩ := hconfigures field v (Field.given_iff.mpr ⟨key, hkey, hv⟩)
    rcases (offends_iff hkey hv).mp hoffends with ⟨hrepeated, _⟩ | ⟨_, hfault⟩
    · exact hlone field hrepeated.1
    · rw [Field.bind_eq_ok_iff.mpr hc] at hfault
      cases hfault

/-- An object binds exactly when no field is repeated and each value that is given fits. -/
theorem exists_ofJson_object_iff :
    (∃ p, ofJson (.members m.entries) = .ok p) ↔
      (∀ field : Field, ¬field.Repeated m) ∧
        ∀ (field : Field) v, field.Given m v → ∃ c, field.Configures v c := by
  rw [← forall_not_offends_iff]
  rcases ofJson_object_cases m with ⟨key, fault, hfirst, herror⟩ | ⟨hnone, hbinds⟩
  · simp only [herror, reduceCtorEq, exists_false, false_iff]
    exact fun hnone => hnone key fault hfirst.offends
  · exact iff_of_true hbinds hnone

/-- An object is refused for its first offence. -/
theorem ofJson_object_eq_error_iff {fault : BindFault} :
    ofJson (.members m.entries) = .error fault ↔ ∃ key, FirstOffence m key fault := by
  rcases ofJson_object_cases m with ⟨key, first, hfirst, herror⟩ | ⟨hnone, p, hbinds⟩
  · rw [herror]
    constructor
    · intro h
      cases h
      exact ⟨key, hfirst⟩
    · intro h
      obtain ⟨key', hfirst'⟩ := h
      exact congrArg _ (hfirst.unique hfirst')
  · simp only [hbinds, reduceCtorEq, false_iff, not_exists]
    exact fun key hfirst => hnone key fault hfirst.offends

/-! ## What an object binds to -/

/-- A field that is given has what its value configures. -/
theorem configures_get_of_given {p : Provider} (h : ofJson (.members m.entries) = .ok p)
    {field : Field} {v : Json} (hgiven : field.Given m v) : field.Configures v (p.get field) := by
  obtain ⟨key, hkey, hv⟩ := Field.given_iff.mp hgiven
  have htakes := (takes_of_bindMembers h field).1
  rw [valueIn?_of_bindMembers h (SortedMap.find?_eq_some_iff.mp hv) hkey] at htakes
  exact Field.bind_eq_ok_iff.mp htakes

/-- Nothing configures what a field has at first. -/
theorem configures_null_default (field : Field) :
    field.Configures .null (({} : Provider).get field) := by
  cases field <;> exact .unset

/-- A field that is not given has what nothing configures. -/
theorem configures_get_of_absent {p : Provider} (h : ofJson (.members m.entries) = .ok p)
    {field : Field} (habsent : ∀ v, ¬field.Given m v) :
    field.Configures .null (p.get field) := by
  have htakes := (takes_of_bindMembers h field).1
  have hnone : field.valueIn? m.entries = none := by
    rw [Field.valueIn?, Option.or_eq_none_iff]
    constructor
    · exact Option.eq_none_iff_forall_ne_some.mpr fun v hv => habsent v (.inl hv)
    · exact Option.eq_none_iff_forall_ne_some.mpr fun v hv => habsent v (.inr hv)
  rw [hnone, Field.Takes] at htakes
  rw [htakes]
  exact configures_null_default field

/-- A value configures one thing at most. -/
theorem Field.Configures.unique {field : Field} {v : Json} {c d : field.Content}
    (hc : field.Configures v c) (hd : field.Configures v d) : c = d :=
  Except.ok.inj ((Field.bind_eq_ok_iff.mpr hc).symm.trans (Field.bind_eq_ok_iff.mpr hd))

/-- Objects that give every field the same value bind to the same provider. -/
theorem eq_of_given_iff {n : SortedMap Json} {p q : Provider}
    (hp : ofJson (.members m.entries) = .ok p) (hq : ofJson (.members n.entries) = .ok q)
    (hgiven : ∀ (field : Field) v, field.Given n v ↔ field.Given m v) : p = q := by
  apply ext_get
  intro field
  by_cases hfound : ∃ v, field.Given m v
  · obtain ⟨v, hv⟩ := hfound
    exact (configures_get_of_given hp hv).unique
      (configures_get_of_given hq ((hgiven field v).mpr hv))
  · have habsent := not_exists.mp hfound
    refine (configures_get_of_absent hp habsent).unique (configures_get_of_absent hq ?_)
    exact fun v hv => habsent v ((hgiven field v).mp hv)

/-- Members that name no field are passed over. -/
theorem bindMembers_filter (seen : List Field) (p : Provider) (entries : List (String × Json)) :
    bindMembers seen p (entries.filter fun entry => (Field.ofKey? entry.1).isSome) =
      bindMembers seen p entries := by
  induction entries generalizing seen p with
  | nil => rfl
  | cons first rest ih =>
    cases hkey : Field.ofKey? first.1 with
    | none => simp only [List.filter_cons, hkey, Option.isSome_none, Bool.false_eq_true, if_false,
        ih, bindMembers]
    | some field => simp only [List.filter_cons, hkey, Option.isSome_some, if_true, bindMembers, ih]

/-- Objects that agree on the keys of fields bind alike. -/
theorem ofJson_object_congr {n : SortedMap Json}
    (h : ∀ key, Field.ofKey? key ≠ none → n.find? key = m.find? key) :
    ofJson (.members n.entries) = ofJson (.members m.entries) := by
  have hkept := SortedMap.filter_entries_eq (p := fun key => (Field.ofKey? key).isSome)
    fun key hkey => h key (Option.isSome_iff_ne_none.mp hkey)
  rw [ofJson, ofJson, ← bindMembers_filter, hkept, bindMembers_filter]

/-! ## Other spellings -/

/-- A key of a field is respelled as that field is. -/
theorem respelledKey_of_ofKey? (chosen : Field → Bool) {key : String} {field : Field}
    (h : Field.ofKey? key = some field) :
    respelledKey chosen key = if chosen field then field.snakeKey else field.key := by
  rw [respelledKey, h]

/-- A key names the same field in any spelling. -/
theorem ofKey?_respelledKey (chosen : Field → Bool) (key : String) :
    Field.ofKey? (respelledKey chosen key) = Field.ofKey? key := by
  cases hkey : Field.ofKey? key with
  | none =>
    simp only [respelledKey, hkey]
  | some field =>
    rw [respelledKey_of_ofKey? chosen hkey, ofKey?_eq_some_iff]
    split
    · exact .inr rfl
    · exact .inl rfl

section Respelled

variable (hlone : ∀ field : Field, ¬field.Repeated m)

include hlone

/-- Without repeated fields no two keys are respelled alike. -/
theorem distinctKeys_respelled (chosen : Field → Bool) :
    DistinctKeys (m.entries.map fun entry => (respelledKey chosen entry.1, entry.2)) := by
  refine List.pairwise_map.mpr (m.ascending.imp_of_mem fun {a b} ha hb hlt hsame => ?_)
  have heq : respelledKey chosen a.1 = respelledKey chosen b.1 := hsame
  have hnamed : Field.ofKey? a.1 = Field.ofKey? b.1 := by
    rw [← ofKey?_respelledKey chosen a.1, heq, ofKey?_respelledKey]
  cases hkey : Field.ofKey? a.1 with
  | none =>
    rw [hkey] at hnamed
    simp only [respelledKey, hkey, ← hnamed] at heq
    exact String.lt_irrefl _ (heq ▸ hlt)
  | some field =>
    exact hlone field (repeated_of_lt hkey (hnamed ▸ hkey) hlt
      (SortedMap.find?_eq_some_iff.mpr ha) (SortedMap.find?_eq_some_iff.mpr hb))

/-- A key of the respelled object has the values of the keys that become it. -/
theorem find?_respelled_eq_some_iff {chosen : Field → Bool} {key : String} {v : Json} :
    (respelled chosen m).find? key = some v ↔
      ∃ old, respelledKey chosen old = key ∧ m.find? old = some v := by
  have hdistinct := distinctKeys_respelled hlone chosen
  rw [SortedMap.find?, respelled, SortedMap.entries_ofList, lookup_insertEach hdistinct]
  simp only [List.lookup_nil, Option.or_none]
  constructor
  · intro h
    obtain ⟨entry, hentry, heq⟩ := List.mem_map.mp (mem_of_lookup h)
    cases heq
    exact ⟨entry.1, rfl, SortedMap.find?_eq_some_iff.mpr hentry⟩
  · intro h
    obtain ⟨old, rfl, hv⟩ := h
    exact lookup_of_mem hdistinct (List.mem_map.mpr ⟨_, SortedMap.find?_eq_some_iff.mp hv, rfl⟩)

/-- Respelling moves no value from one field to another. -/
theorem given_respelled_iff {chosen : Field → Bool} {field : Field} {v : Json} :
    field.Given (respelled chosen m) v ↔ field.Given m v := by
  simp only [Field.given_iff, find?_respelled_eq_some_iff hlone]
  constructor
  · intro h
    obtain ⟨_, hkey, old, rfl, hv⟩ := h
    exact ⟨old, (ofKey?_respelledKey chosen old).symm.trans hkey, hv⟩
  · intro h
    obtain ⟨old, hkey, hv⟩ := h
    exact ⟨_, (ofKey?_respelledKey chosen old).trans hkey, old, rfl, hv⟩

/-- In one spelling for each field, no field is repeated. -/
theorem not_repeated_respelled (chosen : Field → Bool) (field : Field) :
    ¬field.Repeated (respelled chosen m) := by
  intro hrepeated
  obtain ⟨hne, hkey, hsnake⟩ := hrepeated
  have hspelled {key : String} (hnamed : Field.ofKey? key = some field)
      (hfound : (respelled chosen m).find? key ≠ none) :
      key = if chosen field then field.snakeKey else field.key := by
    obtain ⟨v, hv⟩ := Option.ne_none_iff_exists'.mp hfound
    obtain ⟨old, rfl, _⟩ := (find?_respelled_eq_some_iff hlone).mp hv
    exact respelledKey_of_ofKey? chosen ((ofKey?_respelledKey chosen old).symm.trans hnamed)
  have hfirst := hspelled (ofKey?_eq_some_iff.mpr (.inl rfl)) hkey
  exact hne (hfirst.trans (hspelled (ofKey?_snakeKey field) hsnake).symm)

end Respelled

/-- An object that binds does so to the same provider however its fields are spelled. -/
theorem ofJson_respelled {p : Provider} (h : ofJson (.members m.entries) = .ok p)
    (chosen : Field → Bool) : ofJson (.members (respelled chosen m).entries) = .ok p := by
  obtain ⟨hlone, hconfigures⟩ := exists_ofJson_object_iff.mp ⟨p, h⟩
  have hgiven (field : Field) (v : Json) :
      field.Given (respelled chosen m) v ↔ field.Given m v := given_respelled_iff hlone
  have hbinds : ∃ q, ofJson (.members (respelled chosen m).entries) = .ok q := by
    refine exists_ofJson_object_iff.mpr ⟨not_repeated_respelled hlone chosen, ?_⟩
    intro field v hv
    exact hconfigures field v ((hgiven field v).mp hv)
  obtain ⟨q, hq⟩ := hbinds
  rw [hq, eq_of_given_iff h hq hgiven]

/-- Every JSON object binds exactly as its fields are documented. -/
theorem object_binds_exactly (m : SortedMap Json) : Binding m (ofJson (.members m.entries)) where
  accepted := exists_ofJson_object_iff
  given _ hp _ _ hgiven := configures_get_of_given hp hgiven
  absent _ hp _ habsent := configures_get_of_absent hp habsent
  unnamed _ hagree := ofJson_object_congr hagree
  respelled _ hp chosen := ofJson_respelled hp chosen
  failed _ := ofJson_object_eq_error_iff

/-- A hyphen comes before an underscore, so the secret is at fault before the client id repeats. -/
example : ofJson (.members [("client-id", .string "a"), ("client-secret", .bool true),
    ("client_id", .string "b")]) = .error (mismatch (.bool true) .text) := by
  rfl

end Provider

end GrantConfig
