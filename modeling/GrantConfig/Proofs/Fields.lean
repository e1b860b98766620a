import GrantConfig.Proofs.Entries
import GrantConfig.Proofs.Outcome
import GrantConfig.Settings.Loader

/-!
# Fields of a provider one by one

A provider is its eight fields, and binding entries to it works field by field, whether the entries
come from layered sources or from JSON: a field with an entry holds what the value of that entry
binds to, and a field without one keeps what it had.
-/

namespace GrantConfig

open Layer

namespace Provider

/-- What a field holds. -/
def Field.Content : Field → Type
  | .scopes => List String
  | .extraParams => SortedMap String
  | _ => Option String

/-- What a field of a provider holds. -/
def get (p : Provider) : (field : Field) → field.Content
  | .clientId => p.clientId
  | .clientSecret => p.clientSecret
  | .redirectUri => p.redirectUri
  | .tokenPath => p.tokenPath
  | .codePath => p.codePath
  | .userInfoPath => p.userInfoPath
  | .scopes => p.scopes
  | .extraParams => p.extraParams

/-- The provider with another content of a field. -/
def set (p : Provider) : (field : Field) → field.Content → Provider
  | .clientId, c => { p with clientId := c }
  | .clientSecret, c => { p with clientSecret := c }
  | .redirectUri, c => { p with redirectUri := c }
  | .tokenPath, c => { p with tokenPath := c }
  | .codePath, c => { p with codePath := c }
  | .userInfoPath, c => { p with userInfoPath := c }
  | .scopes, c => { p with scopes := c }
  | .extraParams, c => { p with extraParams := c }

/-- A field that is set has what it is set to. -/
@[simp]
theorem get_set_self (p : Provider) (field : Field) (c : field.Content) :
    (p.set field c).get field = c := by
  cases field <;> rfl

/-- The other fields keep what they have. -/
theorem get_set_of_ne (p : Provider) {field other : Field} (c : field.Content)
    (h : other ≠ field) : (p.set field c).get other = p.get other := by
  cases field <;> cases other <;> first | rfl | exact absurd rfl h

/-- The other fields keep their texts. -/
theorem text?_set_of_ne (p : Provider) {field other : Field} (c : field.Content)
    (h : other ≠ field) : (p.set field c).text? other = p.text? other := by
  cases field <;> cases other <;> first | rfl | exact absurd rfl h

/-- Providers with the same content of every field are the same. -/
theorem ext_get {p q : Provider} (h : ∀ field, p.get field = q.get field) : p = q := by
  obtain ⟨_, _, _, _, _, _, _, _⟩ := p
  obtain ⟨_, _, _, _, _, _, _, _⟩ := q
  congr
  · exact h .clientId
  · exact h .clientSecret
  · exact h .redirectUri
  · exact h .tokenPath
  · exact h .codePath
  · exact h .userInfoPath
  · exact h .scopes
  · exact h .extraParams

/-- The content that a value of a source gives a field. -/
def Field.load : (field : Field) → Value → Except Fault field.Content
  | .clientId, v => loadText Field.clientId.key v
  | .clientSecret, v => loadText Field.clientSecret.key v
  | .redirectUri, v => loadText Field.redirectUri.key v
  | .tokenPath, v => loadText Field.tokenPath.key v
  | .codePath, v => loadText Field.codePath.key v
  | .userInfoPath, v => loadText Field.userInfoPath.key v
  | .scopes, v => v.shape.scopes.mapError .shape
  | .extraParams, v => v.shape.params.mapError .shape

/-- The content that a JSON value gives a field. -/
def Field.bind : (field : Field) → Json → Except BindFault field.Content
  | .clientId, v => bindText v
  | .clientSecret, v => bindText v
  | .redirectUri, v => bindText v
  | .tokenPath, v => bindText v
  | .codePath, v => bindText v
  | .userInfoPath, v => bindText v
  | .scopes, v => v.shape.scopes.mapError .shape
  | .extraParams, v => v.shape.params.mapError .shape

/-- To load a field is to set it to what its value loads to. -/
theorem loadField_eq (p : Provider) (v : Value) (field : Field) :
    p.loadField v field = (field.load v).map (p.set field) := by
  cases field <;> rfl

/-- To bind a field is to set it to what its value binds to. -/
theorem bindField_eq (p : Provider) (v : Json) (field : Field) :
    p.bindField v field = (field.bind v).map (p.set field) := by
  cases field <;> rfl

/-- No two fields have one key. -/
theorem Field.key_injective {field other : Field} (h : field.key = other.key) : field = other := by
  revert h
  cases field <;> cases other <;> decide

/-- The keys of fields are in lowercase. -/
theorem Field.lowercase_key (field : Field) : Unicode.lowercase field.key = field.key := by
  cases field <;> decide

/-- A key names a field when it is one of its two spellings. -/
theorem ofKey?_eq_some_iff {key : String} {field : Field} :
    Field.ofKey? key = some field ↔ key = field.key ∨ key = field.snakeKey := by
  constructor
  · intro h
    have hspelled := List.find?_some h
    exact of_decide_eq_true hspelled
  · intro heither
    rcases heither with rfl | rfl
    · cases field <;> decide
    · cases field <;> decide

/-- A field after its value has been read: it holds what the value gives, and what it held before
where there is no value. -/
def Field.Takes {ε α : Type} (field : Field) (read : α → Except ε field.Content)
    (before after : Provider) : Option α → Prop
  | some v => read v = .ok (after.get field)
  | none => after.get field = before.get field

/-- A field that is set leaves the others what they were. -/
theorem takes_set_iff {ε α : Type} {p q : Provider} {field other : Field} {c : field.Content}
    {read : α → Except ε other.Content} (h : other ≠ field) (value : Option α) :
    other.Takes read (p.set field c) q value ↔ other.Takes read p q value := by
  cases value with
  | none => rw [Field.Takes, Field.Takes, get_set_of_ne p c h]
  | some v => exact Iff.rfl

/-- The entry of one field in front of others, none of which is of that field. -/
theorem takes_cons_iff {ε α : Type} {read : (field : Field) → α → Except ε field.Content}
    {p q : Provider} {field : Field} {v : α} {values rest : Field → Option α}
    (hself : values field = some v) (hrest : rest field = none)
    (hothers : ∀ other, other ≠ field → values other = rest other) :
    (∀ other : Field, other.Takes (read other) p q (values other)) ↔
      ∃ c, read field v = .ok c ∧
        ∀ other : Field, other.Takes (read other) (p.set field c) q (rest other) := by
  constructor
  · intro h
    have hfield := h field
    rw [hself] at hfield
    refine ⟨q.get field, hfield, fun other => ?_⟩
    by_cases hne : other = field
    · subst hne
      rw [hrest, Field.Takes, get_set_self]
    · rw [takes_set_iff hne, ← hothers other hne]
      exact h other
  · intro hgiven other
    obtain ⟨c, hc, h⟩ := hgiven
    by_cases hne : other = field
    · subst hne
      have hfield := h other
      rw [hrest, Field.Takes, get_set_self] at hfield
      rw [hself, Field.Takes, hfield]
      exact hc
    · rw [hothers other hne, ← takes_set_iff hne]
      exact h other

/-- Loading entries spelled with hyphens succeeds exactly when every value of a field can be read,
and gives each field its value. -/
theorem loadFields_eq_ok {entries : Entries} (hdistinct : DistinctKeys entries)
    (hkebab : ∀ entry ∈ entries, isSnakeKey entry.1 = false) {p q : Provider} :
    loadFields p entries = .ok q ↔
      ∀ field : Field, field.Takes field.load p q (List.lookup field.key entries) := by
  induction entries generalizing p with
  | nil => exact ⟨fun h field => by cases h; rfl, fun h => congrArg _ (ext_get fun f => (h f).symm)⟩
  | cons first rest ih =>
    obtain ⟨k, v⟩ := first
    have hrest := List.pairwise_cons.mp hdistinct
    have htail {p : Provider} :=
      ih (p := p) hrest.2 fun entry hentry => hkebab entry (List.mem_cons_of_mem _ hentry)
    have hfirst : isSnakeKey k = false := hkebab _ List.mem_cons_self
    rw [loadFields]
    cases hkey : Field.ofKey? k with
    | none =>
      have hne : ∀ field : Field, field.key ≠ k := by
        intro field hsame
        subst hsame
        rw [ofKey?_eq_some_iff.mpr (.inl rfl)] at hkey
        cases hkey
      refine htail.trans (forall_congr' fun field => ?_)
      rw [lookup_cons_of_ne v rest (hne field)]
    | some field =>
      obtain rfl : k = field.key := by
        rcases ofKey?_eq_some_iff.mp hkey with rfl | rfl
        · rfl
        · revert hfirst
          cases field <;> decide
      rw [takes_cons_iff List.lookup_cons_self (lookup_tail hdistinct)
        fun other hne => lookup_cons_of_ne v rest fun heq => hne (Field.key_injective heq)]
      simp only [loadField_eq, bind_eq_ok, map_eq_ok, exists_exists_and_eq_and, htail]

/-- Loading entries fails at one that names a field, with what is wrong with its value. -/
theorem exists_of_loadFields_error {entries : Entries} {p : Provider} {fault : Fault}
    (h : loadFields p entries = .error fault) :
    ∃ entry ∈ entries, ∃ field : Field, Field.ofKey? entry.1 = some field ∧
      field.load entry.2 = .error fault := by
  induction entries generalizing p with
  | nil => cases h
  | cons first rest ih =>
    obtain ⟨key, v⟩ := first
    have hlater {p : Provider} (h : loadFields p rest = .error fault) :
        ∃ entry ∈ (key, v) :: rest, ∃ field : Field, Field.ofKey? entry.1 = some field ∧
          field.load entry.2 = .error fault := by
      obtain ⟨entry, hentry, hfault⟩ := ih h
      exact ⟨entry, List.mem_cons_of_mem _ hentry, hfault⟩
    rw [loadFields] at h
    cases hkey : Field.ofKey? key with
    | none =>
      rw [hkey] at h
      exact hlater h
    | some field =>
      simp only [hkey, loadField_eq] at h
      cases hvalue : field.load v with
      | ok c =>
        rw [hvalue] at h
        exact hlater h
      | error e =>
        rw [hvalue] at h
        cases h
        exact ⟨(key, v), List.mem_cons_self, field, hkey, hvalue⟩

/-- Members with hyphenated keys bind exactly when every value of a field does, and give each field
its value, in whichever order they stand. -/
theorem bindMembers_eq_ok {entries : List (String × Json)} (hdistinct : DistinctKeys entries)
    (hkeys : ∀ entry ∈ entries, ∃ field : Field, entry.1 = field.key) {seen : List Field}
    (hseen : ∀ field ∈ seen, List.lookup field.key entries = none) {p q : Provider} :
    bindMembers seen p entries = .ok q ↔
      ∀ field : Field, field.Takes field.bind p q (List.lookup field.key entries) := by
  induction entries generalizing seen p with
  | nil => exact ⟨fun h field => by cases h; rfl, fun h => congrArg _ (ext_get fun f => (h f).symm)⟩
  | cons first rest ih =>
    obtain ⟨k, v⟩ := first
    obtain ⟨⟨field, hkey⟩, hrestKeys⟩ := List.forall_mem_cons.mp hkeys
    obtain rfl : k = field.key := hkey
    have hfield : field ∉ seen := by
      intro hmem
      have hnone := hseen field hmem
      rw [List.lookup_cons_self] at hnone
      cases hnone
    have hlater : ∀ other ∈ field :: seen, List.lookup other.key rest = none := by
      intro other hother
      rcases List.mem_cons.mp hother with rfl | hmem
      · exact lookup_tail hdistinct
      · have hne : other.key ≠ field.key := by
          intro heq
          exact hfield (Field.key_injective heq ▸ hmem)
        rw [← lookup_cons_of_ne v rest hne]
        exact hseen other hmem
    have htail {p : Provider} := ih (p := p) (List.pairwise_cons.mp hdistinct).2 hrestKeys hlater
    rw [takes_cons_iff List.lookup_cons_self (lookup_tail hdistinct)
      fun other hne => lookup_cons_of_ne v rest fun heq => hne (Field.key_injective heq)]
    rw [bindMembers, ofKey?_eq_some_iff.mpr (.inl rfl)]
    simp only [if_neg hfield, bindField_eq, bind_eq_ok, map_eq_ok, exists_exists_and_eq_and, htail]

/-- The value of a field in entries whose keys may be spelled either way; hyphens win. -/
def Field.valueIn? {α : Type} (field : Field) (entries : List (String × α)) : Option α :=
  (List.lookup field.key entries).or (List.lookup field.snakeKey entries)

/-- An entry of another field does not matter to a field. -/
theorem valueIn?_cons_of_ne {α : Type} {key : String} (v : α) (rest : List (String × α))
    {field : Field} (h : Field.ofKey? key ≠ some field) :
    field.valueIn? ((key, v) :: rest) = field.valueIn? rest := by
  rw [ne_eq, ofKey?_eq_some_iff, not_or] at h
  rw [Field.valueIn?, Field.valueIn?, lookup_cons_of_ne v rest (Ne.symm h.1),
    lookup_cons_of_ne v rest (Ne.symm h.2)]

/-- An entry that names the field first gives it its value. -/
theorem valueIn?_cons_self {α : Type} {key : String} (v : α) {rest : List (String × α)}
    {field : Field} (h : Field.ofKey? key = some field) (hrest : field.valueIn? rest = none) :
    field.valueIn? ((key, v) :: rest) = some v := by
  rw [Field.valueIn?, Option.or_eq_none_iff] at hrest
  rw [Field.valueIn?, lookup_cons_eq_ite, lookup_cons_eq_ite, hrest.1, hrest.2]
  rcases ofKey?_eq_some_iff.mp h with rfl | rfl
  · rw [if_pos rfl]
    rfl
  · rw [if_pos rfl]
    split <;> rfl

/-- Members that bind give each field its value, under whichever spelling it stands, and hold no
field that has been seen before. -/
theorem takes_of_bindMembers {entries : List (String × Json)} {seen : List Field} {p q : Provider}
    (h : bindMembers seen p entries = .ok q) (field : Field) :
    field.Takes field.bind p q (field.valueIn? entries) ∧
      (field ∈ seen → field.valueIn? entries = none) := by
  induction entries generalizing seen p with
  | nil =>
    cases h
    exact ⟨rfl, fun _ => rfl⟩
  | cons first rest ih =>
    obtain ⟨k, v⟩ := first
    rw [bindMembers] at h
    cases hkey : Field.ofKey? k with
    | none =>
      rw [hkey] at h
      rw [valueIn?_cons_of_ne v rest (by rw [hkey]; exact (Option.some_ne_none field).symm)]
      exact ih h
    | some named =>
      simp only [hkey] at h
      split at h
      · cases h
      · next hseen =>
        simp only [bindField_eq, bind_eq_ok, map_eq_ok] at h
        obtain ⟨_, ⟨c, hc, rfl⟩, h⟩ := h
        obtain ⟨htakes, hnone⟩ := ih h
        by_cases hne : field = named
        · subst hne
          have hlater := hnone List.mem_cons_self
          rw [hlater, Field.Takes, get_set_self] at htakes
          rw [valueIn?_cons_self v hkey hlater, Field.Takes, htakes]
          exact ⟨hc, fun hmem => absurd hmem hseen⟩
        · have hother : Field.ofKey? k ≠ some field := by
            rw [hkey]
            exact fun heq => hne (Option.some.inj heq).symm
          rw [valueIn?_cons_of_ne v rest hother]
          exact ⟨(takes_set_iff hne _).mp htakes, fun hmem => hnone (List.mem_cons_of_mem _ hmem)⟩

/-- Members that bind hold every field under one spelling only. -/
theorem valueIn?_of_bindMembers {entries : List (String × Json)} {seen : List Field}
    {p q : Provider} (h : bindMembers seen p entries = .ok q) {field : Field}
    {entry : String × Json} (hmem : entry ∈ entries) (hentry : Field.ofKey? entry.1 = some field) :
    field.valueIn? entries = some entry.2 := by
  induction entries generalizing seen p with
  | nil => cases hmem
  | cons first rest ih =>
    obtain ⟨k, v⟩ := first
    rw [bindMembers] at h
    cases hkey : Field.ofKey? k with
    | none =>
      rw [hkey] at h
      rcases List.mem_cons.mp hmem with rfl | hmem
      · rw [hkey] at hentry
        cases hentry
      · rw [valueIn?_cons_of_ne v rest (by rw [hkey]; exact (Option.some_ne_none field).symm)]
        exact ih h hmem
    | some named =>
      simp only [hkey] at h
      split at h
      · cases h
      · simp only [bind_eq_ok] at h
        obtain ⟨_, _, h⟩ := h
        have hlater := (takes_of_bindMembers h named).2 List.mem_cons_self
        rcases List.mem_cons.mp hmem with rfl | hmem
        · obtain rfl := Option.some.inj (hkey.symm.trans hentry)
          exact valueIn?_cons_self v hkey hlater
        · have hfound := ih h hmem
          by_cases hne : field = named
          · rw [hne, hlater] at hfound
            cases hfound
          · have hother : Field.ofKey? k ≠ some field := by
              rw [hkey]
              exact fun heq => hne (Option.some.inj heq).symm
            rwa [valueIn?_cons_of_ne v rest hother]

end Provider

end GrantConfig
