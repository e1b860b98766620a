import GrantConfig.Layer.Document
import GrantConfig.Proofs.Fields
import GrantConfig.Proofs.Layers

/-!
# JSON objects as documents

An object becomes a table with the same keys, and each value keeps what fields read of it. Where the
keys of an object are in lowercase already, looking up in the table is looking up in the object.
-/

namespace GrantConfig

open Layer Unicode Provider

namespace Layer

/-- The members of an object become entries one by one. -/
theorem ofJsonMembers_eq_map (origin : Option Origin) (entries : List (String × Json)) :
    ofJsonMembers origin entries =
      entries.map fun entry => (entry.1, ofJson origin entry.2) := by
  induction entries with
  | nil => rfl
  | cons first rest ih =>
    obtain ⟨key, v⟩ := first
    rw [ofJsonMembers, ih]
    rfl

/-- The values of a table are those of the object. -/
theorem lookup_ofJsonMembers (origin : Option Origin) (key : String)
    (entries : List (String × Json)) :
    List.lookup key (ofJsonMembers origin entries) = (List.lookup key entries).map (ofJson origin) := by
  rw [ofJsonMembers_eq_map]
  exact lookup_map (fun _ => ofJson origin) key entries

/-- A number is read neither as scopes nor as parameters. -/
theorem shape_ofInt (origin : Option Origin) (n : Int) :
    (Value.scalar origin (.ofInt n)).shape = .other := by
  rw [Scalar.ofInt]
  split <;> rfl

mutual

/-- Lists of texts look the same in a JSON value and in the value of a source. -/
theorem shape_ofJson (origin : Option Origin) : ∀ v : Json, (ofJson origin v).shape = v.shape
  | .null => rfl
  | .bool _ => rfl
  | .number (.natural n) => shape_ofInt origin n
  | .number (.negative n) => shape_ofInt origin n
  | .number (.float _) => rfl
  | .string _ => rfl
  | .array items => by
    rw [ofJson, Value.shape, Json.shape, shapeItems_ofJsonItems origin items]
  | .members entries => by
    rw [ofJson, Value.shape, Json.shape, shapeEntries_ofJsonMembers origin entries]

/-- The items of a list keep their shapes. -/
theorem shapeItems_ofJsonItems (origin : Option Origin) :
    ∀ items : List Json, Value.shapeItems (ofJsonItems origin items) = Json.shapeItems items
  | [] => rfl
  | item :: rest => by
    rw [ofJsonItems, Value.shapeItems, Json.shapeItems, shape_ofJson origin item,
      shapeItems_ofJsonItems origin rest]

/-- The members of an object keep their shapes. -/
theorem shapeEntries_ofJsonMembers (origin : Option Origin) :
    ∀ entries : List (String × Json),
      Value.shapeEntries (ofJsonMembers origin entries) = Json.shapeMembers entries
  | [] => rfl
  | (key, v) :: rest => by
    rw [ofJsonMembers, Value.shapeEntries, Json.shapeMembers, shape_ofJson origin v,
      shapeEntries_ofJsonMembers origin rest]

end

end Layer

/-- A text that binds loads alike. -/
theorem loadText_ofJson {key : String} {v : Json} {text : Option String} (h : bindText v = .ok text)
    (origin : Option Origin) : loadText key (Layer.ofJson origin v) = .ok text := by
  cases v with
  | null =>
    cases h
    rfl
  | string s =>
    cases h
    rfl
  | bool | number | array | members => cases h

/-- A list of texts that binds loads alike. -/
theorem loadList_ofJson {α : Type} {read : Shape → Except Shape.Fault α} {v : Json} {list : α}
    (h : (read v.shape).mapError BindFault.shape = .ok list) (origin : Option Origin) :
    (read (Layer.ofJson origin v).shape).mapError Layer.Fault.shape = .ok list := by
  rw [mapError_eq_ok] at h ⊢
  rw [shape_ofJson, h]

/-- What a JSON value gives a field when it binds, it gives when it is loaded. -/
theorem load_ofJson {field : Field} {v : Json} {c : field.Content} (h : field.bind v = .ok c)
    (origin : Option Origin) : field.load (Layer.ofJson origin v) = .ok c := by
  cases field with
  | scopes | extraParams => exact loadList_ofJson h origin
  | clientId | clientSecret | redirectUri | tokenPath | codePath | userInfoPath =>
    exact loadText_ofJson h origin

/-- What a provider binds field by field, it loads from the members laid out as entries. -/
theorem takes_load_of_bindMembers {members : List (String × Json)} {p : Provider}
    (h : bindMembers [] {} members = .ok p) (origin : Option Origin) (field : Field) :
    field.Takes field.load {} p ((field.valueIn? members).map (Layer.ofJson origin)) := by
  have htakes := (takes_of_bindMembers h field).1
  cases hvalue : field.valueIn? members with
  | none =>
    rw [hvalue] at htakes
    exact htakes
  | some v =>
    rw [hvalue] at htakes
    exact load_ofJson htakes origin

/-- No object gives a field anything. -/
theorem bind_members_ne_ok (field : Field) (entries : List (String × Json)) (c : field.Content) :
    field.bind (.members entries) ≠ .ok c := by
  intro h
  cases field <;> cases h

namespace Json

/-- Values whose objects outside lists hold no key twice and have all their keys in lowercase. -/
inductive LowerKeyed : Json → Prop
  | null : LowerKeyed .null
  | bool (b : Bool) : LowerKeyed (.bool b)
  | number (n : Json.Number) : LowerKeyed (.number n)
  | string (s : String) : LowerKeyed (.string s)
  | array (items : List Json) : LowerKeyed (.array items)
  | members {entries : List (String × Json)} (distinct : DistinctKeys entries)
      (lower : ∀ entry ∈ entries, lowercase entry.1 = entry.1)
      (values : ∀ entry ∈ entries, LowerKeyed entry.2) : LowerKeyed (.members entries)

/-- A text that may be missing has no keys. -/
theorem lowerKeyed_ofText? (text : Option String) : (ofText? text).LowerKeyed := by
  cases text with
  | none => exact .null
  | some s => exact .string s

/-- An object with a single member. -/
theorem lowerKeyed_singleton {key : String} (hkey : lowercase key = key) {v : Json}
    (h : v.LowerKeyed) : (Json.members [(key, v)]).LowerKeyed :=
  .members (List.pairwise_singleton _ _) (List.forall_mem_singleton.mpr hkey)
    (List.forall_mem_singleton.mpr h)

/-- The members of the object under a key; there are none where no object is. -/
def membersUnder (key : String) (entries : List (String × Json)) : List (String × Json) :=
  match List.lookup key entries with
  | some (.members inner) => inner
  | _ => []

/-- The first member counts under its own key. -/
theorem membersUnder_cons_self (key : String) (inner rest : List (String × Json)) :
    membersUnder key ((key, .members inner) :: rest) = inner := by
  rw [membersUnder, List.lookup_cons_self]

/-- It does not count under other keys. -/
theorem membersUnder_cons_of_ne {key other : String} (v : Json) (rest : List (String × Json))
    (h : other ≠ key) : membersUnder other ((key, v) :: rest) = membersUnder other rest := by
  rw [membersUnder, membersUnder, lookup_cons_of_ne v rest h]

namespace LowerKeyed

variable {entries : List (String × Json)} (h : LowerKeyed (.members entries))

include h

/-- What stands under a key has its keys in lowercase as well. -/
theorem membersUnder (key : String) : LowerKeyed (.members (membersUnder key entries)) := by
  rw [Json.membersUnder]
  split
  · next inner hinner =>
    cases h with
    | members _ _ values => exact values _ (mem_of_lookup hinner)
  · exact .members List.Pairwise.nil (List.forall_mem_nil _) (List.forall_mem_nil _)

/-- Members with keys in lowercase become entries with keys in lowercase. -/
theorem lowerKeys_ofJsonMembers (origin : Option Origin) :
    lowerKeys (ofJsonMembers origin entries) = ofJsonMembers origin entries := by
  rw [lowerKeys, ofJsonMembers_eq_map, List.map_map]
  refine List.map_congr_left fun entry hentry => ?_
  cases h with
  | members _ lower _ => rw [Function.comp_apply, lower entry hentry]

/-- No two of them collapse. -/
theorem oneCase_ofJsonMembers (origin : Option Origin) :
    OneCase (ofJsonMembers origin entries) := by
  rw [OneCase, h.lowerKeys_ofJsonMembers, ofJsonMembers_eq_map]
  cases h with
  | members distinct _ _ => exact List.pairwise_map.mpr distinct

/-- The tables of a document are the objects it comes from. -/
theorem tableAt_ofJsonMembers (origin : Option Origin) (key : String) :
    tableAt key (ofJsonMembers origin entries) =
      ofJsonMembers origin (Json.membersUnder key entries) := by
  rw [tableAt, h.lowerKeys_ofJsonMembers, tableUnder, lookup_ofJsonMembers, Json.membersUnder]
  cases List.lookup key entries with
  | none => rfl
  | some v =>
    cases v with
    | members inner => rfl
    | null | bool | number | string | array => rfl

/-- A key that has an object if anything becomes one that has a table if anything. -/
theorem tableOrNothing_ofJsonMembers (origin : Option Origin) {key : String}
    (hobject : ∀ v, List.lookup key entries = some v → ∃ inner, v = .members inner) :
    TableOrNothing key (lowerKeys (ofJsonMembers origin entries)) := by
  intro v hv
  rw [h.lowerKeys_ofJsonMembers, lookup_ofJsonMembers, Option.map_eq_some_iff] at hv
  obtain ⟨w, hw, rfl⟩ := hv
  obtain ⟨inner, rfl⟩ := hobject w hw
  exact ⟨ofJsonMembers origin inner, rfl⟩

end LowerKeyed

end Json

end GrantConfig
