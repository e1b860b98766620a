import GrantConfig.Json.Number
import GrantConfig.SortedMap

/-!
# JSON values

Objects keep their members in ascending key order and hold no key twice when they are built by
the reader or by `Json.object`.
-/

namespace GrantConfig

/-- A JSON value. -/
inductive Json where
  | null
  | bool (b : Bool)
  | number (n : Json.Number)
  | string (s : String)
  | array (items : List Json)
  | members (entries : List (String × Json))

namespace Json

/-- The object with the given members; a later member wins over an earlier one of its name. -/
def object (entries : List (String × Json)) : Json :=
  .members (entries.foldl (fun acc entry => insertEntry entry.1 entry.2 acc) [])

/-- The member of an object. -/
def get? (key : String) : Json → Option Json
  | .members entries => List.lookup key entries
  | _ => none

/-- A natural number. -/
def ofNat (n : Nat) : Json := .number (.natural n)

/-- A text, or null. -/
def ofText? : Option String → Json
  | none => .null
  | some s => .string s

end Json

end GrantConfig
