import GrantConfig.Json.Value

/-!
# Writing JSON

Compact text: no blanks, members in the order of the value. Characters stand as they are except
quotes, backslashes and controls.
-/

namespace GrantConfig.Json

/-- One character inside a JSON string. -/
def escape (c : Char) : String :=
  if c = '"' then "\\\""
  else if c = '\\' then "\\\\"
  else if c = '\x08' then "\\b"
  else if c = '\x0c' then "\\f"
  else if c = '\n' then "\\n"
  else if c = '\r' then "\\r"
  else if c = '\t' then "\\t"
  else if c.toNat < 0x20 then
    "\\u00" ++ (if c.toNat < 0x10 then "0" else "") ++ String.ofList (Nat.toDigits 16 c.toNat)
  else c.toString

/-- A string literal. -/
def literal (s : String) : String := "\"" ++ String.join (s.toList.map escape) ++ "\""

mutual

/-- The compact text of a value. -/
def write : Json → String
  | .null => "null"
  | .bool b => if b then "true" else "false"
  | .number n => n.text
  | .string s => literal s
  | .array items => "[" ++ ",".intercalate (writeItems items) ++ "]"
  | .members entries => "\x7b" ++ ",".intercalate (writeMembers entries) ++ "\x7d"

/-- The texts of the items of an array. -/
def writeItems : List Json → List String
  | [] => []
  | item :: rest => write item :: writeItems rest

/-- The texts of the members of an object. -/
def writeMembers : List (String × Json) → List String
  | [] => []
  | (name, value) :: rest => (literal name ++ ":" ++ write value) :: writeMembers rest

end

end GrantConfig.Json
