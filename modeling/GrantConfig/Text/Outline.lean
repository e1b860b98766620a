import GrantConfig.Text.Quoted

/-!
# Outlines

The display of nested values: records with named fields, optional values, lists, pairs and maps
over quoted texts. The compact form stands on one line; the tall form gives every part a line of
its own and indents by four spaces.
-/

namespace GrantConfig.Text

/-- A value to be displayed. -/
inductive Outline where
  | text (s : String)
  | absent
  | present (value : Outline)
  | pair (first second : Outline)
  | list (items : List Outline)
  | map (entries : List (Outline × Outline))
  | record (name : String) (fields : List (String × Outline))

namespace Outline

/-- An optional value. -/
def ofOption (f : α → Outline) : Option α → Outline
  | none => .absent
  | some a => .present (f a)

mutual

/-- The display on one line. -/
def compact : Outline → String
  | .text s => Quoted.quote s
  | .absent => "None"
  | .present value => "Some(" ++ compact value ++ ")"
  | .pair first second => "(" ++ compact first ++ ", " ++ compact second ++ ")"
  | .list items => "[" ++ ", ".intercalate (compactItems items) ++ "]"
  | .map entries => "\x7b" ++ ", ".intercalate (compactEntries entries) ++ "\x7d"
  | .record name fields =>
    name ++ " \x7b " ++ ", ".intercalate (compactFields fields) ++ " \x7d"

/-- The items of a list, each on one line. -/
def compactItems : List Outline → List String
  | [] => []
  | item :: rest => compact item :: compactItems rest

/-- The entries of a map, each on one line. -/
def compactEntries : List (Outline × Outline) → List String
  | [] => []
  | (key, value) :: rest => (compact key ++ ": " ++ compact value) :: compactEntries rest

/-- The fields of a record, each on one line. -/
def compactFields : List (String × Outline) → List String
  | [] => []
  | (name, value) :: rest => (name ++ ": " ++ compact value) :: compactFields rest

end

/-- A line at a depth, closed by a comma. -/
def tallLine (depth : Nat) (body : String) : String :=
  "".pushn ' ' (4 * depth) ++ body ++ ",\n"

/-- Parts between brackets, each on lines of its own. -/
def tallBlock (opening closing : String) (depth : Nat) (parts : List String) : String :=
  if parts.isEmpty then opening ++ closing
  else
    opening ++ "\n" ++ String.join (parts.map (tallLine (depth + 1))) ++
      "".pushn ' ' (4 * depth) ++ closing

mutual

/-- The display over several lines, for a value that begins at a depth. -/
def tallAt (depth : Nat) : Outline → String
  | .text s => Quoted.quote s
  | .absent => "None"
  | .present value => tallBlock "Some(" ")" depth [tallAt (depth + 1) value]
  | .pair first second =>
    tallBlock "(" ")" depth [tallAt (depth + 1) first, tallAt (depth + 1) second]
  | .list items => tallBlock "[" "]" depth (tallItems (depth + 1) items)
  | .map entries => tallBlock "\x7b" "\x7d" depth (tallEntries (depth + 1) entries)
  | .record name fields =>
    tallBlock (name ++ " \x7b") "\x7d" depth (tallFields (depth + 1) fields)

/-- The items of a list at a depth. -/
def tallItems (depth : Nat) : List Outline → List String
  | [] => []
  | item :: rest => tallAt depth item :: tallItems depth rest

/-- The entries of a map at a depth. -/
def tallEntries (depth : Nat) : List (Outline × Outline) → List String
  | [] => []
  | (key, value) :: rest =>
    (tallAt depth key ++ ": " ++ tallAt depth value) :: tallEntries depth rest

/-- The fields of a record at a depth. -/
def tallFields (depth : Nat) : List (String × Outline) → List String
  | [] => []
  | (name, value) :: rest => (name ++ ": " ++ tallAt depth value) :: tallFields depth rest

end

/-- The display over several lines. -/
def tall (value : Outline) : String := tallAt 0 value

end Outline

end GrantConfig.Text
