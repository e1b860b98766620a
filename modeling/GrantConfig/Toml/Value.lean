import GrantConfig.SortedMap
import GrantConfig.Toml.Scalars

/-!
# TOML values

Values, and tables while a document is being read. A table remembers how it came into being: by
its own header, as a parent of a header, or by a dotted key. That decides what may still be added
to it.
-/

namespace GrantConfig.Toml

/-- A TOML value. Dates and times are texts. -/
inductive Value where
  | text (s : String)
  | integer (n : Int)
  | float (x : Float)
  | boolean (b : Bool)
  | array (items : List Value)
  | table (entries : List (String × Value))

/-- How a table came into being. -/
inductive TableKind where
  | explicit
  | implicit
  | dotted
deriving DecidableEq, Repr

/-- What stands under a key while a document is being read. -/
inductive Item where
  | value (v : Value)
  | table (kind : TableKind) (entries : List (String × Item))
  | tables (rows : List (List (String × Item)))

mutual

/-- The value that an item has become at the end of the document. -/
def Item.toValue : Item → Value
  | .value v => v
  | .table _ entries => .table (entriesToValue entries)
  | .tables rows => .array (rowsToValue rows)

/-- The entries of a table at the end of the document. -/
def entriesToValue : List (String × Item) → List (String × Value)
  | [] => []
  | (key, item) :: rest => (key, item.toValue) :: entriesToValue rest

/-- The tables of an array at the end of the document. -/
def rowsToValue : List (List (String × Item)) → List Value
  | [] => []
  | row :: rest => .table (entriesToValue row) :: rowsToValue rest

end

/-- The entries of a table that is being read. -/
abbrev Entries := List (String × Item)

/-- Change the table at the end of a path. Tables on the way are made where they are missing.
A dotted key must not enter a table that has a header of its own. -/
def updateAt (dotted : Bool) (change : TableKind → Entries → Option Entries) :
    (path : List String) → TableKind → Entries → Option Entries
  | [], kind, entries => change kind entries
  | key :: path, _, entries =>
    match List.lookup key entries with
    | none => do
      let kind : TableKind := if dotted then .dotted else .implicit
      return insertEntry key (.table kind (← updateAt dotted change path kind [])) entries
    | some (.value _) => none
    | some (.tables rows) => do
      let last ← updateAt dotted change path .explicit (rows.getLast?.getD [])
      return insertEntry key (.tables (rows.dropLast ++ [last])) entries
    | some (.table kind inner) => do
      guard !(dotted && kind = .explicit)
      return insertEntry key (.table kind (← updateAt dotted change path kind inner)) entries

/-- Put a value under a dotted key. The table that takes it must itself come from a dotted key
exactly when the key has dots, and must not have the key yet. -/
def addPair (path : List String) (key : String) (v : Value) (kind : TableKind)
    (entries : Entries) : Option Entries :=
  updateAt true
    (fun kind entries => do
      guard ((kind == .dotted) != path.isEmpty)
      guard (List.lookup key entries).isNone
      return insertEntry key (.value v) entries)
    path kind entries

/-- Open a table by its header. -/
def openTable (path : List String) (key : String) (root : Entries) : Option Entries :=
  updateAt false
    (fun _ entries =>
      match List.lookup key entries with
      | none => some (insertEntry key (.table .explicit []) entries)
      | some (.table .implicit inner) => some (insertEntry key (.table .explicit inner) entries)
      | some _ => none)
    path .explicit root

/-- Open a further table of an array by its header. -/
def openRow (path : List String) (key : String) (root : Entries) : Option Entries :=
  updateAt false
    (fun _ entries =>
      match List.lookup key entries with
      | none => some (insertEntry key (.tables [[]]) entries)
      | some (.tables rows) => some (insertEntry key (.tables (rows ++ [[]])) entries)
      | some _ => none)
    path .explicit root

end GrantConfig.Toml
