import GrantConfig.Layer.KeyPath
import GrantConfig.Layer.Value
import GrantConfig.Unicode.Lowercase

/-!
# Merging sources

Sources are laid over one another in order. The keys of tables are brought to lowercase on every
level outside lists. Tables are merged entry by entry, and any other value takes the place of what
stood under its key. A path makes the tables and lists that it needs.

Entries are merged in the order in which they are given. Where keys collapse, or one key leads into
what another one writes, that order shows.
-/

namespace GrantConfig.Layer

open Unicode

/-- The entries of a value that is made a table if it is none. -/
def Value.toEntries : Value → Entries
  | .table entries => entries
  | .list _ _ => []
  | .scalar _ _ => []

mutual

/-- Lay a value over what stands under a key of a table. -/
def mergeField (entries : Entries) (key : String) : Value → Entries
  | .scalar origin s => insertEntry (lowercase key) (.scalar origin s) entries
  | .list origin items => insertEntry (lowercase key) (.list origin items) entries
  | .table incoming =>
    let target := (List.lookup (lowercase key) entries).getD (.table [])
    insertEntry (lowercase key) (mergeTable target incoming) entries

/-- Lay the entries of a table over a value. A value that is no table gives way to a table with
entries, but not to an empty one. -/
def mergeTable (target : Value) : Entries → Value
  | [] => target
  | (key, v) :: rest => mergeTable (.table (mergeField target.toEntries key v)) rest

end

/-- The position that a number means in a list: negative numbers count from the end. -/
def positionIn (n : Int) (length : Nat) : Option Nat :=
  if 0 ≤ n then some n.toNat
  else if n.natAbs ≤ length then some (length - n.natAbs)
  else none

/-- Change the value at a position of a list, padded with null up to that position. -/
def changeAt (n : Int) (change : Value → Value) (items : List Value) : List Value :=
  match positionIn n items.length with
  | none => items
  | some i =>
    let padded := items ++ List.replicate (i + 1 - items.length) Value.null
    padded.set i (change (padded[i]?.getD Value.null))

/-- Change an item of a value that is made a list if it is none. -/
def Value.changeItem (n : Int) (change : Value → Value) : Value → Value
  | .list origin items => .list origin (changeAt n change items)
  | .table _ => .list none (changeAt n change [])
  | .scalar _ _ => .list none (changeAt n change [])

/-- Put a value behind the last step of a path from a parent. -/
def assign (v : Value) : List Step → Value → Value
  | [], _ => v
  | [.field name], parent => .table (mergeField parent.toEntries name v)
  | .field name :: steps, parent =>
    let entries := parent.toEntries
    let child := (List.lookup (lowercase name) entries).getD Value.null
    .table (insertEntry (lowercase name) (assign v steps child) entries)
  | .position n :: steps, parent => parent.changeItem n (assign v steps)

/-- Put a value under a key of the root table, where the key may be a path. -/
def assignKey (root : Entries) (key : String) (v : Value) : Entries :=
  let path := KeyPath.ofKey key
  (assign v (.field path.name :: path.steps) (.table root)).toEntries

/-- Lay a source over those before it. -/
def mergeSource (root source : Entries) : Entries :=
  source.foldl (fun root entry => assignKey root entry.1 entry.2) root

/-- The root table of sources in their order. -/
def mergeSources (sources : List Entries) : Entries := sources.foldl mergeSource []

end GrantConfig.Layer
