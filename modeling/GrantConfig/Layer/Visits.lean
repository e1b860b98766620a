import GrantConfig.Layer.Environment
import GrantConfig.Layer.Merge
import Mathlib.Data.List.Forall2

/-!
# Orders that are not specified

Tables, variables and sources are kept in maps, and the order in which a map is gone through is not
specified: it may be another one in each run, and another one for each map. Where this library goes
through a map, it takes the ascending order of keys, which stands for all of them. Here is what any
other order may bring forth: tables with their entries in another order, and maps filled with another
one of several entries that have one key.
-/

namespace GrantConfig.Layer

mutual

/-- A value as it may be gone through: the entries of its tables come in any order, on every level
outside lists. -/
inductive Value.Visited : Value → Value → Prop
  | same (v : Value) : Value.Visited v v
  | table {entries between visited : Entries} (below : EntriesVisited entries between)
      (order : between.Perm visited) : Value.Visited (.table entries) (.table visited)

/-- Entries with the same keys in the same order, whose values are gone through in any order. -/
inductive EntriesVisited : Entries → Entries → Prop
  | nil : EntriesVisited [] []
  | cons (key : String) {v w : Value} {rest more : Entries} (first : Value.Visited v w)
      (others : EntriesVisited rest more) : EntriesVisited ((key, v) :: rest) ((key, w) :: more)

end

/-- An entry of a document as it may be gone through. What is put into a list is left alone. -/
structure EntryVisited (entry visited : String × Value) : Prop where
  key : entry.1 = visited.1
  value : entry.2.Visited visited.2
  inList : endsInList (KeyPath.ofKey entry.1).steps = true → entry.2 = visited.2

/-- A document as it may be gone through. -/
def DocumentVisited (document visited : Entries) : Prop :=
  ∃ between, List.Forall₂ EntryVisited document between ∧ between.Perm visited

/-- Entries as they come out of a map: given in any order, of which the last one of each key stays, and
gone through in any order. -/
def Collected {α : Type} (given visited : List (String × α)) : Prop :=
  ∃ order, order.Perm given ∧ visited.Perm (SortedMap.ofList order).entries

/-- What the variables of a prefix may write, in order: they are gathered under their normalized names
first, and then under their key paths. -/
def Environment.Written (start : String) (vars : SortedMap String) (writes : Entries) : Prop :=
  ∃ normal, Collected (renamed start vars.entries) normal ∧ Collected (pathed start normal) writes

end GrantConfig.Layer
