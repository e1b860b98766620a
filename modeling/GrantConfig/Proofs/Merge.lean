import GrantConfig.Layer.Merge
import GrantConfig.Proofs.Entries

/-!
# What merging keeps and replaces

The value under a key after merging is given by the value that the incoming table has for that key
in any letter case, and by what stood there before. Tables below a key merge by the same rule, so a
path through tables is followed level by level. All tables of the merged root outside lists have
ascending keys.
-/

namespace GrantConfig.Layer

open Unicode

/-- Entries with their keys in lowercase. -/
def lowerKeys (entries : Entries) : Entries := entries.map fun entry => (lowercase entry.1, entry.2)

/-- No two keys collapse to one lowercase key. -/
abbrev OneCase (entries : Entries) : Prop := DistinctKeys (lowerKeys entries)

/-- The entries of the table under a key; there are none where no table is. -/
def tableUnder (key : String) (entries : Entries) : Entries :=
  ((List.lookup key entries).getD (.table [])).toEntries

/-- The entries of the table under a key in any letter case. -/
def tableAt (key : String) (entries : Entries) : Entries := tableUnder key (lowerKeys entries)

/-- What stands under a key is a table, if there is anything. -/
def TableOrNothing (key : String) (entries : Entries) : Prop :=
  ∀ v, List.lookup key entries = some v → ∃ inner, v = .table inner

/-- Where there are no entries, there is nothing under a key. -/
theorem tableOrNothing_nil {key : String} : TableOrNothing key [] := by
  intro v hv
  cases hv

/-- A value laid over what stood in its place. -/
def Value.over (v : Value) (under : Option Value) : Value :=
  match v with
  | .scalar origin s => .scalar origin s
  | .list origin items => .list origin items
  | .table incoming => mergeTable (under.getD (.table [])) incoming

/-- The entries of a table laid over others. -/
def mergeEntries (base incoming : Entries) : Entries :=
  incoming.foldl (fun acc entry => mergeField acc entry.1 entry.2) base

/-- An entry is merged by laying its value over what stands under its key. -/
theorem mergeField_eq (entries : Entries) (key : String) (v : Value) :
    mergeField entries key v =
      insertEntry (lowercase key) (v.over (List.lookup (lowercase key) entries)) entries := by
  cases v <;> rw [mergeField, Value.over]

/-- A table laid over a table is merged entry by entry. -/
theorem mergeTable_table (base incoming : Entries) :
    mergeTable (.table base) incoming = .table (mergeEntries base incoming) := by
  induction incoming generalizing base with
  | nil => rw [mergeTable, mergeEntries, List.foldl_nil]
  | cons first rest ih =>
    obtain ⟨key, v⟩ := first
    rw [mergeTable, ih]
    rfl

/-- Whatever a table is laid over, its entries are merged with those that are there. -/
theorem toEntries_mergeTable (target : Value) (incoming : Entries) :
    (mergeTable target incoming).toEntries = mergeEntries target.toEntries incoming := by
  cases incoming with
  | nil => rw [mergeTable, mergeEntries, List.foldl_nil]
  | cons first rest =>
    obtain ⟨key, v⟩ := first
    rw [mergeTable, mergeTable_table]
    rfl

/-- The value under a key after merging a table whose keys do not collapse. -/
theorem lookup_mergeEntries {incoming : Entries} (h : OneCase incoming) (key : String)
    (base : Entries) :
    List.lookup key (mergeEntries base incoming) =
      match List.lookup key (lowerKeys incoming) with
      | some v => some (v.over (List.lookup key base))
      | none => List.lookup key base := by
  induction incoming generalizing base with
  | nil => rfl
  | cons first rest ih =>
    obtain ⟨k, v⟩ := first
    have hrest := List.pairwise_cons.mp h
    have hstep : mergeEntries base ((k, v) :: rest) = mergeEntries (mergeField base k v) rest := rfl
    have hlower : lowerKeys ((k, v) :: rest) = (lowercase k, v) :: lowerKeys rest := rfl
    rw [hstep, ih hrest.2, hlower, mergeField_eq]
    by_cases hkey : key = lowercase k
    · subst hkey
      have hlater : List.lookup (lowercase k) (lowerKeys rest) = none := lookup_tail h
      rw [hlater, List.lookup_cons_self]
      exact lookup_insertEntry_self _ _ _
    · rw [lookup_cons_of_ne _ _ hkey, lookup_insertEntry_of_ne _ _ hkey]

/-- Below a key that holds a table if anything, merging goes on with the tables below. -/
theorem tableUnder_mergeEntries {incoming : Entries} (h : OneCase incoming) {key : String}
    (htable : TableOrNothing key (lowerKeys incoming)) (base : Entries) :
    tableUnder key (mergeEntries base incoming) =
      mergeEntries (tableUnder key base) (tableAt key incoming) := by
  rw [tableUnder, lookup_mergeEntries h, tableUnder, tableAt, tableUnder]
  cases hvalue : List.lookup key (lowerKeys incoming) with
  | none => rfl
  | some v =>
    obtain ⟨entries, rfl⟩ := htable v hvalue
    exact toEntries_mergeTable _ _

/-- Under a key that holds a table if anything, merging leaves a table if anything. -/
theorem tableOrNothing_mergeEntries {base incoming : Entries} (h : OneCase incoming) {key : String}
    (htable : TableOrNothing key (lowerKeys incoming)) (hbase : TableOrNothing key base) :
    TableOrNothing key (mergeEntries base incoming) := by
  intro v hv
  rw [lookup_mergeEntries h] at hv
  cases hvalue : List.lookup key (lowerKeys incoming) with
  | none =>
    rw [hvalue] at hv
    exact hbase v hv
  | some w =>
    rw [hvalue] at hv
    obtain ⟨inner, rfl⟩ := htable w hvalue
    obtain rfl := Option.some.inj hv
    cases hunder : List.lookup key base with
    | none => exact ⟨_, mergeTable_table [] inner⟩
    | some under =>
      obtain ⟨entries, rfl⟩ := hbase under hunder
      exact ⟨_, mergeTable_table entries inner⟩

/-- Tables whose keys ascend on every level outside lists. -/
inductive Value.Normal : Value → Prop
  | scalar (origin : Option Origin) (s : Scalar) : Normal (.scalar origin s)
  | list (origin : Option Origin) (items : List Value) : Normal (.list origin items)
  | table {entries : Entries} (ascending : Ascending entries)
      (values : ∀ entry ∈ entries, Normal entry.2) : Normal (.table entries)

namespace Value.Normal

/-- The entries of a table in normal form are in ascending order. -/
theorem ascending {entries : Entries} (h : Normal (.table entries)) : Ascending entries := by
  cases h
  assumption

/-- The entries of a value in normal form make a table in normal form. -/
theorem toEntries {v : Value} (h : v.Normal) : Normal (.table v.toEntries) := by
  cases h with
  | scalar | list => exact table List.Pairwise.nil (by simp [Value.toEntries])
  | table ascending values => exact table ascending values

/-- A value of a normal table is normal. -/
theorem lookup {entries : Entries} (h : Normal (.table entries)) {key : String} {v : Value}
    (hv : List.lookup key entries = some v) : v.Normal := by
  cases h with
  | table _ values => exact values _ (mem_of_lookup hv)

/-- What stands under a key is in normal form, and so is a default. -/
theorem getD {entries : Entries} (h : Normal (.table entries)) (key : String) {v : Value}
    (hv : v.Normal) : ((List.lookup key entries).getD v).Normal := by
  cases hfound : List.lookup key entries with
  | none => exact hv
  | some found => exact h.lookup hfound

/-- A value in normal form may be put into a table. -/
theorem insertEntry {entries : Entries} (h : Normal (.table entries)) (key : String) {v : Value}
    (hv : v.Normal) : Normal (.table (GrantConfig.insertEntry key v entries)) := by
  cases h with
  | table ascending values =>
    refine table (ascending_insertEntry key v ascending) fun entry hentry => ?_
    rcases mem_insertEntry hentry with rfl | hmem
    · exact hv
    · exact values entry hmem

/-- The empty table is in normal form. -/
theorem empty : Normal (.table []) := table List.Pairwise.nil (by simp)

end Value.Normal

mutual

/-- Laying a value over a key of a normal table leaves it normal. -/
theorem normal_mergeField {entries : Entries} (h : (Value.table entries).Normal) (key : String) :
    ∀ v : Value, (Value.table (mergeField entries key v)).Normal
  | .scalar origin s => by
    rw [mergeField]
    exact h.insertEntry _ (.scalar origin s)
  | .list origin items => by
    rw [mergeField]
    exact h.insertEntry _ (.list origin items)
  | .table incoming => by
    rw [mergeField]
    exact h.insertEntry _ (normal_mergeTable (h.getD _ .empty) incoming)

/-- Laying a table over a normal value leaves it normal. -/
theorem normal_mergeTable {target : Value} (h : target.Normal) :
    ∀ incoming : Entries, (mergeTable target incoming).Normal
  | [] => by
    rw [mergeTable]
    exact h
  | (key, v) :: rest => by
    rw [mergeTable]
    exact normal_mergeTable (normal_mergeField h.toEntries key v) rest

end

end GrantConfig.Layer
