import GrantConfig.Proofs.KeyPaths
import GrantConfig.Proofs.Merge

/-!
# Sources as layers

A source with plain keys is merged entry by entry. A key that is a path of names does what nested
tables along the path would do, so a variable of the environment is a layer like any document.
-/

namespace GrantConfig.Layer

open Unicode

/-- A key in lowercase stays what it is. -/
theorem lowerKeys_singleton {key : String} (h : lowercase key = key) (v : Value) :
    lowerKeys [(key, v)] = [(key, v)] := by
  rw [lowerKeys, List.map_singleton, h]

/-- The table of the only entry stands under its key. -/
theorem tableAt_singleton {key : String} (h : lowercase key = key) (entries : Entries) :
    tableAt key [(key, .table entries)] = entries := by
  rw [tableAt, lowerKeys_singleton h, tableUnder, List.lookup_cons_self]
  rfl

/-- The entries of a value that may be missing. -/
def entriesIn (v : Option Value) : Entries := (v.getD (.table [])).toEntries

/-- A value without entries counts as the empty table. -/
theorem toEntries_getD (v : Option Value) : (v.getD Value.null).toEntries = entriesIn v := by
  cases v <;> rfl

/-- A value below a way of keys. -/
def nest : List String → Value → Value
  | [], v => v
  | key :: keys, v => .table [(key, nest keys v)]

/-- Assigning along a path of names merges nested tables. -/
theorem assign_fields (v : Value) (name : String) (names : List String) (parent : Value) :
    assign v (.field name :: names.map .field) parent =
      .table (mergeField parent.toEntries name (nest names v)) := by
  induction names generalizing name parent with
  | nil => rfl
  | cons next names ih =>
    rw [List.map_cons, assign, ih, nest, mergeField, mergeTable, mergeTable, toEntries_getD,
      entriesIn]
    intro h
    cases h

/-- A key that is a path of names merges nested tables into the root. -/
theorem assignKey_fields {key name : String} {names : List String}
    (h : KeyPath.ofKey key = ⟨name, names.map .field⟩) (root : Entries) (v : Value) :
    assignKey root key v = mergeEntries root [(name, nest names v)] := by
  rw [assignKey, h, assign_fields]
  rfl

/-- All keys of a source are plain identifiers. -/
def PlainKeys (source : Entries) : Prop := ∀ entry ∈ source, KeyPath.IsName entry.1.toList

/-- A source with plain keys is merged entry by entry. -/
theorem mergeSource_plain {source : Entries} (h : PlainKeys source) (root : Entries) :
    mergeSource root source = mergeEntries root source := by
  induction source generalizing root with
  | nil => rfl
  | cons first rest ih =>
    have hfirst : KeyPath.ofKey first.1 = ⟨first.1, ([] : List String).map .field⟩ :=
      KeyPath.ofKey_name (h first List.mem_cons_self)
    have hstep : assignKey root first.1 first.2 = mergeEntries root [first] :=
      assignKey_fields hfirst root first.2
    change mergeSource (assignKey root first.1 first.2) rest = _
    rw [hstep, ih fun entry hentry => h entry (List.mem_cons_of_mem _ hentry)]
    rfl

/-- Merging tables into a normal one leaves it normal. -/
theorem normal_mergeEntries {base : Entries} (h : (Value.table base).Normal) (incoming : Entries) :
    (Value.table (mergeEntries base incoming)).Normal := by
  rw [← mergeTable_table]
  exact normal_mergeTable h incoming

/-- The table under a key of a merged one is in normal form. -/
theorem normal_tableUnder {entries : Entries} (h : (Value.table entries).Normal) (key : String) :
    (Value.table (tableUnder key entries)).Normal := (h.getD key .empty).toEntries

/-- A list is in normal form whatever its items are. -/
theorem normal_changeItem (n : Int) (change : Value → Value) (v : Value) :
    (v.changeItem n change).Normal := by
  cases v with
  | scalar | list | table => exact .list _ _

/-- A scalar gives way to a path whichever one it is. -/
theorem assign_scalar (v : Value) (step : Step) (steps : List Step) (origin origin' : Option Origin)
    (s s' : Scalar) :
    assign v (step :: steps) (.scalar origin s) = assign v (step :: steps) (.scalar origin' s') := by
  cases step with
  | position n =>
    rw [assign, assign]
    rfl
  | field name =>
    cases steps with
    | nil =>
      rw [assign, assign]
      rfl
    | cons next steps => simp only [assign, Value.toEntries]

/-- Putting a value behind a path leaves a normal tree normal, whatever the path leads through. -/
theorem normal_assign {parent : Value} (h : parent.Normal) (v : Value) (step : Step)
    (steps : List Step) : (assign v (step :: steps) parent).Normal := by
  induction steps generalizing step parent with
  | nil =>
    cases step with
    | field name =>
      rw [assign]
      exact normal_mergeField h.toEntries name v
    | position n =>
      rw [assign]
      exact normal_changeItem n _ parent
  | cons next steps ih =>
    cases step with
    | field name =>
      rw [assign]
      · exact h.toEntries.insertEntry _ (ih (h.toEntries.getD _ (.scalar none .null)) next)
      · intro hnil
        cases hnil
    | position n =>
      rw [assign]
      exact normal_changeItem n _ parent

/-- Merging a source into a normal root leaves it normal. -/
theorem normal_mergeSource {root : Entries} (h : (Value.table root).Normal) (source : Entries) :
    (Value.table (mergeSource root source)).Normal := by
  refine List.foldlRecOn source _ (motive := fun root => (Value.table root).Normal) h ?_
  intro root hroot entry _
  exact (normal_assign hroot entry.2 _ _).toEntries

/-- What is merged is in normal form. -/
theorem normal_mergeSources (sources : List Entries) :
    (Value.table (mergeSources sources)).Normal := by
  refine List.foldlRecOn sources _ (motive := fun root => (Value.table root).Normal) .empty ?_
  intro root hroot source _
  exact normal_mergeSource hroot source

end GrantConfig.Layer
