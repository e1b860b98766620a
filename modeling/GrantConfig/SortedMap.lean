/-!
# Maps with ascending keys

A finite map from texts to values, kept as its entries in strictly ascending key order. Texts are
ordered by code point, which is also the byte order of their encodings. The order is part of the
type, so two maps with the same entries are equal, and listing a map needs no sorting.
-/

namespace GrantConfig

/-- Entries in strictly ascending key order, hence with no key twice. -/
abbrev Ascending {α : Type} (entries : List (String × α)) : Prop :=
  entries.Pairwise fun a b => a.1 < b.1

/-- Put a value under a key, in place of an earlier value of that key. -/
def insertEntry {α : Type} (key : String) (value : α) :
    List (String × α) → List (String × α)
  | [] => [(key, value)]
  | (k, v) :: rest =>
    if key < k then (key, value) :: (k, v) :: rest
    else if key = k then (key, value) :: rest
    else (k, v) :: insertEntry key value rest

/-- The entries without those of a key. -/
def eraseEntry {α : Type} (key : String) (entries : List (String × α)) : List (String × α) :=
  entries.filter fun entry => entry.1 ≠ key

theorem mem_insertEntry {α : Type} {key : String} {value : α} {entry : String × α}
    {entries : List (String × α)} (h : entry ∈ insertEntry key value entries) :
    entry = (key, value) ∨ entry ∈ entries := by
  induction entries with
  | nil => simpa [insertEntry] using h
  | cons first rest ih =>
    obtain ⟨k, v⟩ := first
    rw [insertEntry] at h
    split at h
    · simpa using h
    · split at h
      · rcases List.mem_cons.1 h with rfl | h
        · exact .inl rfl
        · exact .inr (List.mem_cons_of_mem _ h)
      · rcases List.mem_cons.1 h with rfl | h
        · exact .inr List.mem_cons_self
        · exact (ih h).imp id (List.mem_cons_of_mem _)

/-- Insertion keeps the entries ascending. -/
theorem ascending_insertEntry {α : Type} (key : String) (value : α)
    {entries : List (String × α)} (h : Ascending entries) :
    Ascending (insertEntry key value entries) := by
  induction entries with
  | nil => simp [insertEntry, Ascending]
  | cons first rest ih =>
    obtain ⟨k, v⟩ := first
    have hrest := List.pairwise_cons.1 h
    rw [insertEntry]
    split
    · next hlt =>
      refine List.Pairwise.cons (fun e he => ?_) h
      rcases List.mem_cons.1 he with rfl | he
      · exact hlt
      · exact String.lt_trans hlt (hrest.1 e he)
    · next hnot =>
      split
      · next heq => subst heq; exact List.Pairwise.cons hrest.1 hrest.2
      · next hne =>
        refine List.Pairwise.cons (fun e he => ?_) (ih hrest.2)
        rcases mem_insertEntry he with rfl | he
        · exact Std.lt_of_le_of_ne (String.not_lt.1 hnot) (Ne.symm hne)
        · exact hrest.1 e he

/-- The value under the key of the first entry or behind it. -/
theorem lookup_cons_eq_ite {α : Type} (key k : String) (v : α) (rest : List (String × α)) :
    List.lookup key ((k, v) :: rest) = if key = k then some v else List.lookup key rest := by
  by_cases h : key = k
  · rw [if_pos h, h, List.lookup_cons_self]
  · rw [if_neg h, List.lookup_cons, beq_false_of_ne h]

/-- A value stands under the key where it has been put. -/
@[simp]
theorem lookup_insertEntry_self {α : Type} (key : String) (value : α)
    (entries : List (String × α)) : List.lookup key (insertEntry key value entries) = some value := by
  induction entries with
  | nil => simp [insertEntry]
  | cons first rest ih =>
    obtain ⟨k, v⟩ := first
    rw [insertEntry]
    split
    · simp
    · split
      · simp
      · next hne => rw [lookup_cons_eq_ite, if_neg hne, ih]

/-- The values under other keys stay what they are. -/
theorem lookup_insertEntry_of_ne {α : Type} {key other : String} (value : α)
    (entries : List (String × α)) (h : other ≠ key) :
    List.lookup other (insertEntry key value entries) = List.lookup other entries := by
  induction entries with
  | nil => simp [insertEntry, lookup_cons_eq_ite, h]
  | cons first rest ih =>
    obtain ⟨k, v⟩ := first
    rw [insertEntry]
    split
    · simp [lookup_cons_eq_ite, h]
    · split
      · next heq => subst heq; simp [lookup_cons_eq_ite, h]
      · simp [lookup_cons_eq_ite, ih]

/-- A finite map whose entries stand in strictly ascending key order. -/
structure SortedMap (α : Type) where
  entries : List (String × α)
  ascending : Ascending entries

namespace SortedMap

variable {α β : Type}

@[ext]
theorem ext {m n : SortedMap α} (h : m.entries = n.entries) : m = n := by
  obtain ⟨_, _⟩ := m
  obtain ⟨_, _⟩ := n
  cases h
  rfl

instance [DecidableEq α] : DecidableEq (SortedMap α) := fun m n =>
  decidable_of_iff (m.entries = n.entries) ⟨ext, fun h => h ▸ rfl⟩

/-- The map without entries. -/
def empty : SortedMap α := ⟨[], List.Pairwise.nil⟩

instance : EmptyCollection (SortedMap α) := ⟨empty⟩

instance : Inhabited (SortedMap α) := ⟨empty⟩

/-- The map with a value put under a key, in place of an earlier one. -/
def insert (m : SortedMap α) (key : String) (value : α) : SortedMap α :=
  ⟨insertEntry key value m.entries, ascending_insertEntry key value m.ascending⟩

/-- The map without a key. -/
def erase (m : SortedMap α) (key : String) : SortedMap α :=
  ⟨eraseEntry key m.entries, m.ascending.filter _⟩

/-- The value under a key. -/
def find? (m : SortedMap α) (key : String) : Option α := m.entries.lookup key

/-- The keys in ascending order. -/
def keys (m : SortedMap α) : List String := m.entries.map Prod.fst

/-- The map of a list of entries, where a later entry wins over an earlier one of its key. -/
def ofList (entries : List (String × α)) : SortedMap α :=
  entries.foldl (fun m entry => m.insert entry.1 entry.2) empty

/-- The entries of `m` laid over those of `base`. -/
def overlay (m base : SortedMap α) : SortedMap α :=
  m.entries.foldl (fun acc entry => acc.insert entry.1 entry.2) base

/-- The same keys with every value replaced by a function of its entry. -/
def mapEntries (f : String → α → β) (m : SortedMap α) : SortedMap β where
  entries := m.entries.map fun entry => (entry.1, f entry.1 entry.2)
  ascending := List.pairwise_map.2 m.ascending

@[simp]
theorem find?_insert_self (m : SortedMap α) (key : String) (value : α) :
    (m.insert key value).find? key = some value :=
  lookup_insertEntry_self key value m.entries

theorem find?_insert_of_ne (m : SortedMap α) {key other : String} (value : α) (h : other ≠ key) :
    (m.insert key value).find? other = m.find? other :=
  lookup_insertEntry_of_ne value m.entries h

@[simp]
theorem keys_mapEntries (f : String → α → β) (m : SortedMap α) :
    (m.mapEntries f).keys = m.keys := by
  simp [keys, mapEntries, Function.comp_def]

end SortedMap

end GrantConfig
