import GrantConfig.SortedMap
import Mathlib.Data.List.Find
import Mathlib.Data.List.Forall2
import Mathlib.Data.Option.Basic

/-!
# Lists of entries as maps

A list of entries without a repeated key is determined by the values under its keys, up to order,
and in ascending order it is determined altogether. Putting the entries of such a list into another
one gives the entries of the list wherever it has a key, and those of the other one elsewhere.
-/

namespace GrantConfig

variable {α β : Type}

/-- No key stands twice. -/
abbrev DistinctKeys (entries : List (String × α)) : Prop :=
  entries.Pairwise fun a b => a.1 ≠ b.1

/-- Ascending keys are distinct. -/
theorem Ascending.distinctKeys {entries : List (String × α)} (h : Ascending entries) :
    DistinctKeys entries := by
  refine h.imp ?_
  intro a b hlt heq
  rw [heq] at hlt
  exact String.lt_irrefl _ hlt

/-- A value under a key belongs to an entry. -/
theorem mem_of_lookup {key : String} {value : α} {entries : List (String × α)}
    (h : List.lookup key entries = some value) : (key, value) ∈ entries := by
  obtain ⟨before, after, rfl, _⟩ := List.lookup_eq_some_iff.mp h
  exact List.mem_append_right _ List.mem_cons_self

/-- Among distinct keys, every entry is the one that is found under its key. -/
theorem lookup_of_mem {key : String} {value : α} {entries : List (String × α)}
    (hdistinct : DistinctKeys entries) (h : (key, value) ∈ entries) :
    List.lookup key entries = some value := by
  induction entries with
  | nil => simp at h
  | cons first rest ih =>
    obtain ⟨k, v⟩ := first
    have hrest := List.pairwise_cons.mp hdistinct
    rw [lookup_cons_eq_ite]
    rcases List.mem_cons.mp h with heq | hmem
    · cases heq
      exact if_pos rfl
    · rw [if_neg fun hkey => hrest.1 _ hmem hkey.symm]
      exact ih hrest.2 hmem

/-- The keys are those that have a value. -/
theorem mem_keys_iff {key : String} {entries : List (String × α)} :
    key ∈ entries.map Prod.fst ↔ ∃ value, List.lookup key entries = some value := by
  constructor
  · intro h
    obtain ⟨entry, hentry, rfl⟩ := List.mem_map.mp h
    exact Option.isSome_iff_exists.mp
      (List.lookup_isSome_iff.mpr ⟨entry, hentry, beq_self_eq_true entry.1⟩)
  · intro h
    obtain ⟨value, hvalue⟩ := h
    exact List.mem_map.mpr ⟨(key, value), mem_of_lookup hvalue, rfl⟩

/-- A key is missing exactly when there is no value under it. -/
theorem not_mem_keys_iff {key : String} {entries : List (String × α)} :
    key ∉ entries.map Prod.fst ↔ List.lookup key entries = none := by
  rw [mem_keys_iff, ← Option.ne_none_iff_exists', not_not]

/-- Distinct keys and the values under them determine the entries up to order. -/
theorem DistinctKeys.perm_of_lookup {entries others : List (String × α)}
    (h : DistinctKeys entries) (hothers : DistinctKeys others)
    (hvalues : ∀ key, List.lookup key entries = List.lookup key others) : entries.Perm others := by
  have hnodup {entries : List (String × α)} (h : DistinctKeys entries) : entries.Nodup :=
    h.imp fun hne heq => hne (congrArg Prod.fst heq)
  refine (List.perm_ext_iff_of_nodup (hnodup h) (hnodup hothers)).mpr fun entry => ?_
  obtain ⟨key, value⟩ := entry
  constructor
  · intro hmem
    exact mem_of_lookup ((hvalues key).symm.trans (lookup_of_mem h hmem))
  · intro hmem
    exact mem_of_lookup ((hvalues key).trans (lookup_of_mem hothers hmem))

/-- Among distinct keys, the first one does not stand behind. -/
theorem lookup_tail {key : String} {value : α} {rest : List (String × α)}
    (h : DistinctKeys ((key, value) :: rest)) : List.lookup key rest = none := by
  refine List.lookup_eq_none_iff.mpr fun entry hentry => bne_iff_ne.mpr ?_
  exact (List.pairwise_cons.mp h).1 entry hentry

/-- The first entry does not matter under another key. -/
theorem lookup_cons_of_ne {key other : String} (value : α) (rest : List (String × α))
    (h : other ≠ key) : List.lookup other ((key, value) :: rest) = List.lookup other rest := by
  rw [lookup_cons_eq_ite, if_neg h]

/-- The value under a key is that of the first entry with the key. -/
theorem lookup_eq_find? (key : String) (entries : List (String × α)) :
    List.lookup key entries = (entries.find? fun entry => entry.1 = key).map Prod.snd := by
  induction entries with
  | nil => rfl
  | cons first rest ih =>
    obtain ⟨k, v⟩ := first
    by_cases h : key = k
    · rw [lookup_cons_eq_ite, if_pos h, List.find?_cons_of_pos (by simpa using h.symm)]
      rfl
    · rw [lookup_cons_eq_ite, if_neg h, List.find?_cons_of_neg (by simpa using Ne.symm h), ih]

/-- Leaving out entries of other keys does not change the value under a key. -/
theorem lookup_filter {key : String} {p : String × α → Bool} {entries : List (String × α)}
    (h : ∀ entry ∈ entries, entry.1 = key → p entry = true) :
    List.lookup key (entries.filter p) = List.lookup key entries := by
  rw [lookup_eq_find?, lookup_eq_find?, List.find?_filter]
  refine congrArg _ (List.find?_congr fun entry hentry => ?_)
  by_cases hkey : entry.1 = key
  · simp [hkey, h entry hentry hkey]
  · simp [hkey]

/-- Values change with their entries. -/
theorem lookup_map (f : String → α → β) (key : String) (entries : List (String × α)) :
    List.lookup key (entries.map fun entry => (entry.1, f entry.1 entry.2)) =
      (List.lookup key entries).map (f key) := by
  induction entries with
  | nil => rfl
  | cons first rest ih =>
    obtain ⟨k, v⟩ := first
    rw [List.map_cons, lookup_cons_eq_ite, lookup_cons_eq_ite, ih]
    split
    · next hkey =>
      subst hkey
      rfl
    · rfl

/-- Of related options, both have a value or none has. -/
theorem isSome_eq_of_rel {r : α → β → Prop} {x : Option α} {y : Option β}
    (h : Option.Rel r x y) : x.isSome = y.isSome := by
  cases h <;> rfl

/-- Ascending entries with values in relation under every key go in pairs. -/
theorem Ascending.forall₂ {r : String → α → β → Prop} {entries : List (String × α)}
    {others : List (String × β)} (h : Ascending entries) (hothers : Ascending others)
    (hvalues : ∀ key, Option.Rel (r key) (List.lookup key entries) (List.lookup key others)) :
    List.Forall₂ (fun entry other => entry.1 = other.1 ∧ r entry.1 entry.2 other.2)
      entries others := by
  induction entries generalizing others with
  | nil =>
    cases others with
    | nil => exact .nil
    | cons first rest =>
      have hfirst := hvalues first.1
      rw [List.lookup_cons_self] at hfirst
      cases hfirst
  | cons first rest ih =>
    obtain ⟨k, v⟩ := first
    cases others with
    | nil =>
      have hfirst := hvalues k
      rw [List.lookup_cons_self] at hfirst
      cases hfirst
    | cons second more =>
      obtain ⟨l, w⟩ := second
      have hrest := List.pairwise_cons.mp h
      have hmore := List.pairwise_cons.mp hothers
      -- The lower of the two first keys would be missing in the other list.
      obtain ⟨x, hx⟩ := Option.isSome_iff_exists.mp
        ((isSome_eq_of_rel (hvalues k)).symm.trans (congrArg _ List.lookup_cons_self))
      obtain ⟨y, hy⟩ := Option.isSome_iff_exists.mp
        ((isSome_eq_of_rel (hvalues l)).trans (congrArg _ List.lookup_cons_self))
      have hkey : k = l := by
        rcases List.mem_cons.mp (mem_of_lookup hx) with heq | hk
        · exact congrArg Prod.fst heq
        rcases List.mem_cons.mp (mem_of_lookup hy) with heq | hl
        · exact (congrArg Prod.fst heq).symm
        exact absurd (String.lt_trans (hmore.1 _ hk) (hrest.1 _ hl)) (String.lt_irrefl _)
      subst hkey
      have hvalue := hvalues k
      rw [List.lookup_cons_self, List.lookup_cons_self] at hvalue
      cases hvalue with
      | some hvalue =>
        refine .cons ⟨rfl, hvalue⟩ (ih hrest.2 hmore.2 fun key => ?_)
        by_cases hne : key = k
        · subst hne
          rw [lookup_tail h.distinctKeys, lookup_tail hothers.distinctKeys]
          exact .none
        · have hothers := hvalues key
          rwa [lookup_cons_of_ne _ _ hne, lookup_cons_of_ne _ _ hne] at hothers

/-- Ascending entries are determined by the values under all keys. -/
theorem Ascending.ext {entries others : List (String × α)} (h : Ascending entries)
    (hothers : Ascending others) (hvalues : ∀ key, List.lookup key entries = List.lookup key others) :
    entries = others := by
  have hpairs := h.forall₂ (r := fun _ => Eq) hothers fun key => by
    rw [hvalues key]
    cases List.lookup key others with
    | none => exact .none
    | some v => exact .some rfl
  have hequal : List.Forall₂ (· = ·) entries others :=
    hpairs.imp fun {entry other} hpair => Prod.ext hpair.1 hpair.2
  rwa [List.forall₂_eq_eq_eq] at hequal

/-- A key that is not there yet adds one entry. -/
theorem insertEntry_perm {key : String} (value : α) {entries : List (String × α)}
    (h : List.lookup key entries = none) :
    (insertEntry key value entries).Perm ((key, value) :: entries) := by
  induction entries with
  | nil => exact List.Perm.refl _
  | cons first rest ih =>
    obtain ⟨k, v⟩ := first
    rw [lookup_cons_eq_ite] at h
    split at h
    · cases h
    · next hne =>
      rw [insertEntry, if_neg hne]
      split
      · exact List.Perm.refl _
      · exact ((ih h).cons (k, v)).trans (List.Perm.swap (key, value) (k, v) rest)

/-- An entry with a new key keeps the keys distinct. -/
theorem distinctKeys_insertEntry {key : String} (value : α) {entries : List (String × α)}
    (h : DistinctKeys entries) (hnone : List.lookup key entries = none) :
    DistinctKeys (insertEntry key value entries) := by
  refine (insertEntry_perm value hnone).symm.pairwise (List.Pairwise.cons ?_ h) Ne.symm
  intro entry hentry
  exact bne_iff_ne.mp (List.lookup_eq_none_iff.mp hnone entry hentry)

/-- Entries put one after the other into others. -/
def insertEach (base entries : List (String × α)) : List (String × α) :=
  entries.foldl (fun acc entry => insertEntry entry.1 entry.2 acc) base

/-- Entries that are put in one by one stand in ascending order. -/
theorem ascending_insertEach {base : List (String × α)} (h : Ascending base)
    (entries : List (String × α)) : Ascending (insertEach base entries) := by
  induction entries generalizing base with
  | nil => exact h
  | cons first rest ih => exact ih (ascending_insertEntry first.1 first.2 h)

/-- Entries with distinct keys that are put into others win wherever they have a key. -/
theorem lookup_insertEach {entries : List (String × α)} (h : DistinctKeys entries) (key : String)
    (base : List (String × α)) :
    List.lookup key (insertEach base entries) = (List.lookup key entries).or (List.lookup key base) := by
  induction entries generalizing base with
  | nil => rfl
  | cons first rest ih =>
    obtain ⟨k, v⟩ := first
    have hrest := List.pairwise_cons.mp h
    have hstep : insertEach base ((k, v) :: rest) = insertEach (insertEntry k v base) rest := rfl
    rw [hstep, ih hrest.2]
    by_cases hkey : key = k
    · subst hkey
      rw [List.lookup_cons_self, lookup_insertEntry_self, lookup_tail h]
      rfl
    · rw [lookup_cons_of_ne _ _ hkey, lookup_insertEntry_of_ne _ _ hkey]

/-- Entries with distinct keys that are put into nothing are only brought into order. -/
theorem insertEach_nil_perm {entries : List (String × α)} (h : DistinctKeys entries) :
    (insertEach [] entries).Perm entries := by
  have hascending : Ascending (insertEach [] entries) := ascending_insertEach List.Pairwise.nil _
  refine hascending.distinctKeys.perm_of_lookup h fun key => ?_
  rw [lookup_insertEach h]
  exact Option.or_none

/-- Entries with distinct keys that are put into nothing are all there, and nothing else is. -/
theorem mem_insertEach_nil {entries : List (String × α)} (h : DistinctKeys entries)
    {entry : String × α} : entry ∈ insertEach [] entries ↔ entry ∈ entries :=
  (insertEach_nil_perm h).mem_iff

/-- Entries that are put into nothing stand among those that were given. -/
theorem mem_of_mem_insertEach_nil {entries : List (String × α)} {entry : String × α}
    (h : entry ∈ insertEach [] entries) : entry ∈ entries := by
  have hall : ∀ e ∈ insertEach [] entries, e ∈ entries := by
    refine List.foldlRecOn entries (fun acc entry => insertEntry entry.1 entry.2 acc)
      (motive := fun acc : List (String × α) => ∀ e ∈ acc, e ∈ entries) (List.forall_mem_nil _) ?_
    intro acc hacc first hfirst e he
    rcases mem_insertEntry he with rfl | hmem
    · exact hfirst
    · exact hacc e hmem
  exact hall entry h

/-- The value under a key is decided by the entries of that key. -/
theorem lookup_insertEach_eq (key : String) (base entries : List (String × α)) :
    List.lookup key (insertEach base entries) =
      ((entries.filter fun entry => entry.1 = key).getLast?.map Prod.snd).or
        (List.lookup key base) := by
  induction entries generalizing base with
  | nil => rfl
  | cons first rest ih =>
    have hstep : insertEach base (first :: rest) =
        insertEach (insertEntry first.1 first.2 base) rest := rfl
    rw [hstep, ih]
    by_cases hkey : first.1 = key
    · subst hkey
      rw [List.filter_cons_of_pos (by simp), lookup_insertEntry_self, List.getLast?_cons]
      cases (rest.filter fun entry => entry.1 = first.1).getLast? <;> rfl
    · rw [List.filter_cons_of_neg (by simpa using hkey),
        lookup_insertEntry_of_ne _ _ (Ne.symm hkey)]

/-- Every key of a list stands among the entries that it fills. -/
theorem mem_keys_insertEach_nil {key : String} {value : α} {entries : List (String × α)}
    (h : (key, value) ∈ entries) : key ∈ (insertEach [] entries).map Prod.fst := by
  by_contra hnone
  have hvalue := not_mem_keys_iff.mp hnone
  rw [lookup_insertEach_eq, Option.or_eq_none_iff, Option.map_eq_none_iff,
    List.getLast?_eq_none_iff, List.filter_eq_nil_iff] at hvalue
  simpa using hvalue.1 (key, value) h

/-- A key that comes with one value only has that value. -/
theorem lookup_insertEach_nil_of_mem {key : String} {value : α} {entries : List (String × α)}
    (h : (key, value) ∈ entries) (hsame : ∀ entry ∈ entries, entry.1 = key → entry.2 = value) :
    List.lookup key (insertEach [] entries) = some value := by
  obtain ⟨entry, hentry, hkey⟩ := List.mem_map.mp (mem_keys_insertEach_nil h)
  have hvalue := hsame entry (mem_of_mem_insertEach_nil hentry) hkey
  rw [← hkey, ← hvalue]
  exact lookup_of_mem (ascending_insertEach List.Pairwise.nil _).distinctKeys hentry

/-- A key that is left out has no value, and the others keep theirs. -/
theorem lookup_filter_key (p : String → Bool) (key : String) (entries : List (String × α)) :
    List.lookup key (entries.filter fun entry => p entry.1) =
      if p key then List.lookup key entries else none := by
  split
  · next hp => exact lookup_filter fun entry _ hentry => by rw [hentry, hp]
  · next hp =>
    refine List.lookup_eq_none_iff.mpr fun entry hentry => bne_iff_ne.mpr fun heq => hp ?_
    rw [heq]
    exact (List.mem_filter.mp hentry).2

/-- Leaving out keys before entries are put into nothing or afterwards is the same. -/
theorem filter_insertEach_nil (p : String → Bool) (entries : List (String × α)) :
    (insertEach [] entries).filter (fun entry => p entry.1) =
      insertEach [] (entries.filter fun entry => p entry.1) := by
  have hnil {entries : List (String × α)} : Ascending (insertEach [] entries) :=
    ascending_insertEach List.Pairwise.nil _
  refine Ascending.ext (hnil.filter _) hnil fun key => ?_
  rw [lookup_filter_key, lookup_insertEach_eq, lookup_insertEach_eq, List.filter_filter]
  split
  · next hp =>
    have hkept : (entries.filter fun entry => entry.1 = key) =
        entries.filter fun entry => decide (entry.1 = key) && p entry.1 := by
      refine List.filter_congr fun entry _ => ?_
      by_cases hkey : entry.1 = key
      · simp [hkey, hp]
      · simp [hkey]
    rw [hkept]
  · next hp =>
    have hnone : (entries.filter fun entry => decide (entry.1 = key) && p entry.1) = [] := by
      refine List.filter_eq_nil_iff.mpr fun entry _ hboth => hp ?_
      simp only [Bool.and_eq_true, decide_eq_true_eq] at hboth
      rw [← hboth.1]
      exact hboth.2
    rw [hnone]
    rfl

/-- Entries with distinct keys are put in as they are, up to order, from any order. -/
theorem insertEach_nil_perm_of_perm {entries others : List (String × α)} (h : DistinctKeys others)
    (hperm : entries.Perm others) : (insertEach [] entries).Perm others :=
  (insertEach_nil_perm (hperm.symm.pairwise h fun hne => Ne.symm hne)).trans hperm

/-- In a list with distinct keys, order does not matter for the values under them. -/
theorem lookup_perm {entries others : List (String × α)} (hperm : entries.Perm others)
    (h : DistinctKeys entries) (key : String) : List.lookup key entries = List.lookup key others := by
  have hothers : DistinctKeys others := hperm.pairwise h fun hne => Ne.symm hne
  cases hvalue : List.lookup key others with
  | none =>
    refine List.lookup_eq_none_iff.mpr fun entry hentry => ?_
    exact List.lookup_eq_none_iff.mp hvalue entry (hperm.mem_iff.mp hentry)
  | some v => exact lookup_of_mem h (hperm.mem_iff.mpr (mem_of_lookup hvalue))

/-- The order of ascending entries is the only one that ascends. -/
theorem Ascending.eq_of_perm {entries others : List (String × α)} (h : Ascending entries)
    (hothers : Ascending others) (hperm : entries.Perm others) : entries = others :=
  h.ext hothers fun key => lookup_perm hperm h.distinctKeys key

/-- Of two different keys, one comes first. -/
theorem lt_of_not_lt {key other : String} (h : ¬key < other) (hne : key ≠ other) : other < key :=
  Std.lt_of_le_of_ne (String.not_lt.1 h) (Ne.symm hne)

/-- Entries with different keys may be put in in either order. -/
theorem insertEntry_comm_of_lt {key other : String} (h : key < other) (v w : α)
    (entries : List (String × α)) :
    insertEntry key v (insertEntry other w entries) =
      insertEntry other w (insertEntry key v entries) := by
  have hnot : ¬ other < key := String.lt_asymm h
  have hne : other ≠ key := fun heq => String.lt_irrefl key (heq ▸ h)
  induction entries with
  | nil => simp [insertEntry, h, hnot, hne]
  | cons first rest ih =>
    obtain ⟨k, x⟩ := first
    by_cases hlt : other < k
    · have hkey := String.lt_trans h hlt
      simp [insertEntry, h, hnot, hne, hlt, hkey]
    by_cases hk : other = k
    · subst hk
      simp [insertEntry, h, hnot, hne]
    by_cases hkey : key < k
    · simp [insertEntry, hlt, hk, hkey, hnot, hne]
    by_cases hsame : key = k
    · subst hsame
      simp [insertEntry, hlt, hk]
    · simp [insertEntry, hlt, hk, hkey, hsame, ih]

/-- Different keys may be put into entries in either order. -/
theorem insertEntry_comm {key other : String} (h : key ≠ other) (v w : α)
    (entries : List (String × α)) :
    insertEntry key v (insertEntry other w entries) =
      insertEntry other w (insertEntry key v entries) := by
  by_cases hlt : key < other
  · exact insertEntry_comm_of_lt hlt v w entries
  · exact (insertEntry_comm_of_lt (lt_of_not_lt hlt h) w v entries).symm

/-- Of two values put under one key, the later one stays. -/
theorem insertEntry_insertEntry_self (key : String) (v w : α) (entries : List (String × α)) :
    insertEntry key v (insertEntry key w entries) = insertEntry key v entries := by
  induction entries with
  | nil => simp [insertEntry]
  | cons first rest ih =>
    obtain ⟨k, x⟩ := first
    by_cases hlt : key < k
    · simp [insertEntry, hlt]
    · by_cases hsame : key = k
      · simp [insertEntry, hsame]
      · simp [insertEntry, hlt, hsame, ih]

/-- Keys that are renamed in their order may be renamed before a value is put in or afterwards. -/
theorem map_insertEntry {f : String → String} (hf : ∀ a b, a < b → f a < f b) (key : String)
    (value : α) (entries : List (String × α)) :
    (insertEntry key value entries).map (fun entry => (f entry.1, entry.2)) =
      insertEntry (f key) value (entries.map fun entry => (f entry.1, entry.2)) := by
  induction entries with
  | nil => rfl
  | cons first rest ih =>
    obtain ⟨k, v⟩ := first
    rw [List.map_cons, insertEntry, insertEntry]
    by_cases hlt : key < k
    · rw [if_pos hlt, if_pos (hf _ _ hlt)]
      rfl
    by_cases hsame : key = k
    · subst hsame
      rw [if_neg (String.lt_irrefl _), if_neg (String.lt_irrefl _), if_pos rfl, if_pos rfl]
      rfl
    · have hgt := hf _ _ (lt_of_not_lt hlt hsame)
      have hne : f key ≠ f k := fun heq => String.lt_irrefl _ (heq ▸ hgt)
      rw [if_neg hlt, if_neg (String.lt_asymm hgt), if_neg hsame, if_neg hne, List.map_cons, ih]

/-- New keys in the same order do not change how entries are put in. -/
theorem map_insertEach {f : String → String} (hf : ∀ a b, a < b → f a < f b)
    (base entries : List (String × α)) :
    (insertEach base entries).map (fun entry => (f entry.1, entry.2)) =
      insertEach (base.map fun entry => (f entry.1, entry.2))
        (entries.map fun entry => (f entry.1, entry.2)) := by
  induction entries generalizing base with
  | nil => rfl
  | cons first rest ih =>
    have hstep : insertEach base (first :: rest) =
        insertEach (insertEntry first.1 first.2 base) rest := rfl
    rw [hstep, ih, map_insertEntry hf]
    rfl

namespace SortedMap

/-- Maps with the same value under every key are the same. -/
theorem ext_find? {m n : SortedMap α} (h : ∀ key, m.find? key = n.find? key) : m = n :=
  SortedMap.ext (Ascending.ext m.ascending n.ascending h)

/-- The entries of a map are the values under its keys. -/
theorem find?_eq_some_iff {m : SortedMap α} {key : String} {value : α} :
    m.find? key = some value ↔ (key, value) ∈ m.entries :=
  ⟨mem_of_lookup, lookup_of_mem m.ascending.distinctKeys⟩

/-- Maps that agree on some keys have the same entries with these keys. -/
theorem filter_entries_eq {m n : SortedMap α} {p : String → Bool}
    (h : ∀ key, p key = true → m.find? key = n.find? key) :
    m.entries.filter (fun entry => p entry.1) = n.entries.filter fun entry => p entry.1 := by
  refine Ascending.ext (m.ascending.filter _) (n.ascending.filter _) fun key => ?_
  rw [lookup_filter_key, lookup_filter_key]
  split
  · next hp => exact h key hp
  · rfl

/-- A map of new values has the new value under each key. -/
theorem find?_mapEntries (f : String → α → β) (m : SortedMap α) (key : String) :
    (m.mapEntries f).find? key = (m.find? key).map (f key) :=
  lookup_map f key m.entries

/-- The entries of a map that is filled from a list. -/
theorem entries_foldl_insert (entries : List (String × α)) (m : SortedMap α) :
    (entries.foldl (fun m entry => m.insert entry.1 entry.2) m).entries =
      insertEach m.entries entries := by
  induction entries generalizing m with
  | nil => rfl
  | cons first rest ih => exact ih (m.insert first.1 first.2)

/-- The map of a list has the entries that are put in one by one. -/
theorem entries_ofList (entries : List (String × α)) :
    (ofList entries).entries = insertEach [] entries := entries_foldl_insert entries ∅

/-- The value under a key of a map that is filled from a list is that of the last entry with it. -/
theorem find?_ofList_eq_some_iff {entries : List (String × α)} {key : String} {value : α} :
    (ofList entries).find? key = some value ↔
      ∃ before after, entries = before ++ (key, value) :: after ∧ ∀ entry ∈ after, entry.1 ≠ key := by
  rw [find?, entries_ofList, lookup_insertEach_eq]
  simp only [List.lookup_nil, Option.or_none, Option.map_eq_some_iff, List.getLast?_eq_some_iff]
  constructor
  · intro h
    obtain ⟨last, ⟨front, hfilter⟩, hvalue⟩ := h
    obtain ⟨before, behind, rfl, _, hbehind⟩ := List.filter_eq_append_iff.mp hfilter
    obtain ⟨between, after, rfl, _, hkey, hafter⟩ := List.filter_eq_cons_iff.mp hbehind
    obtain rfl : last = (key, value) := Prod.ext (of_decide_eq_true hkey) hvalue
    refine ⟨before ++ between, after, (List.append_assoc ..).symm, fun entry hentry => ?_⟩
    simpa using List.filter_eq_nil_iff.mp hafter entry hentry
  · intro h
    obtain ⟨before, after, rfl, hafter⟩ := h
    have hnone : (after.filter fun entry => entry.1 = key) = [] := by
      refine List.filter_eq_nil_iff.mpr fun entry hentry => ?_
      simpa using hafter entry hentry
    refine ⟨(key, value), ⟨before.filter fun entry => entry.1 = key, ?_⟩, rfl⟩
    rw [List.filter_append, List.filter_cons_of_pos (by simp), hnone]

/-- A map filled with its own entries, in whichever order they come. -/
theorem ofList_of_perm {entries : List (String × α)} {m : SortedMap α}
    (h : entries.Perm m.entries) : ofList entries = m := by
  refine SortedMap.ext (Ascending.eq_of_perm (ofList entries).ascending m.ascending ?_)
  rw [entries_ofList]
  exact insertEach_nil_perm_of_perm m.ascending.distinctKeys h

/-- What is laid over another map wins wherever it has a key. -/
theorem find?_overlay (m base : SortedMap α) (key : String) :
    (m.overlay base).find? key = (m.find? key).or (base.find? key) := by
  rw [find?, overlay, entries_foldl_insert, lookup_insertEach m.ascending.distinctKeys]
  rfl

/-- Maps that are laid over each other may be grouped in any way. -/
theorem overlay_assoc (m n base : SortedMap α) :
    (m.overlay n).overlay base = m.overlay (n.overlay base) := by
  refine ext_find? fun key => ?_
  simp only [find?_overlay, Option.or_assoc]

/-- A map that is laid over itself stays what it is. -/
theorem overlay_self (m : SortedMap α) : m.overlay m = m := by
  refine ext_find? fun key => ?_
  rw [find?_overlay, Option.or_self]

/-- A map that is laid over nothing stays what it is. -/
theorem overlay_empty (m : SortedMap α) : m.overlay ∅ = m := by
  refine ext_find? fun key => ?_
  rw [find?_overlay]
  exact Option.or_none

end SortedMap

end GrantConfig
