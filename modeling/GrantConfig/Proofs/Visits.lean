import GrantConfig.Layer.Visits
import GrantConfig.Proofs.DocumentWrites
import GrantConfig.Proofs.Sources
import Mathlib.Data.List.Perm.Subperm

/-!
# Documents and variables in any order

Gone through in another order, a document writes the same in another order. What comes out of a map
that is filled in any order is any list that has one of the given entries for each key. To gather
variables in two steps, by their normalized names and then by their key paths, brings forth the same as
to gather them by their key paths at once.
-/

namespace GrantConfig

open Layer

namespace Layer

/-! ## Documents -/

mutual

/-- In another order, a value writes the same. -/
theorem Value.Visited.writes_perm : ∀ {v w : Value}, v.Visited w → v.writes.Perm w.writes
  | _, _, .same v => List.Perm.refl _
  | _, _, .table below order => by
    rw [Value.writes, Value.writes]
    refine (below.writes_perm.trans ?_).cons _
    rw [entriesWrites_eq, entriesWrites_eq]
    exact order.flatMap_right _

/-- So do entries. -/
theorem EntriesVisited.writes_perm :
    ∀ {entries visited : Entries}, EntriesVisited entries visited →
      (entriesWrites entries).Perm (entriesWrites visited)
  | _, _, .nil => List.Perm.refl _
  | _, _, .cons key first others => by
    rw [entriesWrites, entriesWrites]
    exact (first.writes_perm.map _).append others.writes_perm

end

/-- A way ends in a list exactly when the steps of its key do. -/
theorem endsInList_wayOf (key : String) :
    endsInList (wayOf key) = endsInList (KeyPath.ofKey key).steps := by
  rw [wayOf, endsInList_map_lower]
  cases (KeyPath.ofKey key).steps with
  | nil => rfl
  | cons step steps => rw [endsInList, endsInList, List.getLast?_cons_cons]

/-- In another order, an entry of a document writes the same. -/
theorem EntryVisited.writes_perm {entry visited : String × Value} (h : EntryVisited entry visited) :
    (entryWrites entry).Perm (entryWrites visited) := by
  rw [entryWrites, entryWrites, ← h.key, endsInList_wayOf]
  by_cases hlist : endsInList (KeyPath.ofKey entry.1).steps = true
  · rw [h.inList hlist]
  · simp only [if_neg hlist]
    exact h.value.writes_perm.map _

/-- In another order, a document writes the same. -/
theorem DocumentVisited.writes_perm {document visited : Entries}
    (h : DocumentVisited document visited) :
    (documentWrites document).Perm (documentWrites visited) := by
  obtain ⟨between, hpairs, hperm⟩ := h
  refine List.Perm.trans ?_ (hperm.flatMap_right _)
  clear hperm
  induction hpairs with
  | nil => exact List.Perm.refl _
  | cons hentry _ ih => exact hentry.writes_perm.append ih

/-- Entries may be gone through as they are. -/
theorem EntriesVisited.refl (entries : Entries) : EntriesVisited entries entries := by
  induction entries with
  | nil => exact .nil
  | cons first rest ih => exact .cons first.1 (.same first.2) ih

/-- An entry of a document may be gone through as it is. -/
theorem EntryVisited.refl (entry : String × Value) : EntryVisited entry entry :=
  ⟨rfl, .same _, fun _ => rfl⟩

/-- A document may be gone through as it is. -/
theorem DocumentVisited.refl (document : Entries) : DocumentVisited document document :=
  ⟨document, List.forall₂_same.mpr fun entry _ => .refl entry, List.Perm.refl _⟩

/-- Entries that are gone through, one by one. -/
theorem entriesVisited_iff {entries visited : Entries} :
    EntriesVisited entries visited ↔
      List.Forall₂ (fun entry other => entry.1 = other.1 ∧ entry.2.Visited other.2) entries visited := by
  constructor
  · intro h
    induction entries generalizing visited with
    | nil =>
      cases h
      exact .nil
    | cons entry rest ih =>
      cases h with
      | cons key first others => exact .cons ⟨rfl, first⟩ (ih others)
  · intro h
    induction h with
    | nil => exact .nil
    | @cons entry other rest more hfirst _ ih =>
      obtain ⟨key, v⟩ := entry
      obtain ⟨_, w⟩ := other
      obtain ⟨rfl, hvalue⟩ := hfirst
      exact .cons key hvalue ih

/-- Entries whose values are gone through may come in another order before or after. -/
theorem EntriesVisited.of_perm {entries others visited : Entries} (hperm : entries.Perm others)
    (h : EntriesVisited others visited) :
    ∃ between, EntriesVisited entries between ∧ between.Perm visited := by
  obtain ⟨between, hpairs, horder⟩ := List.perm_comp_forall₂ hperm (entriesVisited_iff.mp h)
  exact ⟨between, entriesVisited_iff.mpr hpairs, horder⟩

mutual

/-- A value comes from each order of its entries as each order comes from it. -/
theorem Value.Visited.symm : ∀ {v w : Value}, v.Visited w → w.Visited v
  | _, _, .same v => .same v
  | _, _, .table below order => by
    obtain ⟨between, hbelow, horder⟩ := below.symm.of_perm order.symm
    exact .table hbelow horder

/-- So do entries. -/
theorem EntriesVisited.symm : ∀ {entries visited : Entries},
    EntriesVisited entries visited → EntriesVisited visited entries
  | _, _, .nil => .nil
  | _, _, .cons key first others => .cons key first.symm others.symm

end

mutual

/-- Another order of another order is another order. -/
theorem Value.Visited.trans : ∀ {v w x : Value}, v.Visited w → w.Visited x → v.Visited x
  | _, _, _, .same _, h => h
  | _, _, _, .table below order, .same _ => .table below order
  | _, _, _, .table below order, .table below' order' => by
    obtain ⟨between, hbelow, horder⟩ := below'.of_perm order
    exact .table (below.trans hbelow) (horder.trans order')

/-- So it is for entries. -/
theorem EntriesVisited.trans : ∀ {entries visited again : Entries}, EntriesVisited entries visited →
    EntriesVisited visited again → EntriesVisited entries again
  | _, _, _, .nil, .nil => .nil
  | _, _, _, .cons key first others, .cons _ first' others' =>
    .cons key (first.trans first') (others.trans others')

end

/-- An entry of a document comes from each of its orders. -/
theorem EntryVisited.symm {entry visited : String × Value} (h : EntryVisited entry visited) :
    EntryVisited visited entry where
  key := h.key.symm
  value := h.value.symm
  inList := fun hlist => (h.inList (h.key ▸ hlist)).symm

/-- Another order of another order of it is another order. -/
theorem EntryVisited.trans {entry visited again : String × Value} (h : EntryVisited entry visited)
    (h' : EntryVisited visited again) : EntryVisited entry again where
  key := h.key.trans h'.key
  value := h.value.trans h'.value
  inList := fun hlist => (h.inList hlist).trans (h'.inList (h.key ▸ hlist))

/-- A document comes from each of its orders as each of them comes from it. -/
theorem DocumentVisited.symm {document visited : Entries} (h : DocumentVisited document visited) :
    DocumentVisited visited document := by
  obtain ⟨between, hpairs, horder⟩ := h
  exact List.perm_comp_forall₂ horder.symm (hpairs.flip.imp fun _ _ h => h.symm)

/-- Another order of another order of a document is another order of it. -/
theorem DocumentVisited.trans {document visited again : Entries} (h : DocumentVisited document visited)
    (h' : DocumentVisited visited again) : DocumentVisited document again := by
  obtain ⟨between, hpairs, horder⟩ := h
  obtain ⟨between', hpairs', horder'⟩ := h'
  obtain ⟨between'', hpairs'', horder''⟩ := List.perm_comp_forall₂ horder hpairs'
  refine ⟨between'', ?_, horder''.trans horder'⟩
  clear horder horder' horder'' hpairs'
  induction hpairs generalizing between'' with
  | nil =>
    cases hpairs''
    exact .nil
  | cons hfirst _ ih =>
    cases hpairs'' with
    | cons hnext hrest => exact .cons (hfirst.trans hnext) (ih _ hrest)

/-- Entries that come in another order, each with the one that it comes from. -/
theorem EntriesVisited.exists_of_mem : ∀ {entries visited : Entries}, EntriesVisited entries visited →
    ∀ entry ∈ visited, ∃ v, (entry.1, v) ∈ entries ∧ v.Visited entry.2
  | _, _, .nil => List.forall_mem_nil _
  | _, _, .cons key first others => by
    refine List.forall_mem_cons.mpr ⟨⟨_, List.mem_cons_self, first⟩, fun entry hentry => ?_⟩
    obtain ⟨v, hv, hvisited⟩ := others.exists_of_mem entry hentry
    exact ⟨v, List.mem_cons_of_mem _ hv, hvisited⟩

/-- The entries of a document in another order, each with the one that it comes from. -/
theorem DocumentVisited.exists_of_mem {document visited : Entries}
    (h : DocumentVisited document visited) :
    ∀ entry ∈ visited, ∃ given ∈ document, EntryVisited given entry := by
  obtain ⟨between, hpairs, hperm⟩ := h
  intro entry hentry
  replace hentry := hperm.mem_iff.mpr hentry
  clear hperm
  induction hpairs with
  | nil => cases hentry
  | cons hpair _ ih =>
    rcases List.mem_cons.mp hentry with rfl | hrest
    · exact ⟨_, List.mem_cons_self, hpair⟩
    · obtain ⟨given, hgiven, hvisited⟩ := ih hrest
      exact ⟨given, List.mem_cons_of_mem _ hgiven, hvisited⟩

/-- Documents that are gone through in another order but write what does not meet are merged alike. -/
theorem Uncollapsed.mergeSource_visited {document visited : Entries} (h : Uncollapsed document)
    (hvisited : DocumentVisited document visited) (root : Entries) :
    mergeSource root document = mergeSource root visited :=
  h.mergeSource_eq hvisited.writes_perm root

/-! ## Maps -/

section

variable {α : Type}

/-- Entries that are put in last stay in the map. -/
theorem insertEach_append (base entries more : List (String × α)) :
    insertEach base (entries ++ more) = insertEach (insertEach base entries) more :=
  List.foldl_append

/-- Any of the given entries may be those that stay, as long as their keys are distinct. -/
theorem exists_collected {given kept : List (String × α)} (hdistinct : DistinctKeys kept)
    (hgiven : ∀ entry ∈ kept, entry ∈ given) :
    ∃ visited, Collected given visited ∧ ∀ entry ∈ kept, entry ∈ visited := by
  have hnodup : kept.Nodup := hdistinct.imp fun hne heq => hne (congrArg Prod.fst heq)
  obtain ⟨stay, hstay, hsublist⟩ := List.subperm_of_subset hnodup hgiven
  obtain ⟨others, hothers⟩ := hsublist.exists_perm_append
  have horder : (others ++ kept).Perm given :=
    (hothers.trans ((hstay.append_right others).trans List.perm_append_comm)).symm
  refine ⟨_, ⟨_, horder, List.Perm.refl _⟩, fun entry hentry => mem_of_lookup ?_⟩
  rw [SortedMap.entries_ofList, insertEach_append, lookup_insertEach hdistinct,
    lookup_of_mem hdistinct hentry, Option.some_or]

/-- What comes out of a map are entries with distinct keys, one for each key that is put in. -/
theorem collected_iff {given visited : List (String × α)} :
    Collected given visited ↔
      DistinctKeys visited ∧ (∀ entry ∈ visited, entry ∈ given) ∧
        ∀ entry ∈ given, entry.1 ∈ visited.map Prod.fst := by
  have hsound {visited : List (String × α)} (h : Collected given visited) :
      DistinctKeys visited ∧ (∀ entry ∈ visited, entry ∈ given) ∧
        ∀ entry ∈ given, entry.1 ∈ visited.map Prod.fst := by
    obtain ⟨order, horder, hvisited⟩ := h
    rw [SortedMap.entries_ofList] at hvisited
    have hascending : Ascending (insertEach [] order) := ascending_insertEach List.Pairwise.nil _
    refine ⟨hvisited.symm.pairwise hascending.distinctKeys Ne.symm, fun entry hentry => ?_,
      fun entry hentry => ?_⟩
    · exact horder.mem_iff.mp (mem_of_mem_insertEach_nil (hvisited.mem_iff.mp hentry))
    · refine (hvisited.map Prod.fst).mem_iff.mpr ?_
      exact mem_keys_insertEach_nil (horder.mem_iff.mpr hentry)
  refine ⟨hsound, fun h => ?_⟩
  obtain ⟨hdistinct, hgiven, hkeys⟩ := h
  -- the entries that are to stay can stay, and there is no room for others
  obtain ⟨visited', hcollected, hkept⟩ := exists_collected hdistinct hgiven
  obtain ⟨hdistinct', hgiven', -⟩ := hsound hcollected
  obtain ⟨order, horder, hvisited'⟩ := hcollected
  refine ⟨order, horder, List.Perm.trans ?_ hvisited'⟩
  refine hdistinct.perm_of_lookup hdistinct' fun key => ?_
  cases hvalue : List.lookup key visited with
  | some v => exact (lookup_of_mem hdistinct' (hkept _ (mem_of_lookup hvalue))).symm
  | none =>
    rw [eq_comm, ← not_mem_keys_iff]
    intro hmem
    obtain ⟨entry, hentry, rfl⟩ := List.mem_map.mp hmem
    exact not_mem_keys_iff.mpr hvalue (hkeys entry (hgiven' entry hentry))

/-- Entries with distinct keys come out in any order. -/
theorem collected_of_perm {given visited : List (String × α)} (hdistinct : DistinctKeys given)
    (hperm : visited.Perm given) : Collected given visited := by
  refine ⟨given, List.Perm.refl _, hperm.trans ?_⟩
  rw [SortedMap.entries_ofList]
  exact (insertEach_nil_perm hdistinct).symm

end

end Layer

namespace Layer.Environment

open Settings

/-- What each of the variables of a source writes, in their order. -/
def offered (start : String) (vars : List (String × String)) : Entries :=
  (vars.filter fun var => hasStart start var.1 && hasStart start (normalizeName var.1)).map fun var =>
    (keyPath (normalizeName var.1), written var.2)

/-- What is written is written by a variable that keeps its prefix. -/
theorem mem_offered {start : String} {vars : List (String × String)} {entry : String × Value} :
    entry ∈ offered start vars ↔ ∃ var ∈ vars, hasStart start var.1 = true ∧
      hasStart start (normalizeName var.1) = true ∧
      entry = (keyPath (normalizeName var.1), written var.2) := by
  simp only [offered, List.mem_map, List.mem_filter, Bool.and_eq_true, and_assoc,
    @eq_comm _ entry]

/-- What is gathered first are the variables of the prefix. -/
theorem mem_renamed {start : String} {vars : List (String × String)} {entry : String × String} :
    entry ∈ renamed start vars ↔
      ∃ var ∈ vars, hasStart start var.1 = true ∧ entry = (normalizeName var.1, var.2) := by
  simp only [renamed, List.mem_map, List.mem_filter, and_assoc, @eq_comm _ entry]

/-- What is gathered then are those that keep it under their normalized names. -/
theorem mem_pathed {start : String} {vars : List (String × String)} {entry : String × Value} :
    entry ∈ pathed start vars ↔
      ∃ var ∈ vars, hasStart start var.1 = true ∧ entry = (keyPath var.1, written var.2) := by
  simp only [pathed, written, List.mem_map, List.mem_filter, and_assoc, @eq_comm _ entry]

/-- Variables write any list that has one of the values that are offered for each key path. -/
theorem written_iff {start : String} {vars : SortedMap String} {writes : Entries} :
    Written start vars writes ↔ Collected (offered start vars.entries) writes := by
  constructor
  · intro h
    obtain ⟨normal, hnormal, hwrites⟩ := h
    obtain ⟨_, hgiven, hkeys⟩ := collected_iff.mp hnormal
    obtain ⟨hdistinct, hgiven', hkeys'⟩ := collected_iff.mp hwrites
    refine collected_iff.mpr ⟨hdistinct, fun entry hentry => ?_, fun entry hentry => ?_⟩
    · obtain ⟨name, hname, hstart, rfl⟩ := mem_pathed.mp (hgiven' entry hentry)
      obtain ⟨var, hvar, hkept, rfl⟩ := mem_renamed.mp (hgiven name hname)
      exact mem_offered.mpr ⟨var, hvar, hkept, hstart, rfl⟩
    · obtain ⟨var, hvar, hkept, hstart, rfl⟩ := mem_offered.mp hentry
      obtain ⟨name, hname, heq⟩ :=
        List.mem_map.mp (hkeys _ (mem_renamed.mpr ⟨var, hvar, hkept, rfl⟩))
      have hname' : name.1 = normalizeName var.1 := heq
      rw [← hname'] at hstart ⊢
      exact hkeys' (keyPath name.1, written name.2) (mem_pathed.mpr ⟨name, hname, hstart, rfl⟩)
  · intro h
    obtain ⟨hdistinct, hgiven, hkeys⟩ := collected_iff.mp h
    -- the variables whose values are written are those that stay under their normalized names
    choose! var hvar hkept hstart heq using fun entry hentry => mem_offered.mp (hgiven entry hentry)
    have hwinners : DistinctKeys
        (writes.map fun entry => (normalizeName (var entry).1, (var entry).2)) := by
      refine List.pairwise_map.mpr (hdistinct.imp_of_mem fun {a b} ha hb hne hname => hne ?_)
      rw [heq a ha, heq b hb]
      exact congrArg keyPath hname
    have hrenamed : ∀ name ∈ writes.map fun entry => (normalizeName (var entry).1, (var entry).2),
        name ∈ renamed start vars.entries := by
      intro name hname
      obtain ⟨entry, hentry, rfl⟩ := List.mem_map.mp hname
      exact mem_renamed.mpr ⟨var entry, hvar entry hentry, hkept entry hentry, rfl⟩
    obtain ⟨normal, hnormal, hstay⟩ := exists_collected hwinners hrenamed
    refine ⟨normal, hnormal, collected_iff.mpr ⟨hdistinct, fun entry hentry => ?_, ?_⟩⟩
    · exact mem_pathed.mpr ⟨_, hstay _ (List.mem_map_of_mem hentry), hstart entry hentry,
        heq entry hentry⟩
    · intro entry hentry
      obtain ⟨name, hname, hpathed, rfl⟩ := mem_pathed.mp hentry
      obtain ⟨_, hgiven', _⟩ := collected_iff.mp hnormal
      obtain ⟨given, hmem, hrenamed, rfl⟩ := mem_renamed.mp (hgiven' name hname)
      exact hkeys _ (mem_offered.mpr ⟨given, hmem, hrenamed, hpathed, rfl⟩)

/-- Variables with different key paths may write in any order. -/
theorem written_of_perm {start : String} {vars : SortedMap String} {writes : Entries}
    (hdistinct : DistinctKeys (offered start vars.entries))
    (hperm : writes.Perm (offered start vars.entries)) : Written start vars writes :=
  written_iff.mpr (collected_of_perm hdistinct hperm)

/-- The source of the environment is one of the lists that its variables may write. -/
theorem written_source (start : String) (vars : SortedMap String) :
    Written start vars (source start vars) :=
  ⟨_, ⟨_, List.Perm.refl _, List.Perm.refl _⟩, _, List.Perm.refl _, List.Perm.refl _⟩

end Layer.Environment

end GrantConfig
