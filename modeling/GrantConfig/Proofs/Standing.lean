import GrantConfig.Proofs.DocumentWrites

/-!
# What stands where it was written

What is put behind a path of names stands there at the end, in whatever order all is written, when
every other path parts from it: it is not the same, it does not lead to a place above or below, and it
puts no list on the way.
-/

namespace GrantConfig.Layer

open Unicode

/-- What stands behind a way of keys through tables. -/
def Value.at? : List String → Value → Option Value
  | [], v => some v
  | key :: keys, .table entries => (List.lookup key entries).bind (Value.at? keys)
  | _ :: _, .scalar _ _ => none
  | _ :: _, .list _ _ => none

/-- What stands behind a way begins with a table that has its first key. -/
theorem Value.at?_cons_eq_some {key : String} {keys : List String} {v x : Value}
    (h : v.at? (key :: keys) = some x) :
    ∃ entries y, v = .table entries ∧ List.lookup key entries = some y ∧ y.at? keys = some x := by
  cases v with
  | scalar | list => cases h
  | table entries =>
    obtain ⟨y, hy, hx⟩ := Option.bind_eq_some_iff.mp h
    exact ⟨entries, y, rfl, hy, hx⟩

/-- What is put at the end of a way of names stands there. -/
theorem at?_changeBehind (u : Value) (names : List String) (v : Option Value) :
    (changeBehind (fun _ => u) (names.map .field) v).at? names = some u := by
  induction names generalizing v with
  | nil => rfl
  | cons name names ih =>
    rw [List.map_cons, changeBehind, Value.at?, lookup_insertEntry_self, Option.bind_some]
    exact ih _

/-- Steps that leave alone what stands behind names: they do not lead there, nor to a place above or
below, and they put no list on the way. -/
structure LeavesAlone (names : List String) (way : List Step) : Prop where
  above : ¬way <+: names.map .field
  below : ¬names.map .field <+: way
  list : ∀ front n, front <+: names.map .field → ¬front ++ [.position n] <+: way

/-- Such steps part from the names somewhere. -/
theorem LeavesAlone.parted {names : List String} {way : List Step} (h : LeavesAlone names way) :
    Parted way (names.map .field) := by
  induction names generalizing way with
  | nil => exact absurd List.nil_prefix h.below
  | cons name names ih =>
    cases way with
    | nil => exact absurd List.nil_prefix h.above
    | cons step way =>
      cases step with
      | position n =>
        exact absurd ⟨way, rfl⟩ (h.list [] n List.nil_prefix)
      | field other =>
        by_cases hname : other = name
        · subst hname
          refine .behind _ (ih ⟨fun habove => h.above ?_, fun hbelow => h.below ?_,
            fun front n hfront hlist => h.list (.field other :: front) n ?_ ?_⟩)
          · exact List.prefix_cons_inj _ |>.mpr habove
          · exact List.prefix_cons_inj _ |>.mpr hbelow
          · exact List.prefix_cons_inj _ |>.mpr hfront
          · exact List.prefix_cons_inj _ |>.mpr hlist
        · exact .here (.field hname) _ _

/-- Steps by names begin with each other exactly when the names do. -/
theorem fields_prefix_iff {names others : List String} :
    names.map Step.field <+: others.map Step.field ↔ names <+: others :=
  List.prefix_map_iff_of_injective fun _ _ h => Step.field.inj h

/-- Steps through tables alone put no list anywhere. -/
theorem leavesAlone_of_names {names others : List String} (hbelow : ¬names <+: others)
    (habove : ¬others <+: names) : LeavesAlone names (others.map .field) where
  above h := habove (fields_prefix_iff.mp h)
  below h := hbelow (fields_prefix_iff.mp h)
  list := by
    intro front n _ h
    have hmem : Step.position n ∈ others.map Step.field :=
      h.subset (List.mem_append_right front List.mem_cons_self)
    obtain ⟨_, _, hstep⟩ := List.mem_map.mp hmem
    cases hstep

/-- The root table after a value has been put under a key. -/
theorem table_assignKey_eq (root : Entries) (key : String) (u : Value) :
    Value.table (assignKey root key u) =
      changeBehind (if endsInList (wayOf key) then fun _ => u else u.over) (wayOf key)
        (some (.table root)) := by
  rw [assignKey, assign_eq, wayOf, endsInList_map_lower]
  rfl

/-- A source of which all paths part from a way leaves what has been put there. -/
theorem exists_changeBehind_mergeSource {u : Value} {way : List Step} {source : Entries}
    (h : ∀ entry ∈ source, Parted (wayOf entry.1) way) {root : Entries}
    (hroot : ∃ v, Value.table root = changeBehind (fun _ => u) way v) :
    ∃ v, Value.table (mergeSource root source) = changeBehind (fun _ => u) way v := by
  induction source generalizing root with
  | nil => exact hroot
  | cons entry rest ih =>
    obtain ⟨hfirst, hrest⟩ := List.forall_mem_cons.mp h
    obtain ⟨v, hv⟩ := hroot
    have hstep := table_assignKey_eq root entry.1 entry.2
    rw [hv, changeBehind_comm hfirst.symm] at hstep
    exact ih hrest ⟨_, hstep⟩

/-- What one entry of a source puts behind names stands there in the end, when the paths of all others
leave it alone. -/
theorem at?_mergeSource {names : List String} {source : Entries} {key : String} {u : Value}
    (hmem : (key, u) ∈ source) (hkey : wayOf key = names.map .field) (hu : ∀ v, u.over v = u)
    (hothers : ∀ entry ∈ source, entry.1 ≠ key → LeavesAlone names (wayOf entry.1))
    (hdistinct : DistinctKeys source) (root : Entries) :
    (Value.table (mergeSource root source)).at? names = some u := by
  obtain ⟨before, after, rfl⟩ := List.append_of_mem hmem
  obtain ⟨_, hlater, _⟩ := List.pairwise_append.mp hdistinct
  have hafter : ∀ entry ∈ after, Parted (wayOf entry.1) (names.map .field) := by
    intro entry hentry
    refine (hothers entry (List.mem_append_right _ (List.mem_cons_of_mem _ hentry)) ?_).parted
    exact ((List.pairwise_cons.mp hlater).1 entry hentry).symm
  have hput := table_assignKey_eq (mergeSource root before) key u
  rw [hkey, (funext hu : u.over = fun _ => u), ite_self] at hput
  obtain ⟨v, hv⟩ := exists_changeBehind_mergeSource hafter ⟨_, hput⟩
  have hmerged : mergeSource root (before ++ (key, u) :: after) =
      mergeSource (assignKey (mergeSource root before) key u) after := by
    rw [mergeSource, List.foldl_append]
    rfl
  rw [hmerged, hv]
  exact at?_changeBehind u names v

end GrantConfig.Layer
