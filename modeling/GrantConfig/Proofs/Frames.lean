import GrantConfig.Proofs.Layers

/-!
# Trees that differ along one way

Two trees may be the same but for what stands on one way through their tables. When the same is
merged into both of them, or the same value is put behind the same path, they stay so. What may
differ is left open: a relation between the tables that the way passes, and one between the values
where it ends, that such steps keep.
-/

namespace GrantConfig.Layer

open Unicode

/-- Two relations between what may stand in two trees: one where a way passes, and one where it ends.
Both are kept by what merging does. -/
structure Frame where
  passing : Option Value → Option Value → Prop
  ending : Option Value → Option Value → Prop
  passing_refl (v : Option Value) : passing v v
  passing_tables (entries others : Entries) : passing (some (.table entries)) (some (.table others))
  passing_getD {v w : Option Value} (h : passing v w) :
    passing (some (v.getD (.table []))) (some (w.getD (.table [])))
  passing_changeItem {v w : Option Value} (h : passing v w) (n : Int) (change : Value → Value) :
    passing (some ((v.getD Value.null).changeItem n change))
      (some ((w.getD Value.null).changeItem n change))
  ending_refl (v : Option Value) : ending v v
  ending_over {v w : Option Value} (h : ending v w) (u : Value) :
    ending (some (u.over v)) (some (u.over w))
  ending_assign {v w : Option Value} (h : ending v w) (u : Value) (steps : List Step) :
    ending (some (assign u steps (v.getD Value.null))) (some (assign u steps (w.getD Value.null)))

namespace Frame

variable (frame : Frame)

/-- What may stand in two trees is the same off a way of keys, and in relation along the way. -/
def Along : List String → Option Value → Option Value → Prop
  | [], v, w => frame.ending v w
  | key :: keys, v, w =>
    frame.passing v w ∧
      (∀ other, other ≠ key → List.lookup other (entriesIn v) = List.lookup other (entriesIn w)) ∧
        Along keys (List.lookup key (entriesIn v)) (List.lookup key (entriesIn w))

/-- Every value is like itself along every way. -/
theorem along_refl (keys : List String) (v : Option Value) : frame.Along keys v v := by
  induction keys generalizing v with
  | nil => exact frame.ending_refl v
  | cons key keys ih => exact ⟨frame.passing_refl v, fun _ _ => rfl, ih _⟩

variable {frame}

/-- The same, or values in relation, put under the same key of two tables. -/
theorem Along.insertEntry {key : String} {keys : List String} {v w : Option Value}
    (h : frame.Along (key :: keys) v w) (k : String) {x y : Value} (hoff : k ≠ key → x = y)
    (hon : k = key → frame.Along keys (some x) (some y)) :
    frame.Along (key :: keys) (some (.table (insertEntry k x (entriesIn v))))
      (some (.table (GrantConfig.insertEntry k y (entriesIn w)))) := by
  obtain ⟨_, hothers, hbelow⟩ := h
  refine ⟨frame.passing_tables _ _, fun other hother => ?_, ?_⟩
  · change List.lookup other (GrantConfig.insertEntry k x (entriesIn v)) =
      List.lookup other (GrantConfig.insertEntry k y (entriesIn w))
    by_cases hk : other = k
    · subst hk
      rw [lookup_insertEntry_self, lookup_insertEntry_self, hoff hother]
    · rw [lookup_insertEntry_of_ne _ _ hk, lookup_insertEntry_of_ne _ _ hk, hothers other hother]
  · change frame.Along keys (List.lookup key (GrantConfig.insertEntry k x (entriesIn v)))
      (List.lookup key (GrantConfig.insertEntry k y (entriesIn w)))
    by_cases hk : key = k
    · subst hk
      rw [lookup_insertEntry_self, lookup_insertEntry_self]
      exact hon rfl
    · rw [lookup_insertEntry_of_ne _ _ hk, lookup_insertEntry_of_ne _ _ hk]
      exact hbelow

/-- A tree that holds no tables on either side of a way differs where it stands at most. -/
theorem Along.of_entries_nil {key : String} {keys : List String} {v w : Option Value}
    (h : frame.passing v w) (hv : entriesIn v = []) (hw : entriesIn w = []) :
    frame.Along (key :: keys) v w := by
  refine ⟨h, fun other _ => ?_, ?_⟩
  · rw [hv, hw]
  · rw [hv, hw]
    exact frame.along_refl keys none

/-- The empty table may stand for nothing on both sides. -/
theorem Along.getD {key : String} {keys : List String} {v w : Option Value}
    (h : frame.Along (key :: keys) v w) :
    frame.Along (key :: keys) (some (v.getD (.table []))) (some (w.getD (.table []))) :=
  ⟨frame.passing_getD h.1, h.2⟩

mutual

/-- The same value laid over both sides. -/
theorem Along.over {keys : List String} {v w : Option Value} (h : frame.Along keys v w) :
    ∀ u : Value, frame.Along keys (some (u.over v)) (some (u.over w))
  | .scalar origin s =>
    match keys with
    | [] => frame.ending_over h (.scalar origin s)
    | key :: keys => frame.along_refl (key :: keys) (some (.scalar origin s))
  | .list origin items =>
    match keys with
    | [] => frame.ending_over h (.list origin items)
    | key :: keys => frame.along_refl (key :: keys) (some (.list origin items))
  | .table incoming =>
    match keys with
    | [] => frame.ending_over h (.table incoming)
    | _ :: _ => h.getD.mergeTable incoming

/-- The same table merged into both sides. -/
theorem Along.mergeTable {key : String} {keys : List String} {v w : Value}
    (h : frame.Along (key :: keys) (some v) (some w)) :
    ∀ incoming : Entries, frame.Along (key :: keys) (some (Layer.mergeTable v incoming))
      (some (Layer.mergeTable w incoming))
  | [] => by
    rw [Layer.mergeTable, Layer.mergeTable]
    exact h
  | (k, u) :: rest => by
    rw [Layer.mergeTable, Layer.mergeTable, mergeField_eq, mergeField_eq]
    refine Along.mergeTable (h.insertEntry (lowercase k) (fun hne => ?_) fun heq => ?_) rest
    · exact congrArg u.over (h.2.1 _ hne)
    · rw [heq]
      exact Along.over h.2.2 u

end

/-- The same value put behind the same path on both sides. -/
theorem Along.assign {keys : List String} {v w : Option Value} (h : frame.Along keys v w) (u : Value)
    (steps : List Step) :
    frame.Along keys (some (assign u steps (v.getD Value.null)))
      (some (assign u steps (w.getD Value.null))) := by
  induction steps generalizing keys v w with
  | nil =>
    cases keys with
    | nil => exact frame.ending_assign h u []
    | cons key keys => exact frame.along_refl _ _
  | cons step steps ih =>
    cases keys with
    | nil => exact frame.ending_assign h u (step :: steps)
    | cons key keys =>
      cases step with
      | position n =>
        have hlist (v : Option Value) : entriesIn
            (some (Layer.assign u (.position n :: steps) (v.getD Value.null))) = [] := by
          rw [Layer.assign]
          cases v.getD Value.null <;> rfl
        refine of_entries_nil ?_ (hlist v) (hlist w)
        rw [Layer.assign, Layer.assign]
        exact frame.passing_changeItem h.1 n _
      | field name =>
        cases steps with
        | nil =>
          rw [Layer.assign, Layer.assign, toEntries_getD, toEntries_getD, mergeField_eq, mergeField_eq]
          refine h.insertEntry _ (fun hne => ?_) fun heq => ?_
          · exact congrArg u.over (h.2.1 _ hne)
          · rw [heq]
            exact h.2.2.over u
        | cons next steps =>
          have hfield (v : Option Value) :
              Layer.assign u (.field name :: next :: steps) (v.getD Value.null) =
                .table (GrantConfig.insertEntry (lowercase name)
                  (Layer.assign u (next :: steps)
                    ((List.lookup (lowercase name) (entriesIn v)).getD Value.null)) (entriesIn v)) := by
            rw [Layer.assign, toEntries_getD]
            intro hnil
            cases hnil
          rw [hfield, hfield]
          refine h.insertEntry _ (fun hne => ?_) fun heq => ?_
          · rw [h.2.1 _ hne]
          · rw [heq]
            exact ih h.2.2

/-- The same value put under the same key of two root tables. -/
theorem Along.assignKey {keys : List String} {root other : Entries} {first : String}
    (h : frame.Along (first :: keys) (some (.table root)) (some (.table other))) (key : String)
    (u : Value) :
    frame.Along (first :: keys) (some (.table (Layer.assignKey root key u)))
      (some (.table (Layer.assignKey other key u))) := by
  have hassign := h.assign u (.field (KeyPath.ofKey key).name :: (KeyPath.ofKey key).steps)
  exact ⟨frame.passing_tables _ _, hassign.2⟩

/-- The same source merged into two root tables. -/
theorem Along.mergeSource {keys : List String} {root other : Entries} {first : String}
    (h : frame.Along (first :: keys) (some (.table root)) (some (.table other)))
    (source : Entries) :
    frame.Along (first :: keys) (some (.table (Layer.mergeSource root source)))
      (some (.table (Layer.mergeSource other source))) := by
  induction source generalizing root other with
  | nil => exact h
  | cons entry rest ih => exact ih (h.assignKey entry.1 entry.2)

/-- The same sources merged into two root tables, one after the other. -/
theorem Along.mergeSources {keys : List String} {root other : Entries} {first : String}
    (h : frame.Along (first :: keys) (some (.table root)) (some (.table other)))
    (sources : List Entries) :
    frame.Along (first :: keys) (some (.table (sources.foldl Layer.mergeSource root)))
      (some (.table (sources.foldl Layer.mergeSource other))) := by
  induction sources generalizing root other with
  | nil => exact h
  | cons source rest ih => exact ih (h.mergeSource source)

end Frame

end GrantConfig.Layer
