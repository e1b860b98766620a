import GrantConfig.Proofs.Layers

/-!
# Ways through tables and lists

Putting a value behind a path changes what stands at the end of a way through tables and lists. Two
changes at the end of one way are one change, and changes at the ends of ways that part somewhere
may be made in either order.
-/

namespace GrantConfig.Layer

open Unicode

/-! ## Items of lists -/

/-- The items after one of them has been changed, padded up to its position. -/
theorem getElem?_changeAt {n : Int} {items : List Value} {i : Nat}
    (h : positionIn n items.length = some i) (change : Value → Value) (j : Nat) :
    (changeAt n change items)[j]? =
      if j = i then some (change (items[i]?.getD Value.null))
      else if j < i then some (items[j]?.getD Value.null) else items[j]? := by
  have hpadded (k : Nat) (hk : k ≤ i) :
      (items ++ List.replicate (i + 1 - items.length) Value.null)[k]? =
        some (items[k]?.getD Value.null) := by
    rw [List.getElem?_append]
    split
    · next hlt => rw [List.getElem?_eq_getElem hlt, Option.getD_some]
    · next hle =>
      rw [List.getElem?_replicate, if_pos (by omega), List.getElem?_eq_none (by omega),
        Option.getD_none]
  simp only [changeAt, h]
  rw [List.getElem?_set, hpadded i (Nat.le_refl i), Option.getD_some]
  by_cases hj : j = i
  · subst hj
    rw [if_pos rfl, if_pos rfl, if_pos]
    simp only [List.length_append, List.length_replicate]
    omega
  · rw [if_neg (Ne.symm hj), if_neg hj]
    split
    · next hlt => exact hpadded j hlt.le
    · rw [List.getElem?_append]
      split
      · rfl
      · rw [List.getElem?_replicate, if_neg (by omega), List.getElem?_eq_none (by omega)]

/-- Where there is no such position, no item is changed. -/
theorem changeAt_of_none {n : Int} {items : List Value} (h : positionIn n items.length = none)
    (change : Value → Value) : changeAt n change items = items := by
  simp only [changeAt, h]

/-- A list is made long enough for the position. -/
theorem length_changeAt {n : Int} {items : List Value} {i : Nat}
    (h : positionIn n items.length = some i) (change : Value → Value) :
    (changeAt n change items).length = max items.length (i + 1) := by
  simp only [changeAt, h, List.length_set, List.length_append, List.length_replicate]
  omega

/-- Changing an item does not move positions that are counted from the same end. -/
theorem positionIn_length_changeAt {m n : Int} (h : 0 ≤ m ↔ 0 ≤ n) (items : List Value)
    (change : Value → Value) :
    positionIn n (changeAt m change items).length = positionIn n items.length := by
  cases hm : positionIn m items.length with
  | none => rw [changeAt_of_none hm]
  | some i =>
    rw [length_changeAt hm]
    simp only [positionIn] at hm ⊢
    grind

/-- Two changes of one item are one change. -/
theorem changeAt_changeAt (n : Int) (first second : Value → Value) (items : List Value) :
    changeAt n second (changeAt n first items) =
      changeAt n (fun item => second (first item)) items := by
  have hlength := positionIn_length_changeAt (Iff.refl (0 ≤ n)) items first
  cases hn : positionIn n items.length with
  | none =>
    rw [hn] at hlength
    rw [changeAt_of_none hlength, changeAt_of_none hn, changeAt_of_none hn]
  | some i =>
    rw [hn] at hlength
    apply List.ext_getElem?
    intro j
    rw [getElem?_changeAt hlength, getElem?_changeAt hn, getElem?_changeAt hn, getElem?_changeAt hn]
    grind

/-- Different positions counted from the same end are different items. -/
theorem changeAt_comm {m n : Int} (hne : m ≠ n) (h : 0 ≤ m ↔ 0 ≤ n) (f g : Value → Value)
    (items : List Value) :
    changeAt n g (changeAt m f items) = changeAt m f (changeAt n g items) := by
  have hlength := positionIn_length_changeAt h items f
  have hlength' := positionIn_length_changeAt h.symm items g
  cases hm : positionIn m items.length with
  | none =>
    rw [hm] at hlength'
    rw [changeAt_of_none hm, changeAt_of_none hlength']
  | some i =>
    cases hn : positionIn n items.length with
    | none =>
      rw [hn] at hlength
      rw [changeAt_of_none hn, changeAt_of_none hlength]
    | some k =>
      have hik : i ≠ k := by
        simp only [positionIn] at hm hn
        grind
      rw [hn] at hlength
      rw [hm] at hlength'
      apply List.ext_getElem?
      intro j
      rw [getElem?_changeAt hlength, getElem?_changeAt hlength', getElem?_changeAt hm,
        getElem?_changeAt hm, getElem?_changeAt hn, getElem?_changeAt hn]
      grind

/-- Two changes of one item of a value are one change. -/
theorem changeItem_changeItem (n : Int) (first second : Value → Value) (v : Value) :
    (v.changeItem n first).changeItem n second =
      v.changeItem n fun item => second (first item) := by
  cases v <;> simp only [Value.changeItem, changeAt_changeAt]

/-- Changes of different items may be made in either order. -/
theorem changeItem_comm {m n : Int} (hne : m ≠ n) (h : 0 ≤ m ↔ 0 ≤ n) (f g : Value → Value)
    (v : Value) : (v.changeItem m f).changeItem n g = (v.changeItem n g).changeItem m f := by
  cases v <;> simp only [Value.changeItem, changeAt_comm hne h]

/-! ## Changes at the end of a way -/

/-- Change what stands at the end of a way, whose names are in lowercase. Tables and lists are made
where they are needed. -/
def changeBehind (change : Option Value → Value) : List Step → Option Value → Value
  | [], v => change v
  | .field name :: way, v =>
    .table (insertEntry name (changeBehind change way (List.lookup name (entriesIn v))) (entriesIn v))
  | .position n :: way, v =>
    (v.getD Value.null).changeItem n fun item => changeBehind change way (some item)

/-- A change at the end of a longer way is a change on the way. -/
theorem changeBehind_append (change : Option Value → Value) (way more : List Step)
    (v : Option Value) :
    changeBehind change (way ++ more) v = changeBehind (changeBehind change more) way v := by
  induction way generalizing v with
  | nil => rfl
  | cons step way ih =>
    cases step with
    | field name => simp only [List.cons_append, changeBehind, ih]
    | position n => simp only [List.cons_append, changeBehind, ih]

/-- Two changes at the end of one way are one. -/
theorem changeBehind_changeBehind (first second : Option Value → Value) (way : List Step)
    (v : Option Value) :
    changeBehind second way (some (changeBehind first way v)) =
      changeBehind (fun v => second (some (first v))) way v := by
  induction way generalizing v with
  | nil => rfl
  | cons step way ih =>
    cases step with
    | field name =>
      simp only [changeBehind]
      change Value.table (insertEntry name (changeBehind second way
        (List.lookup name (insertEntry name _ (entriesIn v)))) (insertEntry name _ (entriesIn v))) = _
      rw [lookup_insertEntry_self, insertEntry_insertEntry_self, ih]
    | position n =>
      simp only [changeBehind, Option.getD_some, changeItem_changeItem, ih]

/-- Steps to parts that cannot be the same. -/
inductive Step.Parts : Step → Step → Prop
  | field {name other : String} (h : name ≠ other) : Parts (.field name) (.field other)
  | position {m n : Int} (hne : m ≠ n) (h : 0 ≤ m ↔ 0 ≤ n) : Parts (.position m) (.position n)

/-- Ways that part somewhere. -/
inductive Parted : List Step → List Step → Prop
  | here {step other : Step} (h : step.Parts other) (way more : List Step) :
      Parted (step :: way) (other :: more)
  | behind {way more : List Step} (step : Step) (h : Parted way more) :
      Parted (step :: way) (step :: more)

/-- Ways that part do so in either order. -/
theorem Parted.symm {way other : List Step} (h : Parted way other) : Parted other way := by
  induction h with
  | here hparts way more =>
    cases hparts with
    | field hne => exact .here (.field hne.symm) _ _
    | position hne hend => exact .here (.position hne.symm hend.symm) _ _
  | behind step _ ih => exact .behind step ih

/-- They do not meet behind that. -/
theorem Parted.append {way other : List Step} (h : Parted way other) (more more' : List Step) :
    Parted (way ++ more) (other ++ more') := by
  induction h with
  | here hparts way other => exact .here hparts _ _
  | behind step _ ih => exact .behind step ih

/-- Changes at the ends of ways that part may be made in either order. -/
theorem changeBehind_comm {way other : List Step} (h : Parted way other)
    (f g : Option Value → Value) (v : Option Value) :
    changeBehind g other (some (changeBehind f way v)) =
      changeBehind f way (some (changeBehind g other v)) := by
  induction h generalizing v with
  | here hparts way more =>
    cases hparts with
    | field hne =>
      simp only [changeBehind, entriesIn, Option.getD_some, Value.toEntries]
      rw [lookup_insertEntry_of_ne _ _ hne, lookup_insertEntry_of_ne _ _ hne.symm,
        insertEntry_comm hne]
    | position hne hend =>
      simp only [changeBehind, Option.getD_some]
      exact changeItem_comm hne hend _ _ _
  | behind step _ ih =>
    cases step with
    | field name =>
      simp only [changeBehind, entriesIn, Option.getD_some, Value.toEntries]
      rw [lookup_insertEntry_self, lookup_insertEntry_self, insertEntry_insertEntry_self,
        insertEntry_insertEntry_self, ih]
    | position n =>
      simp only [changeBehind, Option.getD_some, changeItem_changeItem, ih]

/-- A way leads on from null as it does from nothing. -/
theorem changeBehind_some_null (change : Option Value → Value) (step : Step) (way : List Step)
    (v : Option Value) :
    changeBehind change (step :: way) (some (v.getD Value.null)) =
      changeBehind change (step :: way) v := by
  cases v with
  | some v => rfl
  | none => cases step <;> rfl

/-! ## Values behind paths -/

/-- A step with its name in lowercase. -/
def Step.lower : Step → Step
  | .field name => .field (lowercase name)
  | .position n => .position n

/-- Letter case of keys does not matter to whether a way ends in a list. -/
theorem endsInList_map_lower (way : List Step) :
    endsInList (way.map Step.lower) = endsInList way := by
  rw [endsInList, endsInList, List.getLast?_map]
  cases way.getLast? with
  | none => rfl
  | some step => cases step <;> rfl

/-- Putting a value behind a path changes what stands at the end of its way. -/
theorem assign_eq (v : Value) (step : Step) (steps : List Step) (parent : Value) :
    assign v (step :: steps) parent =
      changeBehind (if endsInList (step :: steps) then fun _ => v else v.over)
        ((step :: steps).map Step.lower) (some parent) := by
  induction steps generalizing step parent with
  | nil =>
    cases step with
    | field name =>
      rw [assign, mergeField_eq]
      rfl
    | position n =>
      rw [assign]
      rfl
  | cons next steps ih =>
    have hlast : endsInList (step :: next :: steps) = endsInList (next :: steps) := by
      rw [endsInList, endsInList, List.getLast?_cons_cons]
    rw [hlast, List.map_cons]
    cases step with
    | field name =>
      rw [assign, ih, List.map_cons, changeBehind_some_null]
      · rfl
      · intro h
        cases h
    | position n =>
      rw [assign]
      change parent.changeItem n _ = parent.changeItem n _
      congr 1
      funext item
      exact ih next item

/-- Two values whose paths part may be put behind them in either order. -/
theorem assign_comm (u w : Value) {steps others : List Step}
    (h : Parted (steps.map Step.lower) (others.map Step.lower)) (parent : Value) :
    assign u steps (assign w others parent) = assign w others (assign u steps parent) := by
  cases steps with
  | nil => cases h
  | cons step steps =>
    cases others with
    | nil => cases h
    | cons other others =>
      rw [assign_eq, assign_eq, assign_eq, assign_eq]
      exact (changeBehind_comm h _ _ _).symm

/-- Paths of names of which neither begins the other part somewhere. -/
theorem parted_of_names {names others : List String} (hbelow : ¬names <+: others)
    (habove : ¬others <+: names) :
    Parted (names.map .field) (others.map .field) := by
  induction names generalizing others with
  | nil => exact absurd List.nil_prefix hbelow
  | cons name names ih =>
    cases others with
    | nil => exact absurd List.nil_prefix habove
    | cons other others =>
      by_cases hsame : name = other
      · subst hsame
        rw [List.prefix_cons_inj] at hbelow habove
        exact .behind _ (ih hbelow habove)
      · exact .here (.field hsame) _ _

/-- Keys in lowercase are not changed. -/
theorem map_lower_fields {names : List String} (h : ∀ name ∈ names, lowercase name = name) :
    (names.map Step.field).map Step.lower = names.map .field := by
  rw [List.map_map]
  exact List.map_congr_left fun name hname => congrArg Step.field (h name hname)

end GrantConfig.Layer
