import GrantConfig.Proofs.Ways
import Mathlib.Data.List.Perm.Basic

/-!
# Documents as writes

Merging a document puts its scalars and lists at the ends of ways through tables and lists, and sees
to it that there is something where the document has a table. Ways that part somewhere do not meet
again, so a document whose ways all part is merged in any order of its entries.
-/

namespace GrantConfig.Layer

open Unicode

/-! ## Writes -/

/-- A value that is put at the end of a way. Without one, what stands there is left alone, and an
empty table is put there if there is nothing. -/
structure Write where
  way : List Step
  value : Option Value

/-- What stands at the end of the way afterwards. -/
def Write.put (w : Write) (v : Option Value) : Value := w.value.getD (v.getD (.table []))

/-- Make a write below a value. -/
def Write.on (w : Write) (v : Option Value) : Value := changeBehind w.put w.way v

/-- Make writes one after the other. -/
def writeAll (writes : List Write) (v : Option Value) : Option Value :=
  writes.foldl (fun v w => some (w.on v)) v

/-- A write behind another way. -/
def Write.behind (way : List Step) (w : Write) : Write := ⟨way ++ w.way, w.value⟩

/-- A write behind another way is a change at the end of that way. -/
theorem Write.on_behind (way : List Step) (w : Write) (v : Option Value) :
    (w.behind way).on v = changeBehind w.on way v := changeBehind_append _ _ _ _

/-- Writes are made one after the other. -/
theorem writeAll_append (writes more : List Write) (v : Option Value) :
    writeAll (writes ++ more) v = writeAll more (writeAll writes v) := List.foldl_append

/-- Writes behind a way are one change at its end. -/
theorem writeAll_behind {writes : List Write} (h : writes ≠ []) (way : List Step)
    (v : Option Value) :
    writeAll (writes.map (Write.behind way)) v =
      some (changeBehind (fun v => (writeAll writes v).getD Value.null) way v) := by
  induction writes generalizing v with
  | nil => exact absurd rfl h
  | cons w rest ih =>
    change writeAll (rest.map (Write.behind way)) (some ((w.behind way).on v)) = _
    rw [Write.on_behind]
    cases rest with
    | nil => rfl
    | cons next rest =>
      rw [ih (List.cons_ne_nil _ _), changeBehind_changeBehind]
      rfl

mutual

/-- What a value of a document writes: a scalar or a list itself, and a table what its entries
write. -/
def Value.writes : Value → List Write
  | .scalar origin s => [⟨[], some (.scalar origin s)⟩]
  | .list origin items => [⟨[], some (.list origin items)⟩]
  | .table entries => ⟨[], none⟩ :: entriesWrites entries

/-- What the entries of a table write, each behind its key. -/
def entriesWrites : Entries → List Write
  | [] => []
  | (key, v) :: rest => v.writes.map (Write.behind [.field (lowercase key)]) ++ entriesWrites rest

end

/-- Entries write what each of them writes. -/
theorem entriesWrites_eq (entries : Entries) :
    entriesWrites entries =
      entries.flatMap fun entry =>
        entry.2.writes.map (Write.behind [.field (lowercase entry.1)]) := by
  induction entries with
  | nil => rw [entriesWrites, List.flatMap_nil]
  | cons first rest ih => rw [entriesWrites, ih, List.flatMap_cons]

/-- Every value writes something. -/
theorem Value.writes_ne_nil (v : Value) : v.writes ≠ [] := by
  cases v <;> simp [Value.writes]

mutual

/-- Laying a value over another one is making its writes. -/
theorem writeAll_writes (under : Option Value) :
    ∀ v : Value, writeAll v.writes under = some (v.over under)
  | .scalar origin s => by
    rw [Value.writes]
    rfl
  | .list origin items => by
    rw [Value.writes]
    rfl
  | .table entries => by
    rw [Value.writes]
    exact writeAll_entriesWrites (under.getD (.table [])) entries

/-- Merging entries into a table is making their writes. -/
theorem writeAll_entriesWrites (target : Value) :
    ∀ entries : Entries,
      writeAll (entriesWrites entries) (some target) = some (mergeTable target entries)
  | [] => by
    rw [entriesWrites, mergeTable]
    rfl
  | (key, v) :: rest => by
    have hfirst : writeAll (v.writes.map (Write.behind [.field (lowercase key)])) (some target) =
        some (.table (mergeField target.toEntries key v)) := by
      rw [writeAll_behind v.writes_ne_nil, mergeField_eq]
      simp only [writeAll_writes _ v, Option.getD_some]
      rfl
    rw [entriesWrites, writeAll_append, hfirst, writeAll_entriesWrites _ rest, mergeTable]

end

/-! ## Documents -/

/-- The way that a key of a document stands for. -/
def wayOf (key : String) : List Step :=
  let path := KeyPath.ofKey key
  (Step.field path.name :: path.steps).map Step.lower

/-- What an entry of a document writes. An item of a list is put there as it is. -/
def entryWrites (entry : String × Value) : List Write :=
  let way := wayOf entry.1
  if endsInList way then [⟨way, some entry.2⟩] else entry.2.writes.map (Write.behind way)

/-- What a document writes, entry by entry. -/
def documentWrites (document : Entries) : List Write := document.flatMap entryWrites

/-- Putting a value under a key is making its writes. -/
theorem writeAll_entryWrites (root : Entries) (entry : String × Value) :
    writeAll (entryWrites entry) (some (.table root)) =
      some (.table (assignKey root entry.1 entry.2)) := by
  obtain ⟨key, v⟩ := entry
  rw [entryWrites, assignKey, assign_eq, wayOf, endsInList_map_lower]
  split
  · rfl
  · rw [writeAll_behind v.writes_ne_nil]
    simp only [writeAll_writes, Option.getD_some]
    rfl

/-- Merging a document is making its writes. -/
theorem writeAll_documentWrites (root document : Entries) :
    writeAll (documentWrites document) (some (.table root)) =
      some (.table (mergeSource root document)) := by
  induction document generalizing root with
  | nil => rfl
  | cons entry rest ih =>
    rw [documentWrites, List.flatMap_cons, writeAll_append, writeAll_entryWrites]
    exact ih _

/-! ## Writes that do not meet -/

/-- Writes that may be made in either order: their ways part, or one of them asks for no more than
that there is something on the way of the other. -/
def Write.Apart (w other : Write) : Prop :=
  Parted w.way other.way ∨ w.value = none ∧ w.way <+: other.way ∨
    other.value = none ∧ other.way <+: w.way

/-- To ask for something on the way of a write changes nothing before it. -/
theorem changeBehind_put_none (w : Write) (way : List Step) (v : Option Value) :
    changeBehind w.put way (some (v.getD (.table []))) = changeBehind w.put way v := by
  cases way with
  | nil =>
    simp only [changeBehind, Write.put, Option.getD_some]
  | cons step way =>
    cases step with
    | field name => rfl
    | position n => cases v <;> rfl

/-- To ask for something on the way of a write may come before or after it. -/
theorem on_comm_of_begins {w other : Write} (hvalue : w.value = none) (hway : w.way <+: other.way)
    (v : Option Value) : other.on (some (w.on v)) = w.on (some (other.on v)) := by
  obtain ⟨more, hmore⟩ := hway
  have hput (v : Option Value) : w.put v = v.getD (.table []) := by rw [Write.put, hvalue]; rfl
  simp only [Write.on, ← hmore, changeBehind_append, changeBehind_changeBehind, hput,
    changeBehind_put_none, Option.getD_some]

/-- Two writes that do not meet may be made in either order. -/
theorem Write.Apart.on_comm {w other : Write} (h : w.Apart other) (v : Option Value) :
    other.on (some (w.on v)) = w.on (some (other.on v)) := by
  rcases h with hparted | hfirst | hsecond
  · exact changeBehind_comm hparted _ _ v
  · exact on_comm_of_begins hfirst.1 hfirst.2 v
  · exact (on_comm_of_begins hsecond.1 hsecond.2 v).symm

/-- Writes that do not meet may be made in any order. -/
theorem writeAll_perm {writes others : List Write} (hperm : writes.Perm others)
    (hapart : writes.Pairwise Write.Apart) (v : Option Value) :
    writeAll writes v = writeAll others v := by
  have hcomm : writes.Pairwise fun w other =>
      ∀ v : Option Value, other.on (some (w.on v)) = w.on (some (other.on v)) :=
    hapart.imp fun h => h.on_comm
  refine hperm.foldl_eq' (fun w hw other hother v => ?_) v
  have hall := hcomm.forall_of_forall_of_flip (fun _ _ _ => rfl)
    (hcomm.imp fun h v => (h v).symm) hw hother
  exact congrArg some (hall v)

/-- No two writes of a document meet: their ways part somewhere in any letter case, or one of them
asks for no more than a table on the way of the other. Keys that are one key in lowercase never keep
to this, and neither does a root key whose path runs into what another root key writes, such as
`oauth.providers` beside `oauth`. -/
def Uncollapsed (document : Entries) : Prop := (documentWrites document).Pairwise Write.Apart

/-- Two documents that write the same in different orders are merged alike when no keys collapse. -/
theorem Uncollapsed.mergeSource_eq {document other : Entries} (h : Uncollapsed document)
    (hperm : (documentWrites document).Perm (documentWrites other)) (root : Entries) :
    mergeSource root document = mergeSource root other := by
  have hsame := writeAll_perm hperm h (some (.table root))
  rw [writeAll_documentWrites, writeAll_documentWrites] at hsame
  exact Value.table.inj (Option.some.inj hsame)

/-! ## Keys that do not collapse -/

/-- Behind one more way, writes that do not meet do not meet either. -/
theorem Write.Apart.behind {w other : Write} (h : w.Apart other) (way : List Step) :
    (w.behind way).Apart (other.behind way) := by
  rcases h with hparted | hfirst | hsecond
  · left
    induction way with
    | nil => exact hparted
    | cons step way ih => exact .behind step ih
  · exact .inr (.inl ⟨hfirst.1, (List.prefix_append_right_inj way).mpr hfirst.2⟩)
  · exact .inr (.inr ⟨hsecond.1, (List.prefix_append_right_inj way).mpr hsecond.2⟩)

/-- What is written behind ways that part does not meet. -/
theorem apart_of_parted {way other : List Step} (h : Parted way other)
    {writes writes' : List Write} :
    ∀ w ∈ writes.map (Write.behind way), ∀ w' ∈ writes'.map (Write.behind other), w.Apart w' := by
  intro w hw w' hw'
  obtain ⟨u, _, rfl⟩ := List.mem_map.mp hw
  obtain ⟨u', _, rfl⟩ := List.mem_map.mp hw'
  exact .inl (h.append _ _)

/-- No two keys of a table collapse in lowercase, on any level outside lists. -/
inductive Value.Distinct : Value → Prop
  | scalar (origin : Option Origin) (s : Scalar) : Distinct (.scalar origin s)
  | list (origin : Option Origin) (items : List Value) : Distinct (.list origin items)
  | table {entries : Entries} (keys : OneCase entries)
      (values : ∀ entry ∈ entries, Distinct entry.2) : Distinct (.table entries)

/-- Where no two keys collapse, no two writes meet. -/
theorem Value.Distinct.pairwise_writes {v : Value} (h : v.Distinct) :
    v.writes.Pairwise Write.Apart := by
  induction h with
  | scalar | list =>
    rw [Value.writes]
    exact List.pairwise_singleton _ _
  | @table entries keys _ ih =>
    rw [Value.writes, List.pairwise_cons, entriesWrites_eq, List.pairwise_flatMap]
    refine ⟨fun w _ => .inr (.inl ⟨rfl, List.nil_prefix⟩), fun entry hentry => ?_, ?_⟩
    · exact List.pairwise_map.mpr ((ih entry hentry).imp fun h => h.behind _)
    · exact (List.pairwise_map.mp keys).imp fun hne => apart_of_parted (.here (.field hne) _ _)

/-- The same of a document whose keys lead different ways. -/
theorem uncollapsed_of_parted {document : Entries}
    (hkeys : document.Pairwise fun entry other => Parted (wayOf entry.1) (wayOf other.1))
    (hvalues : ∀ entry ∈ document, entry.2.Distinct) : Uncollapsed document := by
  rw [Uncollapsed, documentWrites, List.pairwise_flatMap]
  constructor
  · intro entry hentry
    rw [entryWrites]
    split
    · exact List.pairwise_singleton _ _
    · exact List.pairwise_map.mpr ((hvalues entry hentry).pairwise_writes.imp fun h => h.behind _)
  · refine hkeys.imp fun {entry other} hparted w hw w' hw' => ?_
    have hbehind (entry : String × Value) : ∃ writes : List Write,
        entryWrites entry = writes.map (Write.behind (wayOf entry.1)) := by
      rw [entryWrites]
      split
      · exact ⟨[⟨[], some entry.2⟩], by simp [Write.behind]⟩
      · exact ⟨_, rfl⟩
    obtain ⟨writes, hwrites⟩ := hbehind entry
    obtain ⟨writes', hwrites'⟩ := hbehind other
    rw [hwrites] at hw
    rw [hwrites'] at hw'
    exact apart_of_parted hparted w hw w' hw'

/-- For a document with plain keys that is to say that no two keys of any table are the same in
lowercase. -/
theorem uncollapsed_of_plain {document : Entries} (hplain : PlainKeys document)
    (h : (Value.table document).Distinct) : Uncollapsed document := by
  cases h with
  | table keys values =>
    refine uncollapsed_of_parted ?_ values
    refine (List.pairwise_map.mp keys).imp_of_mem fun {entry other} hentry hother hne => ?_
    rw [wayOf, wayOf, KeyPath.ofKey_name (hplain entry hentry),
      KeyPath.ofKey_name (hplain other hother)]
    exact .here (.field hne) _ _

end GrantConfig.Layer
