import GrantConfig.Shared
import Mathlib.Data.List.Nodup
import Mathlib.Data.List.Range

/-!
# A shared provider as one register

Handles that are cloned from one another share one register. Steps through any of them answer as if
they were taken on that register alone: a snapshot holds the record that was installed last, a
replacement gives the object that it takes the place of, and so the objects of a run are exactly the
installed records, each once. Two snapshots are the same object exactly when nothing was installed
between them, whether or not the contents are equal.
-/

namespace GrantConfig.Shared

/-! ## Runs -/

/-- A step through a handle. -/
inductive Step where
  | clone (handle : Nat)
  | current (handle : Nat)
  | replace (handle : Nat) (p : Provider)
deriving DecidableEq

/-- What a step gives: a further handle or a record. -/
inductive Answer where
  | handle (clone : Nat)
  | snapshot (found : Snapshot)
deriving DecidableEq

/-- Take a step. There is none through a handle that does not exist. -/
def step? (s : Shared) : Step → Option (Answer × Shared)
  | .clone handle => (s.clone? handle).map fun (clone, t) => (.handle clone, t)
  | .current handle => (s.current? handle).map fun found => (.snapshot found, s)
  | .replace handle p => (s.replace? handle p).map fun (previous, t) => (.snapshot previous, t)

/-- Take steps one after the other. -/
def run? (s : Shared) : List Step → Option (List Answer × Shared)
  | [] => some ([], s)
  | step :: rest => do
    let (answer, t) ← s.step? step
    let (answers, u) ← t.run? rest
    return (answer :: answers, u)

/-- A provider that has just been shared; the only handle is handle 0. -/
def single (p : Provider) : Shared := (empty.create p).2

/-- The record that a handle has after steps. -/
def currentAfter? (first : Provider) (steps : List Step) (handle : Nat) : Option Snapshot :=
  ((single first).run? steps).bind fun (_, s) => s.current? handle

/-- The handle that a step goes through. -/
def Step.handle : Step → Nat
  | .clone handle => handle
  | .current handle => handle
  | .replace handle _ => handle

/-- The provider that a step installs. -/
def Step.installed? : Step → Option Provider
  | .replace _ p => some p
  | _ => none

/-- The providers that steps install, in order. -/
def installed (steps : List Step) : List Provider := steps.filterMap Step.installed?

/-- How many handles there are after a step. -/
def Step.handlesAfter (count : Nat) : Step → Nat
  | .clone _ => count + 1
  | _ => count

/-- How many handles there are after steps. -/
def handlesAfter (count : Nat) (steps : List Step) : Nat := steps.foldl Step.handlesAfter count

/-- Every step goes through a handle that exists by then. -/
def Usable (count : Nat) : List Step → Prop
  | [] => True
  | step :: rest => step.handle < count ∧ Usable (step.handlesAfter count) rest

instance decidableUsable : (count : Nat) → (steps : List Step) → Decidable (Usable count steps)
  | _, [] => inferInstanceAs (Decidable True)
  | count, step :: rest =>
    have := decidableUsable (step.handlesAfter count) rest
    inferInstanceAs (Decidable (step.handle < count ∧ Usable (step.handlesAfter count) rest))

/-- The object that a replacement gave. -/
def replaced? : Step × Answer → Option Snapshot
  | (.replace _ _, .snapshot found) => some found
  | _ => none

/-- The objects that the replacements of a run gave, in order. -/
def replaced (steps : List Step) (answers : List Answer) : List Snapshot :=
  (steps.zip answers).filterMap replaced?

/-- The answers of a run are those of a single register that held a provider first. -/
structure Linear (first : Provider) (steps : List Step) (answers : List Answer) : Prop where
  /-- Every step is answered. -/
  answered : answers.length = steps.length
  /-- A clone is the next handle. -/
  clone : ∀ (i handle : Nat), steps[i]? = some (.clone handle) →
    answers[i]? = some (.handle (handlesAfter 1 (steps.take i)))
  /-- A snapshot holds the provider that was installed last, through whichever handle. -/
  current : ∀ (i handle : Nat), steps[i]? = some (.current handle) →
    ∃ found, answers[i]? = some (.snapshot found) ∧
      (first :: installed (steps.take i)).getLast? = some found.provider
  /-- A replacement gives the object that every handle had just before. -/
  replace : ∀ (i handle : Nat) (p : Provider), steps[i]? = some (.replace handle p) →
    ∃ found, answers[i]? = some (.snapshot found) ∧
      ∀ other < handlesAfter 1 (steps.take i),
        currentAfter? first (steps.take i) other = some found
  /-- The replaced objects and the one that every handle has at the end hold all providers in order,
  and they are different objects. -/
  complete : ∃ last,
    (∀ handle < handlesAfter 1 steps, currentAfter? first steps handle = some last) ∧
      (replaced steps answers ++ [last]).map Snapshot.provider = first :: installed steps ∧
      ((replaced steps answers ++ [last]).map Snapshot.number).Nodup
  /-- Two objects are the same exactly when nothing was installed between them. -/
  same : ∀ (i j : Nat) (found later : Snapshot), i ≤ j →
    answers[i]? = some (.snapshot found) → answers[j]? = some (.snapshot later) →
      (found.number = later.number ↔ installed ((steps.take j).drop i) = [])
  /-- What has been answered does not depend on later steps. -/
  settled : ∀ i : Nat,
    ((single first).run? (steps.take i)).map Prod.fst = some (answers.take i)
  /-- An object keeps its content for the whole run. -/
  kept : ∀ (i j : Nat) (found later : Snapshot),
    answers[i]? = some (.snapshot found) → answers[j]? = some (.snapshot later) →
      found.number = later.number → found.provider = later.provider

/-! ## The register -/

/-- The record that a register holds after a step. -/
def Step.next (held : Snapshot) : Step → Snapshot
  | .replace _ p => ⟨held.number + 1, p⟩
  | _ => held

/-- What a step gives while a register holds a record. -/
def Step.answer (held : Snapshot) (count : Nat) : Step → Answer
  | .clone _ => .handle count
  | _ => .snapshot held

/-- The record that a register holds after steps. -/
def heldAfter (held : Snapshot) (steps : List Step) : Snapshot := steps.foldl Step.next held

/-- What steps give, one after the other. -/
def answers (held : Snapshot) (count : Nat) : List Step → List Answer
  | [] => []
  | step :: rest =>
    step.answer held count :: answers (step.next held) (step.handlesAfter count) rest

/-- There is one slot, it holds a record, and so many handles refer to it. -/
structure Holds (s : Shared) (held : Snapshot) (count : Nat) : Prop where
  slots : s.slots = [held]
  handles : s.handles = List.replicate count 0
  fresh : s.fresh = held.number + 1

/-- A single handle holds its record. -/
theorem holds_single (p : Provider) : (single p).Holds ⟨0, p⟩ 1 := ⟨rfl, rfl, rfl⟩

namespace Holds

variable {s : Shared} {held : Snapshot} {count handle : Nat} (h : s.Holds held count)

include h

/-- All handles lead to one place. -/
theorem slot (hhandle : handle < count) : s.handles[handle]? = some 0 := by
  rw [h.handles, List.getElem?_replicate, if_pos hhandle]

/-- Every handle has what is held. -/
theorem current (hhandle : handle < count) : s.current? handle = some held := by
  rw [current?, h.slot hhandle, h.slots]
  rfl

/-- A step through an existing handle gives what the register gives, and leaves what it leaves. -/
theorem step {step : Step} (hhandle : step.handle < count) :
    ∃ t, s.step? step = some (step.answer held count, t) ∧
      t.Holds (step.next held) (step.handlesAfter count) := by
  cases step with
  | clone handle =>
    have hslot : s.handles[handle]? = some 0 := h.slot hhandle
    have hcount : s.handles.length = count := by rw [h.handles, List.length_replicate]
    refine ⟨{ s with handles := s.handles ++ [0] }, ?_, ?_⟩
    · rw [step?, clone?, hslot, hcount]
      rfl
    · exact ⟨h.slots, by rw [h.handles]; exact List.replicate_succ'.symm, h.fresh⟩
  | current handle =>
    have hcurrent : s.current? handle = some held := h.current hhandle
    refine ⟨s, ?_, h⟩
    rw [step?, hcurrent]
    rfl
  | replace handle p =>
    have hslot : s.handles[handle]? = some 0 := h.slot hhandle
    refine ⟨{ s with slots := [⟨held.number + 1, p⟩], fresh := held.number + 2 }, ?_, ?_⟩
    · rw [step?, replace?, hslot, h.slots, h.fresh]
      rfl
    · exact ⟨rfl, h.handles, rfl⟩

/-- Steps through existing handles give what the register gives, and leave what it leaves. -/
theorem run {steps : List Step} (husable : Usable count steps) :
    ∃ t, s.run? steps = some (answers held count steps, t) ∧
      t.Holds (heldAfter held steps) (Shared.handlesAfter count steps) := by
  induction steps generalizing s held count with
  | nil => exact ⟨s, rfl, h⟩
  | cons step rest ih =>
    obtain ⟨t, hstep, ht⟩ := h.step husable.1
    obtain ⟨u, hrest, hu⟩ := ih ht husable.2
    refine ⟨u, ?_, hu⟩
    rw [run?, hstep]
    change (t.run? rest).bind _ = _
    rw [hrest]
    rfl

end Holds

/-- The first steps of a run can be taken as well. -/
theorem Usable.take {count : Nat} {steps : List Step} (h : Usable count steps) (i : Nat) :
    Usable count (steps.take i) := by
  induction steps generalizing count i with
  | nil => rw [List.take_nil]; trivial
  | cons step rest ih =>
    cases i with
    | zero => trivial
    | succ i => exact ⟨h.1, ih h.2 i⟩

/-- After steps, every handle has the record that the register holds. -/
theorem currentAfter?_eq {first : Provider} {steps : List Step} (h : Usable 1 steps) {handle : Nat}
    (hhandle : handle < handlesAfter 1 steps) :
    currentAfter? first steps handle = some (heldAfter ⟨0, first⟩ steps) := by
  obtain ⟨s, hrun, hs⟩ := (holds_single first).run h
  rw [currentAfter?, hrun]
  exact hs.current hhandle

/-! ## What the register holds -/

/-- Every step has its answer. -/
theorem length_answers (held : Snapshot) (count : Nat) (steps : List Step) :
    (answers held count steps).length = steps.length := by
  induction steps generalizing held count with
  | nil => rfl
  | cons step rest ih => rw [answers, List.length_cons, ih, List.length_cons]

/-- A step is answered from what the steps before it have left. -/
theorem getElem?_answers (held : Snapshot) (count : Nat) (steps : List Step) (i : Nat) :
    (answers held count steps)[i]? = steps[i]?.map
      (Step.answer (heldAfter held (steps.take i)) (handlesAfter count (steps.take i))) := by
  induction steps generalizing held count i with
  | nil => rfl
  | cons step rest ih =>
    cases i with
    | zero => rfl
    | succ i => exact ih (step.next held) (step.handlesAfter count) i

/-- The first steps have the first answers. -/
theorem answers_take (held : Snapshot) (count : Nat) (steps : List Step) (i : Nat) :
    answers held count (steps.take i) = (answers held count steps).take i := by
  induction steps generalizing held count i with
  | nil => rw [List.take_nil, answers, List.take_nil]
  | cons step rest ih =>
    cases i with
    | zero => rfl
    | succ i => exact congrArg _ (ih (step.next held) (step.handlesAfter count) i)

/-- Every record among the answers is the one that was held just before the step. -/
theorem eq_heldAfter {held found : Snapshot} {count i : Nat} {steps : List Step}
    (h : (answers held count steps)[i]? = some (.snapshot found)) :
    found = heldAfter held (steps.take i) := by
  rw [getElem?_answers] at h
  obtain ⟨step, _, hanswer⟩ := Option.map_eq_some_iff.mp h
  cases step with
  | clone handle => cases hanswer
  | current handle => exact (Answer.snapshot.inj hanswer).symm
  | replace handle p => exact (Answer.snapshot.inj hanswer).symm

/-- What is held after more steps depends on what is held before them. -/
theorem heldAfter_append (held : Snapshot) (steps more : List Step) :
    heldAfter held (steps ++ more) = heldAfter (heldAfter held steps) more := List.foldl_append

/-- The number of the held record counts what has been installed. -/
theorem number_heldAfter (held : Snapshot) (steps : List Step) :
    (heldAfter held steps).number = held.number + (installed steps).length := by
  induction steps generalizing held with
  | nil => rfl
  | cons step rest ih =>
    have hrest := ih (step.next held)
    cases step with
    | clone | current => exact hrest
    | replace handle p =>
      calc (heldAfter held (.replace handle p :: rest)).number
          = held.number + 1 + (installed rest).length := hrest
        _ = held.number + ((installed rest).length + 1) := by omega

/-- The held record has the provider that was installed last. -/
theorem getLast?_installed (held : Snapshot) (steps : List Step) :
    (held.provider :: installed steps).getLast? = some (heldAfter held steps).provider := by
  induction steps generalizing held with
  | nil => rfl
  | cons step rest ih =>
    have hrest := ih (step.next held)
    cases step with
    | clone | current => exact hrest
    | replace handle p =>
      change (held.provider :: p :: installed rest).getLast? = _
      rw [List.getLast?_cons_cons]
      exact hrest

/-- The replaced objects and the one that is held at the end have all providers in order. -/
theorem map_provider_replaced (held : Snapshot) (count : Nat) (steps : List Step) :
    (replaced steps (answers held count steps) ++ [heldAfter held steps]).map Snapshot.provider =
      held.provider :: installed steps := by
  induction steps generalizing held count with
  | nil => rfl
  | cons step rest ih =>
    have hrest := ih (step.next held) (step.handlesAfter count)
    cases step with
    | clone | current => exact hrest
    | replace handle p => exact congrArg (held.provider :: ·) hrest

/-- They have ascending numbers without gaps. -/
theorem map_number_replaced (held : Snapshot) (count : Nat) (steps : List Step) :
    (replaced steps (answers held count steps) ++ [heldAfter held steps]).map Snapshot.number =
      List.range' held.number ((installed steps).length + 1) := by
  induction steps generalizing held count with
  | nil => rfl
  | cons step rest ih =>
    have hrest := ih (step.next held) (step.handlesAfter count)
    cases step with
    | clone | current => exact hrest
    | replace handle p => exact congrArg (held.number :: ·) hrest

/-- The steps up to a later point are those up to an earlier one and those between. -/
theorem take_append_between (steps : List Step) {i j : Nat} (h : i ≤ j) :
    steps.take i ++ (steps.take j).drop i = steps.take j := by
  have hparts := List.take_append_drop i (steps.take j)
  rwa [List.take_take, Nat.min_eq_left h] at hparts

/-- Records are the same object exactly when nothing was installed between them. -/
theorem number_heldAfter_eq_iff (held : Snapshot) (steps more : List Step) :
    (heldAfter held steps).number = (heldAfter held (steps ++ more)).number ↔
      installed more = [] := by
  rw [heldAfter_append, number_heldAfter (heldAfter held steps) more, ← List.length_eq_zero_iff]
  omega

/-- Records are equal where nothing was installed between them. -/
theorem heldAfter_of_installed_eq_nil {steps : List Step} (h : installed steps = [])
    (held : Snapshot) : heldAfter held steps = held := by
  induction steps with
  | nil => rfl
  | cons step rest ih =>
    cases step with
    | clone | current => exact ih h
    | replace handle p => cases h

/-- The same record is held at two points exactly when none is installed between. -/
theorem number_heldAfter_take_eq_iff {steps : List Step} {i j : Nat} (h : i ≤ j) (held : Snapshot) :
    (heldAfter held (steps.take i)).number = (heldAfter held (steps.take j)).number ↔
      installed ((steps.take j).drop i) = [] := by
  have hiff := number_heldAfter_eq_iff held (steps.take i) ((steps.take j).drop i)
  rwa [take_append_between steps h] at hiff

/-- The same object is the same record at all times. -/
theorem heldAfter_take_eq {steps : List Step} {i j : Nat} (h : i ≤ j) {held : Snapshot}
    (hnumber : (heldAfter held (steps.take i)).number = (heldAfter held (steps.take j)).number) :
    heldAfter held (steps.take i) = heldAfter held (steps.take j) := by
  have hnone := (number_heldAfter_take_eq_iff h held).mp hnumber
  rw [← take_append_between steps h, heldAfter_append, heldAfter_of_installed_eq_nil hnone]

/-- Steps through handles that exist are all answered, and as by a single register. -/
theorem run_linear (first : Provider) (steps : List Step) (h : Usable 1 steps) :
    ∃ answers last, (single first).run? steps = some (answers, last) ∧
      Linear first steps answers := by
  obtain ⟨last, hrun, _⟩ := (holds_single first).run h
  refine ⟨answers ⟨0, first⟩ 1 steps, last, hrun, ?_⟩
  constructor
  case answered => exact length_answers _ _ _
  case clone =>
    intro i handle hstep
    rw [getElem?_answers, hstep]
    rfl
  case current =>
    intro i handle hstep
    refine ⟨heldAfter ⟨0, first⟩ (steps.take i), ?_, getLast?_installed ⟨0, first⟩ _⟩
    rw [getElem?_answers, hstep]
    rfl
  case replace =>
    intro i handle p hstep
    refine ⟨heldAfter ⟨0, first⟩ (steps.take i), ?_, fun other hother => ?_⟩
    · rw [getElem?_answers, hstep]
      rfl
    · exact currentAfter?_eq (h.take i) hother
  case complete =>
    refine ⟨heldAfter ⟨0, first⟩ steps, fun handle hhandle => currentAfter?_eq h hhandle, ?_, ?_⟩
    · exact map_provider_replaced ⟨0, first⟩ 1 steps
    · rw [map_number_replaced]
      exact List.nodup_range'
  case same =>
    intro i j found later hle hfound hlater
    rw [eq_heldAfter hfound, eq_heldAfter hlater, number_heldAfter_take_eq_iff hle]
  case settled =>
    intro i
    obtain ⟨_, htake, _⟩ := (holds_single first).run (h.take i)
    rw [htake, ← answers_take]
    rfl
  case kept =>
    intro i j found later hfound hlater hnumber
    rw [eq_heldAfter hfound, eq_heldAfter hlater] at hnumber ⊢
    rcases Nat.le_total i j with hle | hle
    · rw [heldAfter_take_eq hle hnumber]
    · rw [heldAfter_take_eq hle hnumber.symm]

/-- A provider with nothing but a client id. -/
def clientProvider : Provider := { clientId := some "a" }

/-- Steps through three handles. The first replacement installs an equal record. -/
def reinstallSteps : List Step :=
  [.current 0, .clone 0, .replace 1 clientProvider, .current 0, .clone 1, .replace 2 {}, .current 1]

/-- What those steps give. -/
def reinstallAnswers : List Answer :=
  [.snapshot ⟨0, clientProvider⟩, .handle 1, .snapshot ⟨0, clientProvider⟩,
    .snapshot ⟨1, clientProvider⟩, .handle 2, .snapshot ⟨1, clientProvider⟩, .snapshot ⟨2, {}⟩]

/-- An equal record is another object. -/
theorem run_linear_reinstall :
    Usable 1 reinstallSteps ∧ ∃ last,
      (single clientProvider).run? reinstallSteps = some (reinstallAnswers, last) ∧
        Linear clientProvider reinstallSteps reinstallAnswers := by
  have husable : Usable 1 reinstallSteps := by decide
  obtain ⟨answers, last, hrun, hlinear⟩ := run_linear clientProvider reinstallSteps husable
  have hgiven : ((single clientProvider).run? reinstallSteps).map Prod.fst =
      some reinstallAnswers := rfl
  rw [hrun] at hgiven
  obtain rfl : answers = reinstallAnswers := Option.some.inj hgiven
  exact ⟨husable, last, hrun, hlinear⟩

end GrantConfig.Shared
