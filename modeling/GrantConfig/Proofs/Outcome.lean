/-!
# Outcomes that may fail

When a computation made of steps that may fail succeeds, and with what.
-/

namespace GrantConfig

/-- Two steps in a row succeed exactly when the first does and the second does with its value. -/
theorem bind_eq_ok {ε α β : Type} {x : Except ε α} {f : α → Except ε β} {b : β} :
    x >>= f = .ok b ↔ ∃ a, x = .ok a ∧ f a = .ok b := by
  cases x with
  | error e =>
    constructor
    · intro h
      cases h
    · intro hgiven
      obtain ⟨a, ha, _⟩ := hgiven
      cases ha
  | ok a =>
    constructor
    · exact fun h => ⟨a, rfl, h⟩
    · intro hgiven
      obtain ⟨_, ha, h⟩ := hgiven
      cases ha
      exact h

/-- A step for each element of two lists in a row succeeds exactly when it does for both lists. -/
theorem mapM_append_eq_ok {ε α β : Type} {f : α → Except ε β} {front back : List α} {out : List β} :
    (front ++ back).mapM f = .ok out ↔
      ∃ x, front.mapM f = .ok x ∧ ∃ y, back.mapM f = .ok y ∧ x ++ y = out := by
  simp only [List.mapM_append, bind_eq_ok, pure, Except.pure, Except.ok.injEq]

/-- Steps that do the same for every element of a list do the same for the list. -/
theorem mapM_congr {ε α β : Type} {f g : α → Except ε β} {xs : List α} (h : ∀ x ∈ xs, f x = g x) :
    xs.mapM f = xs.mapM g := by
  induction xs with
  | nil => rfl
  | cons x rest ih =>
    rw [List.forall_mem_cons] at h
    rw [List.mapM_cons, List.mapM_cons, h.1, ih h.2]

/-- A value that is computed from the value of a step is there exactly when that value is. -/
theorem map_eq_ok {ε α β : Type} {x : Except ε α} {f : α → β} {b : β} :
    x.map f = .ok b ↔ ∃ a, x = .ok a ∧ f a = b := by
  cases x with
  | error e =>
    constructor
    · intro h
      cases h
    · intro hgiven
      obtain ⟨a, ha, _⟩ := hgiven
      cases ha
  | ok a =>
    constructor
    · intro h
      cases h
      exact ⟨a, rfl, rfl⟩
    · intro hgiven
      obtain ⟨_, ha, rfl⟩ := hgiven
      cases ha
      rfl

/-- What is computed from the value of a step fails exactly as the step does. -/
theorem map_eq_error {ε α β : Type} {x : Except ε α} {f : α → β} {e : ε} :
    x.map f = .error e ↔ x = .error e := by
  cases x with
  | error d =>
    constructor
    · intro h
      cases h
      rfl
    · intro h
      cases h
      rfl
  | ok a =>
    constructor
    · intro h
      cases h
    · intro h
      cases h

/-- Rewording an error neither makes nor hides a success. -/
theorem mapError_eq_ok {ε δ α : Type} {x : Except ε α} {f : ε → δ} {a : α} :
    x.mapError f = .ok a ↔ x = .ok a := by
  cases x with
  | error e =>
    constructor
    · intro h
      cases h
    · intro h
      cases h
  | ok a =>
    constructor
    · intro h
      cases h
      rfl
    · intro h
      cases h
      rfl

/-- A reworded error is that of the computation in other words. -/
theorem mapError_eq_error {ε δ α : Type} {x : Except ε α} {f : ε → δ} {d : δ} :
    x.mapError f = .error d ↔ ∃ e, x = .error e ∧ f e = d := by
  cases x with
  | error e =>
    constructor
    · intro h
      cases h
      exact ⟨e, rfl, rfl⟩
    · intro hgiven
      obtain ⟨_, he, rfl⟩ := hgiven
      cases he
      rfl
  | ok a =>
    constructor
    · intro h
      cases h
    · intro hgiven
      obtain ⟨_, ha, _⟩ := hgiven
      cases ha

/-- The same is made of two results exactly when both are successes of whose values the same is made,
or both are the same error. -/
theorem map_eq_map_iff {ε α β γ : Type} {x : Except ε α} {y : Except ε β} {f : α → γ} {g : β → γ} :
    x.map f = y.map g ↔
      (∃ a b, x = .ok a ∧ y = .ok b ∧ f a = g b) ∨ ∃ e, x = .error e ∧ y = .error e := by
  cases x with
  | error e =>
    cases y with
    | error d => simp [Except.map, eq_comm]
    | ok b => simp [Except.map]
  | ok a =>
    cases y with
    | error d => simp [Except.map]
    | ok b => simp [Except.map]

/-- A result that is more than an error is a success. -/
theorem eq_ok_of_toOption {ε α : Type} {x : Except ε α} {a : α} (h : x.toOption = some a) :
    x = .ok a := by
  cases x with
  | error e => cases h
  | ok b => exact congrArg _ (Option.some.inj h)

end GrantConfig
