/-!
# Computations that may fail

Reading and rendering are chains of steps in `Except`. The lemmas here open one step: what a chain
that succeeds says about its first step, and at which of the two steps a chain that fails has
failed. `Succeeds` says that there is a result, whatever it is.
-/

namespace SafeMarkdown

variable {ε δ α β γ : Type}

@[simp] theorem pure_eq_ok (a : α) : (pure a : Except ε α) = .ok a := rfl

@[simp] theorem ok_bind (a : α) (f : α → Except ε β) : (Except.ok a >>= f) = f a := rfl

@[simp] theorem error_bind (e : ε) (f : α → Except ε β) : (Except.error e >>= f) = .error e := rfl

@[simp] theorem mapError_ok (f : ε → δ) (a : α) :
    (Except.ok a : Except ε α).mapError f = .ok a := rfl

@[simp] theorem mapError_error (f : ε → δ) (e : ε) :
    (Except.error e : Except ε α).mapError f = .error (f e) := rfl

/-- A chain succeeds when its first step does, and the rest does on what the first step gave. -/
theorem bind_eq_ok_iff {step : Except ε α} {next : α → Except ε β} {b : β} :
    (step >>= next) = .ok b ↔ ∃ a, step = .ok a ∧ next a = .ok b := by
  cases step <;> simp

/-- A chain fails at its first step or at a later one. -/
theorem bind_eq_error_iff {step : Except ε α} {next : α → Except ε β} {e : ε} :
    (step >>= next) = .error e ↔ step = .error e ∨ ∃ a, step = .ok a ∧ next a = .error e := by
  cases step <;> simp

/-- What one check and two steps give, put together. -/
theorem exists_of_checked_eq_ok {check : Except ε Unit} {x : Except ε α} {y : Except ε β}
    {f : α → β → γ} {c : γ} (h : (do check; return f (← x) (← y)) = .ok c) :
    ∃ a b, x = .ok a ∧ y = .ok b ∧ f a b = c := by
  obtain ⟨-, -, h⟩ := bind_eq_ok_iff.1 h
  obtain ⟨a, ha, h⟩ := bind_eq_ok_iff.1 h
  obtain ⟨b, hb, h⟩ := bind_eq_ok_iff.1 h
  exact ⟨a, b, ha, hb, Except.ok.inj h⟩

/-- A result that is mapped comes from a result. -/
theorem map_eq_ok_iff {step : Except ε α} {f : α → β} {b : β} :
    step.map f = .ok b ↔ ∃ a, step = .ok a ∧ f a = b := by
  cases step <;> simp [Except.map]

/-- Mapping results leaves failures as they are. -/
theorem map_eq_error_iff {step : Except ε α} {f : α → β} {e : ε} :
    step.map f = .error e ↔ step = .error e := by
  cases step <;> simp [Except.map]

/-- Mapping failures leaves results as they are. -/
theorem mapError_eq_ok_iff {step : Except ε α} {f : ε → δ} {a : α} :
    step.mapError f = .ok a ↔ step = .ok a := by
  cases step <;> simp

/-- A failure that is mapped comes from a failure. -/
theorem mapError_eq_error_iff {step : Except ε α} {f : ε → δ} {d : δ} :
    step.mapError f = .error d ↔ ∃ e, step = .error e ∧ f e = d := by
  cases step <;> simp

/-! ### Success -/

/-- The computation gives a result. -/
def Succeeds (x : Except ε α) : Prop :=
  ∃ a, x = .ok a

/-- A result is a success. -/
@[simp] theorem succeeds_ok (a : α) : Succeeds (.ok a : Except ε α) := ⟨a, rfl⟩

/-- A failure is not. -/
@[simp] theorem not_succeeds_error (e : ε) : ¬ Succeeds (.error e : Except ε α) := by
  rintro ⟨a, h⟩
  cases h

/-- A step that cannot fail does not change whether there is a result. -/
@[simp] theorem succeeds_bind_ok_iff {x : Except ε α} {f : α → β} :
    Succeeds (x >>= fun a ↦ .ok (f a)) ↔ Succeeds x := by
  cases x <;> simp

/-- Two steps that do not depend on one another succeed together when each does. -/
theorem succeeds_both_iff {x : Except ε α} {y : Except ε β} {f : α → β → γ} :
    Succeeds (x >>= fun a ↦ y >>= fun b ↦ .ok (f a b)) ↔ Succeeds x ∧ Succeeds y := by
  cases x <;> simp

end SafeMarkdown
