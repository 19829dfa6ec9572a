import Mathlib.Tactic.Common

/-!
# Steps that may fail

Facts about sequences of steps of which each may end the whole with a fault: when a sequence
succeeds, when it fails, and what changing the faults afterwards does to it. Of a step it can be
said which kinds of fault it fails by (`FailsBy`), and a sequence fails by the kinds that its steps
fail by, wherever they lead (`FailsBy.bind`).
-/

namespace GatewayPrint.Outcome

variable {ε ε' α β γ : Type}

@[simp] theorem ok_bind (a : α) (f : α → Except ε β) : ((.ok a : Except ε α) >>= f) = f a := rfl

@[simp] theorem error_bind (e : ε) (f : α → Except ε β) :
    ((.error e : Except ε α) >>= f) = .error e := rfl

@[simp] theorem map_ok (f : α → β) (a : α) : (Except.ok a : Except ε α).map f = .ok (f a) := rfl

@[simp] theorem map_error (f : α → β) (e : ε) :
    (Except.error e : Except ε α).map f = .error e := rfl

@[simp] theorem mapError_ok (f : ε → ε') (a : α) :
    (Except.ok a : Except ε α).mapError f = .ok a := rfl

@[simp] theorem mapError_error (f : ε → ε') (e : ε) :
    (Except.error e : Except ε α).mapError f = .error (f e) := rfl

/-- A sequence succeeds exactly when both of its steps do. -/
theorem bind_eq_ok {x : Except ε α} {f : α → Except ε β} {b : β} :
    (x >>= f) = .ok b ↔ ∃ a, x = .ok a ∧ f a = .ok b := by
  cases x with
  | error e => simp
  | ok a => simp

theorem map_eq_ok {x : Except ε α} {f : α → β} {b : β} :
    x.map f = .ok b ↔ ∃ a, x = .ok a ∧ f a = b := by
  cases x with
  | error e => simp
  | ok a => simp

theorem map_eq_error {x : Except ε α} {f : α → β} {e : ε} :
    x.map f = .error e ↔ x = .error e := by
  cases x with
  | error e' => simp
  | ok a => simp

theorem mapError_eq_ok {x : Except ε α} {f : ε → ε'} {a : α} :
    x.mapError f = .ok a ↔ x = .ok a := by
  cases x with
  | error e => simp
  | ok a' => simp

theorem mapError_eq_error {x : Except ε α} {f : ε → ε'} {e' : ε'} :
    x.mapError f = .error e' ↔ ∃ e, x = .error e ∧ f e = e' := by
  cases x with
  | error e => simp
  | ok a' => simp

theorem eq_ok_of_toOption {x : Except ε α} {a : α} (h : x.toOption = some a) : x = .ok a := by
  cases x with
  | error e => cases h
  | ok b => exact congrArg Except.ok (Option.some.inj h)

/-! ## Kinds of fault -/

/-- A step that fails by faults of one kind only. -/
def FailsBy (K : ε → Prop) (x : Except ε α) : Prop := ∀ e, x = .error e → K e

variable {K : ε → Prop}

theorem failsBy_ok (a : α) : FailsBy K (.ok a : Except ε α) := fun _ h ↦ nomatch h

theorem failsBy_error_iff {e : ε} : FailsBy K (.error e : Except ε α) ↔ K e :=
  ⟨fun h ↦ h e rfl, fun h _ hf ↦ Except.error.inj hf ▸ h⟩

theorem failsBy_error {e : ε} (h : K e) :
    FailsBy K (.error e : Except ε α) := failsBy_error_iff.mpr h

theorem FailsBy.bind {x : Except ε α} {f : α → Except ε β} (hx : FailsBy K x)
    (hf : ∀ a, x = .ok a → FailsBy K (f a)) : FailsBy K (x >>= f) := by
  cases x with
  | error e => exact failsBy_error (hx e rfl)
  | ok a => exact hf a rfl

theorem FailsBy.map {x : Except ε α} (hx : FailsBy K x) (f : α → β) : FailsBy K (x.map f) :=
  fun e he ↦ hx e (map_eq_error.mp he)

theorem FailsBy.mono {K' : ε → Prop} {x : Except ε α} (hx : FailsBy K x) (h : ∀ e, K e → K' e) :
    FailsBy K' x := fun e he ↦ h e (hx e he)

theorem FailsBy.mapM {f : α → Except ε β} {xs : List α} (h : ∀ x ∈ xs, FailsBy K (f x)) :
    FailsBy K (xs.mapM f) := by
  induction xs with
  | nil => exact failsBy_ok []
  | cons x rest ih =>
    rw [List.mapM_cons]
    exact (h x List.mem_cons_self).bind fun y _ ↦
      (ih fun z hz ↦ h z (List.mem_cons_of_mem x hz)).bind fun ys _ ↦ failsBy_ok _

end GatewayPrint.Outcome
