import GatewayPrint.Log
import GatewayPrint.Proofs.Outcome

/-!
# Results and their records

The result of a sequence of steps does not depend on what the steps report (`result_bind`), and a
sequence reports nothing but details if none of its steps does (`IsDiscreet.bind`).
-/

namespace GatewayPrint.Logged

open Outcome

variable {α β : Type}

theorem result_bind (x : Logged α) (f : α → Logged β) :
    (x >>= f).result = x.result >>= fun a ↦ (f a).result := by
  change (x.bind f).result = _
  cases h : x.result with
  | error e => rw [bind_error h, error_bind]
  | ok a => rw [bind_ok h, ok_bind]

/-! ## Records of details only -/

/-- All records are details, of interest to those who look for a mistake. -/
def IsDiscreet (x : Logged α) : Prop := ∀ r ∈ x.records, r.level = .debug

theorem isDiscreet_pure (a : α) : IsDiscreet (pure a) := fun _ hr ↦ nomatch hr

theorem isDiscreet_fail (f : Failure) : IsDiscreet (fail f : Logged α) := fun _ hr ↦ nomatch hr

theorem isDiscreet_lift (r : Except Failure α) : IsDiscreet (lift r) := fun _ hr ↦ nomatch hr

theorem isDiscreet_note (logger message : String) :
    IsDiscreet (note (Log.debug logger message)) := by
  intro r hr
  rw [List.mem_singleton.mp hr]
  rfl

theorem IsDiscreet.bind {x : Logged α} {f : α → Logged β} (hx : IsDiscreet x)
    (hf : ∀ a, IsDiscreet (f a)) : IsDiscreet (x.bind f) := by
  intro r hr
  cases h : x.result with
  | error e =>
    rw [bind_error h] at hr
    exact hx r hr
  | ok a =>
    rw [Logged.bind, h] at hr
    rcases List.mem_append.mp hr with hr | hr
    · exact hx r hr
    · exact hf a r hr

end GatewayPrint.Logged
