import GatewayPrint.Proofs.Kubeconfig.LookUp

/-!
# What is handled

A step of the look-up is handled when each of its faults becomes a failure of the program's own. A
sequence of steps is handled when its first step is, and what follows is wherever the first step
leads (`handled_bind_iff`).
-/

namespace GatewayPrint.Kubeconfig

open Outcome

variable {α β : Type}

/-- Every fault of a step becomes a failure of the program's own. -/
def Handled (x : Except Fault α) : Prop := FailsBy (fun f ↦ f.isUnhandled = false) x

theorem Handled.bind {x : Except Fault α} {f : α → Except Fault β} (hx : Handled x)
    (hf : ∀ a, x = .ok a → Handled (f a)) : Handled (x >>= f) :=
  FailsBy.bind hx hf

end GatewayPrint.Kubeconfig
