import GatewayPrint.Namespace.Active
import GatewayPrint.Proofs.Logged

/-!
# The look-up without its records

`Source.activeNamespace` reports on the way what it does. Its result does not depend on that, so the
theory of the look-up is stated about `Source.lookUp`, which has the same steps without records and
leaves faults as they are. `result_activeNamespace` is the bridge.

Every fault is put into words either as a failure of the program's own that carries its cause, or as
an error of other code. Which of the two is a matter of the kind of fault alone
(`Fault.isUnhandled`, `Fault.failure_of_isUnhandled`, `Fault.failure_of_not_isUnhandled`).
-/

namespace GatewayPrint

open Outcome

namespace Kubeconfig

namespace Source

@[simp] theorem result_note (m : String) : (note m).result = .ok () := rfl

theorem result_lift {α : Type} (r : Except Fault α) :
    (lift r).result = r.mapError Fault.failure := by
  cases r with
  | error f => rfl
  | ok a => rfl

/-- The namespace of the current context in some files. -/
def namespaceIn (s : Source) (paths : List String) : Except Fault String := do
  let merged ← Merged.ofFiles s.files s.accounts s.home (":".intercalate paths)
  match merged with
  | none => return ""
  | some m =>
    let current ← m.currentContext paths
    if current.isEmpty then return "" else m.namespaceOf current

/-- The namespace of the current context, with faults as they are. -/
def lookUp (s : Source) : Except Fault String := do
  let paths ← s.paths
  if paths.isEmpty then s.podNamespace
  else
    let written ← s.written paths
    if written.isEmpty then s.podNamespace.mapError afterReading
    else s.namespaceIn (written.map Path.text)

theorem mapError_bind {α β ε : Type} (x : Except Fault α) (f : α → Except Fault β)
    (g : Fault → ε) : (x >>= f).mapError g = x.mapError g >>= fun a ↦ (f a).mapError g := by
  cases x with
  | error e => rfl
  | ok a => rfl

private theorem result_contextNamespace (s : Source) (paths : List String) :
    (s.contextNamespace paths).result = (s.namespaceIn paths).mapError Fault.failure := by
  rw [contextNamespace, namespaceIn, Logged.result_bind, result_lift, mapError_bind]
  congr 1
  funext merged
  cases merged with
  | none => rfl
  | some m =>
    simp only
    rw [Logged.result_bind, result_lift, mapError_bind]
    congr 1
    funext current
    split
    · rfl
    · exact result_lift _

/-- **The bridge.** Records change nothing. -/
theorem result_activeNamespace (s : Source) :
    s.activeNamespace.result = s.lookUp.mapError Fault.failure := by
  rw [activeNamespace, lookUp, Logged.result_bind, result_lift, mapError_bind]
  congr 1
  funext paths
  split
  · rw [Logged.result_bind, result_note, ok_bind, result_lift]
  · rw [Logged.result_bind, result_note, ok_bind, Logged.result_bind, result_lift, mapError_bind]
    congr 1
    funext written
    split
    · rw [Logged.result_bind, result_note, ok_bind, result_lift]
    · exact result_contextNamespace s _

end Source

/-! ## Faults in words -/

end Kubeconfig

/-- A fault of a document that is passed on as it is: of its bytes, of a value that only the value
itself forbids, or of containers that the reader cannot follow. -/
def Yaml.Fault.isUnhandled : Yaml.Fault → Bool
  | .encoding _ => true
  | .character .. => false
  | .error _ => false
  | .scalar (.boolean _) => false
  | .scalar .notTimestamp => false
  | .scalar .timestampNode => false
  | .scalar _ => true
  | .tooDeep => true

namespace Kubeconfig.Fault

/-- A fault that is passed on as an error of other code. -/
def isUnhandled : Fault → Bool
  | yaml _ f => f.isUnhandled
  | unseen .. => true
  | noHome => true
  | nullCharacter => true
  | digits => true
  | accountEncoding _ => true
  | _ => false

/-- The classes of error that are passed on. -/
def escapingKinds : List String :=
  ["OSError", "PermissionError", "RuntimeError", "RecursionError", "ValueError",
    "UnicodeDecodeError", "IndexError", "OverflowError"]

theorem failure_of_isUnhandled {f : Fault} (h : f.isUnhandled = true) :
    ∃ e, f.failure = .foreign e ∧ e.kind ∈ escapingKinds := by
  cases f with
  | yaml path g =>
    cases g with
    | encoding u => exact ⟨_, rfl, by simp [escapingKinds, Yaml.Fault.errorName]⟩
    | character code position => exact absurd h (by simp [isUnhandled, Yaml.Fault.isUnhandled])
    | error e => exact absurd h (by simp [isUnhandled, Yaml.Fault.isUnhandled])
    | scalar u =>
      cases u <;>
        first
        | exact ⟨_, rfl, by simp [escapingKinds, Yaml.Fault.errorName]⟩
        | exact absurd h (by simp [isUnhandled, Yaml.Fault.isUnhandled])
    | tooDeep => exact ⟨_, rfl, by simp [escapingKinds, Yaml.Fault.errorName]⟩
  | unseen o path =>
    cases o <;>
      exact ⟨_, rfl, by simp [escapingKinds, FileTree.Obstacle.error, SystemError.about,
        SystemError.errorName]⟩
  | noHome => exact ⟨_, rfl, by simp [escapingKinds]⟩
  | nullCharacter => exact ⟨_, rfl, by simp [escapingKinds]⟩
  | digits => exact ⟨_, rfl, by simp [escapingKinds]⟩
  | accountEncoding u => exact ⟨_, rfl, by simp [escapingKinds]⟩
  | _ => exact absurd h (by simp [isUnhandled])

/-- Every other fault becomes a failure of the program's own, and its cause is kept. -/
theorem failure_of_not_isUnhandled {f : Fault} (h : f.isUnhandled = false) :
    ∃ message hint cause, f.failure = .configLoad message hint (some cause) := by
  cases f with
  | yaml path g =>
    cases g with
    | encoding u => exact absurd h (by simp [isUnhandled, Yaml.Fault.isUnhandled])
    | character code position => exact ⟨_, _, _, rfl⟩
    | error e => exact ⟨_, _, _, rfl⟩
    | scalar u =>
      cases u <;>
        first
        | exact ⟨_, _, _, rfl⟩
        | exact absurd h (by simp [isUnhandled, Yaml.Fault.isUnhandled])
    | tooDeep => exact absurd h (by simp [isUnhandled, Yaml.Fault.isUnhandled])
  | unseen o path => exact absurd h (by simp [isUnhandled])
  | noHome => exact absurd h (by simp [isUnhandled])
  | nullCharacter => exact absurd h (by simp [isUnhandled])
  | digits => exact absurd h (by simp [isUnhandled])
  | accountEncoding u => exact absurd h (by simp [isUnhandled])
  | _ => exact ⟨_, _, _, rfl⟩

end Kubeconfig.Fault

end GatewayPrint
