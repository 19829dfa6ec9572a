import GatewayPrint.Proofs.Kubeconfig.Handled

/-!
# Places and the pod

What looking for files lets past, and what asking the pod does. Both look at places: a place has to
be found first, by a home directory for its tilde, and then a look has to get there. A look that
does not get to its place is not handled while files are looked for, and it is once their reading
has begun (`afterReading`); so the token of the service account counts when it is looked for at
once, and does not after files that say nothing.
-/

namespace GatewayPrint.Kubeconfig.Source

open Outcome

variable {s : Source} {p : Path} {f : Fault} {β : Type}

/-! ## Places -/

/-- The places where a file is looked for, with their tildes. -/
def candidates (s : Source) : List Path :=
  match s.explicitPath with
  | some p => [p]
  | none =>
    let list := s.env.get "KUBECONFIG"
    if list.isEmpty then [s.homeFile] else (Merged.namesIn list).map Path.ofText

/-- A place that a look gets to: its name is not too long, and no folder on the way is closed. -/
def InSight (s : Source) (p : Path) : Prop := ∀ o, s.files.find p.text ≠ .barred o

theorem expand_eq_ok {q : Path} :
    s.expand p = .ok q ↔ p.expandHome s.accounts s.home = some q := by
  rw [expand]
  cases p.expandHome s.accounts s.home with
  | some r => simp
  | none =>
    simp only [reduceCtorEq, iff_false]
    split <;> exact nofun

/-- How a look at a place ends: it does not get there, or it sees whether something is there. -/
def LookEnds (s : Source) (p : Path) (r : Except Fault Bool) : Prop :=
  (∃ o, s.files.find p.text = .barred o ∧ r = .error (.unseen o p.text)) ∨
    (s.InSight p ∧ ∃ there, r = .ok there)

theorem lookEnds_isFile (s : Source) (p : Path) : s.LookEnds p (s.isFile p) := by
  rw [LookEnds, InSight, isFile]
  cases s.files.find p.text <;> simp

/-- A look gets to the token of the service account, or is not made. -/
def TokenKnown (s : Source) : Prop :=
  (s.env.get "KUBERNETES_SERVICE_HOST").isEmpty = true ∨
    (s.env.get "KUBERNETES_SERVICE_PORT").isEmpty = true ∨
    s.InSight (s.account.append "token")

/-- What is asked of a pod once it is known whether the program runs in one. -/
def podAnswer (s : Source) (inside : Bool) : Except Fault String :=
  if inside then
    if (s.env.get "POD_NAMESPACE").isEmpty then s.accountNamespace
    else .ok (s.env.get "POD_NAMESPACE")
  else .ok ""

theorem podNamespace_eq (s : Source) : s.podNamespace = s.inCluster >>= s.podAnswer := rfl

theorem podAnswer_afterReading (s : Source) (inside : Bool) :
    (s.podAnswer inside).mapError afterReading = s.podAnswer inside := by
  rw [podAnswer, accountNamespace]
  split
  · split
    · cases s.files.find (s.account.append "namespace").text with
      | file content =>
        simp only
        split <;> rfl
      | _ => rfl
    · rfl
  · rfl

end GatewayPrint.Kubeconfig.Source
