import GatewayPrint.Proofs.Kubeconfig.Handled
import GatewayPrint.Proofs.Kubeconfig.Rereading

/-!
# How merging fails

Adding entries looks into values and puts them into words, and it fails by what it finds there
(`Fault.IsOfEntries`). A file can fail to be loaded before that, and a document as a whole is
refused only for being null. So a file that is reported as empty is one of those that were opened,
and holds the null document (`isNull_of_emptyFile`).
-/

namespace GatewayPrint.Kubeconfig

open Outcome

/-- What a look into a value fails by: a key that is missing, or another shape. -/
def Fault.IsOfLook : Fault → Prop
  | missingEntry .. | shape _ => True
  | _ => False

/-- What adding entries fails by: a look into them, or an entry without words. -/
def Fault.IsOfEntries (f : Fault) : Prop := f.IsOfLook ∨ f = .digits

theorem Fault.IsOfLook.isUnhandled {f : Fault} (h : f.IsOfLook) : f.isUnhandled = false := by
  cases f <;> first | rfl | exact h.elim

theorem failsBy_display (d : Datum) : FailsBy Fault.IsOfEntries d.display := by
  rw [Datum.display]
  split
  · exact failsBy_ok _
  · exact failsBy_error (.inr rfl)

theorem failsBy_get (n : Node) (key : String) : FailsBy Fault.IsOfLook (n.get key) := by
  rw [Node.get]
  split
  · exact failsBy_error trivial
  · exact failsBy_error trivial
  · split
    · exact failsBy_error trivial
    · exact failsBy_ok _

namespace Merged

theorem failsBy_isTaken (item : Datum) (nodes : List Node) :
    FailsBy Fault.IsOfLook (isTaken item nodes) := by
  induction nodes with
  | nil => exact failsBy_ok false
  | cons n rest ih =>
    rw [isTaken]
    refine (failsBy_get n "name").bind fun known _ ↦ ?_
    split
    · exact failsBy_error trivial
    · split
      · exact failsBy_ok true
      · exact ih

private theorem failsBy_addItems (path : String) (items : List Datum) (nodes : List Node) :
    FailsBy Fault.IsOfEntries (addItems path items nodes) := by
  induction items generalizing nodes with
  | nil => exact failsBy_ok nodes
  | cons item rest ih =>
    rw [addItems]
    refine ((failsBy_isTaken item nodes).mono fun _ ↦ Or.inl).bind fun taken _ ↦ ?_
    split
    · exact ih nodes
    · exact (failsBy_display item).bind fun text _ ↦ ih _

theorem failsBy_addSection (path : String) (d : Datum) (m : Merged) (s : Section) :
    FailsBy Fault.IsOfEntries (addSection path d m s) := by
  rw [addSection]
  split
  · exact failsBy_error (.inl trivial)
  · exact (failsBy_addItems path _ _).map _

private theorem failsBy_before (path : String) (d : Datum) (m : Option Merged) :
    FailsBy Fault.IsOfLook (before path d m) := by
  cases m with
  | some m => exact failsBy_ok m
  | none =>
    rw [before, Option.elim_none, start]
    split
    · exact failsBy_ok _
    · exact failsBy_error trivial
    · exact failsBy_error trivial

/-- **A document** is refused for being null, or by what is found in it. -/
theorem failsBy_addDocument (path : String) (d : Datum) (m : Option Merged) :
    FailsBy (fun f ↦ f.IsOfEntries ∨ f = .emptyFile path ∧ d.isNull = true)
      (addDocument path d m) := by
  by_cases hd : d.resolved = .null
  · rw [addDocument, hd]
    exact failsBy_error (.inr ⟨rfl, by rw [Datum.isNull, hd]⟩)
  · rw [addDocument_eq hd]
    refine FailsBy.mono ?_ fun f ↦ Or.inl
    exact ((failsBy_before path d m).mono fun _ ↦ Or.inl).bind fun m₀ _ ↦
      (failsBy_addSection path d m₀ _).bind fun m₁ _ ↦
      (failsBy_addSection path d m₁ _).bind fun m₂ _ ↦
      (failsBy_addSection path d m₂ _).bind fun m₃ _ ↦ failsBy_ok _

private theorem failsBy_load (t : FileTree) (path : String) :
    FailsBy (fun f ↦ ∀ name, f ≠ .emptyFile name) (load t path) := by
  rw [load]
  split
  · split
    · exact failsBy_ok _
    · exact failsBy_error (by simp)
  · exact failsBy_error (by simp)
  · exact failsBy_error (by simp)

/-- **A file that is reported as empty** is one of those that are added, and its document is
null. -/
theorem isNull_of_emptyFile {t : FileTree} {names : List String} {m : Option Merged}
    {path : String} (h : addFiles t names m = .error (.emptyFile path)) :
    path ∈ names ∧ ∃ d, load t path = .ok d ∧ d.isNull = true := by
  induction names generalizing m with
  | nil => cases h
  | cons name rest ih =>
    rw [addFiles] at h
    cases hd : load t name with
    | error f =>
      rw [hd] at h
      cases h
      exact absurd rfl (failsBy_load t name _ hd path)
    | ok d =>
      rw [hd, ok_bind] at h
      cases hx : addDocument name d m with
      | error f =>
        rw [hx] at h
        cases h
        rcases failsBy_addDocument name d m _ hx with (hlook | hdigits) | ⟨hname, hnull⟩
        · exact hlook.elim
        · cases hdigits
        · cases hname
          exact ⟨List.mem_cons_self, d, hd, hnull⟩
      | ok x =>
        rw [hx, ok_bind] at h
        exact (ih h).imp_left (List.mem_cons_of_mem name)

end Merged

end GatewayPrint.Kubeconfig
