import GatewayPrint.Proofs.Kubeconfig.FirstFile
import GatewayPrint.Proofs.Kubeconfig.LookUp
import Mathlib.Data.List.Forall2

/-!
# Files under other names

The name of a file goes into the names of nodes and from there into messages, and it is the key
under which the document of the file is kept. Nothing else depends on it. Two runs of one step that
differ in names of files only are related by `Alike`: results correspond, and faults have the same
classes.

The relation is carried from each step to the next one (`Alike.bind`), so what has to be shown of a
step is what it does itself.
-/

namespace GatewayPrint

open Outcome

/-- The class of a failure, and that of its cause. -/
def Failure.classes (f : Failure) : String × Option String := (f.kind, f.cause.map Foreign.kind)

/-- The texts of a failure to load do not count. -/
theorem Failure.classes_configLoad (message : String) (hint : Option String) (cause : Foreign) :
    (Failure.configLoad message hint (some cause)).classes
      = ("ConfigLoadError", some cause.kind) := rfl

/-- The same answer, or failures of the same classes. -/
def SameOutcome (x y : Except Failure String) : Prop :=
  x.mapError Failure.classes = y.mapError Failure.classes

namespace Kubeconfig

variable {α α' β β' : Type}

/-- The class of the error that a fault is reported as, and that of its cause. -/
def Fault.classes (f : Fault) : String × Option String := f.failure.classes

/-- The classes of a fault of YAML do not depend on the name of the file. -/
theorem Fault.classes_yaml (path path' : String) (f : Yaml.Fault) :
    (yaml path f).classes = (yaml path' f).classes := by
  rw [classes, classes, failure, failure]
  cases f with
  | encoding u => rfl
  | character code position => simp only [ofYaml, Failure.classes_configLoad]
  | error e => simp only [ofYaml, Failure.classes_configLoad]
  | scalar u =>
    cases u with
    | boolean word => simp only [ofYaml, unexpected, Failure.classes_configLoad]
    | _ => rfl
  | tooDeep => rfl

/-- All broken rules of kubeconfig are of the same classes. -/
theorem Fault.classes_of_invalid {f f' : Fault} {message message' : String}
    (h : f.failure = invalid message) (h' : f'.failure = invalid message') :
    f.classes = f'.classes := by
  rw [classes, classes, h, h', invalid, invalid, Failure.classes_configLoad,
    Failure.classes_configLoad]

/-- Two steps whose results are related, or that fail in the same way. -/
inductive Alike (R : α → α' → Prop) : Except Fault α → Except Fault α' → Prop where
  | ok {a : α} {a' : α'} (h : R a a') : Alike R (.ok a) (.ok a')
  | error {f f' : Fault} (h : f.classes = f'.classes) : Alike R (.error f) (.error f')

theorem Alike.refl (x : Except Fault α) : Alike Eq x x := by
  cases x with
  | ok a => exact .ok rfl
  | error f => exact .error rfl

theorem Alike.bind {R : α → α' → Prop} {S : β → β' → Prop} {x : Except Fault α}
    {x' : Except Fault α'} {f : α → Except Fault β} {f' : α' → Except Fault β'}
    (hx : Alike R x x') (hf : ∀ a a', R a a' → Alike S (f a) (f' a')) :
    Alike S (x >>= f) (x' >>= f') := by
  cases hx with
  | ok h => exact hf _ _ h
  | error h => exact .error h

theorem Alike.map {R : α → α' → Prop} {S : β → β' → Prop} {x : Except Fault α}
    {x' : Except Fault α'} {f : α → β} {f' : α' → β'} (hx : Alike R x x')
    (hf : ∀ a a', R a a' → S (f a) (f' a')) : Alike S (x.map f) (x'.map f') := by
  cases hx with
  | ok h => exact .ok (hf _ _ h)
  | error h => exact .error h

theorem Alike.imp {R S : α → α' → Prop} {x : Except Fault α} {x' : Except Fault α'}
    (hx : Alike R x x') (h : ∀ a a', x = .ok a → x' = .ok a' → R a a' → S a a') :
    Alike S x x' := by
  cases hx with
  | ok hR => exact .ok (h _ _ rfl rfl hR)
  | error hf => exact .error hf

/-- Nodes of one value under two names. -/
def SameDatum (n n' : Node) : Prop := n.datum = n'.datum

namespace Merged

theorem alike_get {n n' : Node} (h : SameDatum n n') (key : String) :
    Alike Eq (n.get key) (n'.get key) := by
  have hget : n.get? key = n'.get? key := by rw [Node.get?, Node.get?, h]
  rw [Node.get, Node.get, hget]
  split
  · exact .error rfl
  · exact .error (Fault.classes_of_invalid rfl rfl)
  · split
    · exact .error (Fault.classes_of_invalid rfl rfl)
    · exact .ok rfl

private theorem alike_isTaken {nodes nodes' : List Node} (h : List.Forall₂ SameDatum nodes nodes')
    (item : Datum) : Alike Eq (isTaken item nodes) (isTaken item nodes') := by
  induction h with
  | nil => exact .ok rfl
  | cons hn _ ih =>
    rw [isTaken, isTaken]
    refine (alike_get hn "name").bind fun known known' hk ↦ ?_
    subst hk
    split
    · exact .error rfl
    · split
      · exact .ok rfl
      · exact ih

private theorem alike_addItems {path path' : String} (items : List Datum) {nodes nodes' : List Node}
    (h : List.Forall₂ SameDatum nodes nodes') :
    Alike (List.Forall₂ SameDatum) (addItems path items nodes) (addItems path' items nodes') := by
  induction items generalizing nodes nodes' with
  | nil => exact .ok h
  | cons item rest ih =>
    rw [addItems, addItems]
    refine (alike_isTaken h item).bind fun taken taken' ht ↦ ?_
    subst ht
    split
    · exact ih h
    · refine (Alike.refl item.display).bind fun text text' _ ↦ ih ?_
      exact List.rel_append h (.cons rfl .nil)

/-- Configurations that hold the same values. -/
def SameData (m m' : Merged) : Prop :=
  ∀ s : Section, List.Forall₂ SameDatum (m.list s) (m'.list s)

theorem alike_addSection {path path' : String} (d : Datum) {m m' : Merged} (h : SameData m m')
    (s : Section) : Alike SameData (addSection path d m s) (addSection path' d m' s) := by
  rw [addSection, addSection]
  split
  · exact .error rfl
  · refine (alike_addItems _ (h s)).map fun nodes nodes' hn s' ↦ ?_
    rw [list_setList, list_setList]
    split
    · exact hn
    · exact h s'

/-- A file under two names, alone in a configuration. -/
theorem alike_addDocument {path path' : String} (d : Datum) :
    Alike (fun m m' ↦ SameData m m' ∧ m.documents = [(path, d)] ∧ m'.documents = [(path', d)])
      (addDocument path d none) (addDocument path' d none) := by
  by_cases hd : d.resolved = .null
  · rw [addDocument, addDocument, hd]
    exact .error (Fault.classes_of_invalid rfl rfl)
  · have hstart : Alike SameData (before path d none) (before path' d none) := by
      rw [before, before, Option.elim_none, Option.elim_none, start, start]
      split
      · refine .ok fun s ↦ ?_
        cases s <;> exact .nil
      · exact .error rfl
      · exact .error rfl
    have hlists : Alike SameData (addDocument path d none) (addDocument path' d none) := by
      rw [addDocument_eq hd, addDocument_eq hd]
      refine hstart.bind fun m₀ m₀' h₀ ↦ (alike_addSection d h₀ _).bind fun m₁ m₁' h₁ ↦
        (alike_addSection d h₁ _).bind fun m₂ m₂' h₂ ↦
        (alike_addSection d h₂ _).bind fun m₃ m₃' h₃ ↦ .ok fun s ↦ ?_
      have hs := h₃ s
      cases s <;> exact hs
    refine hlists.imp fun m m' hm hm' h ↦ ⟨h, ?_, ?_⟩
    · exact (addDocument_eq_ok hm).2.1
    · exact (addDocument_eq_ok hm').2.1

private theorem alike_findContext {m m' : Merged} {nodes nodes' : List Node}
    (h : List.Forall₂ SameDatum nodes nodes') (name : String) {found found' : Option Node}
    (hfound : Option.Rel SameDatum found found') :
    Alike (Option.Rel SameDatum) (m.findContext name nodes found)
      (m'.findContext name nodes' found') := by
  induction h generalizing found found' with
  | nil => exact .ok hfound
  | @cons n n' rest rest' hn _ ih =>
    rw [findContext, findContext, ← show n.datum = n'.datum from hn]
    split
    · exact .error rfl
    · exact .error (Fault.classes_of_invalid rfl rfl)
    · refine (alike_get hn "name").bind fun d d' hd ↦ ?_
      subst hd
      split
      · have hsome : found.isSome = found'.isSome := by
          cases hfound <;> rfl
        rw [← hsome]
        split
        · exact .error (Fault.classes_of_invalid rfl rfl)
        · exact ih (.some hn)
      · exact ih hfound

theorem alike_namespaceOf {m m' : Merged} (h : SameData m m') (name : String) :
    Alike Eq (m.namespaceOf name) (m'.namespaceOf name) := by
  rw [namespaceOf, namespaceOf]
  refine (alike_findContext (h .contexts) name .none).bind fun r r' hr ↦ ?_
  cases hr with
  | none => exact .error rfl
  | @some n n' hn =>
    have hget : n.get? "context" = n'.get? "context" := by rw [Node.get?, Node.get?, hn]
    simp only
    rw [hget]
    split
    · exact .error rfl
    · exact .ok rfl
    · split
      · exact .ok rfl
      · split
        · exact .refl _
        · exact .error rfl

end Merged

theorem sameOutcome_of_alike {x x' : Except Fault String} (h : Alike Eq x x') :
    SameOutcome (x.mapError Fault.failure) (x'.mapError Fault.failure) := by
  cases h with
  | ok h => rw [h]; rfl
  | error h => exact congrArg Except.error h

end Kubeconfig

end GatewayPrint
