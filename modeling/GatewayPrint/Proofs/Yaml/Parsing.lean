import GatewayPrint.Yaml.Node

/-!
# Properties of all steps of the parser

The parser is made of a few basic steps: it looks at a token or takes one, refuses it, looks at the
handles and the anchors of the document, and notes new ones. A property of steps that these have,
and that goes through a bind, is one of every step (`AllSteps`), and of the parser as a whole
(`IsClosed.singleDocument`). What is shown of the parser in this way follows its grammar once for
all such properties.
-/

namespace GatewayPrint.Yaml

open Parse

variable {P : ∀ α : Type, Parse α → Prop} {fuel : Nat} {α β : Type}

/-- A property that the basic steps of the parser have, and that goes through a bind. -/
structure IsClosed (P : ∀ α : Type, Parse α → Prop) : Prop where
  pure : ∀ {α : Type} (a : α), P α (pure a)
  bind : ∀ {α β : Type} {x : Parse α} {f : α → Parse β}, P α x → (∀ a, P β (f a)) → P β (x >>= f)
  refuse : ∀ {α : Type} (e : Error), P α (throw (.error e))
  peek : P Token peek
  take : P Token take
  /-- A step that depends on the handles and the anchors of the document. -/
  look : ∀ {α : Type} (f : ParseState → Parse α),
    (∀ st st', st'.handles = st.handles → st'.anchors = st.anchors → f st' = f st) →
    (∀ st, P α (f st)) → P α (get >>= f)
  note : ∀ e : String × Mark, P Unit (modify fun st ↦ { st with anchors := e :: st.anchors })
  setHandles : ∀ handles : List (String × String),
    P Unit (modify fun st ↦ { st with handles := handles })

namespace IsClosed

theorem of_ite {c : Prop} [Decidable c] {x y : Parse α} (hx : P α x) (hy : P α y) :
    P α (if c then x else y) := by
  split
  · exact hx
  · exact hy

variable (h : IsClosed P)

include h

theorem kind : P Token.Kind kind := h.bind h.peek fun t ↦ h.pure t.kind

theorem define (anchor : Option String) (mark : Mark) : P Unit (define anchor mark) := by
  cases anchor with
  | none => exact h.pure ()
  | some name =>
    refine h.look _ (fun _ _ _ hanchors ↦ by simp only [hanchors]) fun st ↦ ?_
    split
    · exact h.refuse _
    · exact h.note _

theorem expandTag (start mark : Mark) (handle : Option String) (suffix : String) :
    P String (expandTag start mark handle suffix) := by
  cases handle with
  | none => exact h.pure suffix
  | some name =>
    refine h.look _ (fun _ _ hhandles _ ↦ by simp only [hhandles]) fun st ↦ ?_
    split
    · exact h.pure _
    · exact h.refuse _

theorem properties : P Properties properties := by
  rw [Parse.properties]
  refine h.bind h.peek fun t ↦ ?_
  split
  · refine h.bind h.take fun _ ↦ h.bind h.peek fun u ↦ ?_
    split
    · exact h.bind h.take fun _ ↦ h.bind (h.expandTag _ _ _ _) fun _ ↦ h.pure _
    · exact h.pure _
  · refine h.bind h.take fun _ ↦ h.bind h.peek fun u ↦ ?_
    split
    · exact h.bind h.take fun _ ↦ h.bind (h.expandTag _ _ _ _) fun _ ↦ h.pure _
    · exact h.bind (h.expandTag _ _ _ _) fun _ ↦ h.pure _
  · exact h.pure _

/-- Either way a node comes about, what follows it is the same. -/
theorem either {c : Prop} [Decidable c] {x y : Parse α} {f : α → Parse β} (hx : P α x)
    (hy : P α y) (hf : ∀ a, P β (f a)) : P β (if c then x >>= f else y >>= f) :=
  of_ite (h.bind hx hf) (h.bind hy hf)

/-- What comes after a comma, if one has to stand there. -/
theorem afterComma {c : Prop} [Decidable c] {e : Token → Error} {x : Parse α} (hx : P α x) :
    P α (if c then Parse.peek >>= fun t ↦
      if t.kind = .flowEntry then Parse.take >>= fun _ ↦ x
      else (throw (.error (e t)) : Parse PUnit) >>= fun _ ↦ x
    else x) :=
  of_ite (h.bind h.peek fun _ ↦ of_ite (h.bind h.take fun _ ↦ hx)
    (h.bind (h.refuse _) fun _ ↦ hx)) hx

end IsClosed

/-! ## Nodes -/

/-- All steps of parsing nodes with so much fuel have a property. -/
structure AllSteps (P : ∀ α : Type, Parse α → Prop) (fuel : Nat) : Prop where
  node : ∀ place, P Node (node place fuel)
  blockItems : ∀ start, P (List Node) (blockItems start fuel)
  indentlessEntries : P (List Node) (indentlessEntries fuel)
  blockEntries : ∀ start, P (List (Node × Node)) (blockEntries start fuel)
  blockValue : P Node (blockValue fuel)
  flowItems : ∀ start first, P (List Node) (flowItems start first fuel)
  flowPairValue : P Node (flowPairValue fuel)
  flowEntries : ∀ start first, P (List (Node × Node)) (flowEntries start first fuel)
  flowValue : P Node (flowValue fuel)

namespace IsClosed

variable (h : IsClosed P) (ih : AllSteps P fuel)

include h ih

theorem node_succ (place : Place) : P Node (node place (fuel + 1)) := by
  rw [node]
  refine h.bind h.peek fun t ↦ ?_
  split
  · next name _ =>
    refine h.bind h.take fun _ ↦
      h.look _ (fun _ _ _ hanchors ↦ by simp only [hanchors]) fun st ↦ ?_
    exact of_ite (h.bind (h.refuse _) fun _ ↦ h.pure _) (h.pure _)
  · refine h.bind h.properties fun p ↦ h.bind h.peek fun u ↦ ?_
    dsimp only
    split
    · exact h.bind (h.define _ _) fun _ ↦ h.bind ih.indentlessEntries fun _ ↦ h.pure _
    · exact h.bind h.take fun _ ↦ h.bind (h.define _ _) fun _ ↦ h.pure _
    · exact h.bind (h.define _ _) fun _ ↦ h.bind h.take fun _ ↦
        h.bind (ih.flowItems _ _) fun _ ↦ h.pure _
    · exact h.bind (h.define _ _) fun _ ↦ h.bind h.take fun _ ↦
        h.bind (ih.flowEntries _ _) fun _ ↦ h.pure _
    · refine of_ite ?_ (of_ite ?_ (of_ite ?_ (h.refuse _)))
      · exact h.bind (h.define _ _) fun _ ↦ h.bind h.take fun _ ↦
          h.bind (ih.blockItems _) fun _ ↦ h.pure _
      · exact h.bind (h.define _ _) fun _ ↦ h.bind h.take fun _ ↦
          h.bind (ih.blockEntries _) fun _ ↦ h.pure _
      · exact h.bind (h.define _ _) fun _ ↦ h.pure _

theorem blockItems_succ (start : Mark) : P (List Node) (blockItems start (fuel + 1)) := by
  rw [blockItems]
  refine h.bind h.peek fun t ↦ ?_
  split
  · exact h.bind h.take fun _ ↦ h.bind h.kind fun next ↦ h.either (h.pure _) (ih.node _)
      fun item ↦ h.bind (ih.blockItems _) fun _ ↦ h.pure _
  · exact h.bind h.take fun _ ↦ h.pure _
  · exact h.refuse _

theorem indentlessEntries_succ : P (List Node) (indentlessEntries (fuel + 1)) := by
  rw [indentlessEntries]
  refine h.bind h.peek fun t ↦ of_ite ?_ (h.pure _)
  exact h.bind h.take fun _ ↦ h.bind h.kind fun next ↦ h.either (h.pure _) (ih.node _)
    fun item ↦ h.bind ih.indentlessEntries fun _ ↦ h.pure _

theorem blockEntries_succ (start : Mark) :
    P (List (Node × Node)) (blockEntries start (fuel + 1)) := by
  rw [blockEntries]
  refine h.bind h.peek fun t ↦ ?_
  split
  · exact h.bind h.take fun _ ↦ h.bind h.kind fun next ↦ h.either (h.pure _) (ih.node _)
      fun key ↦ h.bind ih.blockValue fun value ↦ h.bind (ih.blockEntries _) fun _ ↦ h.pure _
  · exact h.bind h.take fun _ ↦ h.pure _
  · exact h.refuse _

theorem blockValue_succ : P Node (blockValue (fuel + 1)) := by
  rw [blockValue]
  exact h.bind h.peek fun t ↦ of_ite (h.bind h.take fun _ ↦ h.bind h.kind fun next ↦
    of_ite (h.pure _) (ih.node _)) (h.pure _)

theorem flowPairValue_succ : P Node (flowPairValue (fuel + 1)) := by
  rw [flowPairValue]
  exact h.bind h.peek fun t ↦ of_ite (h.bind h.take fun _ ↦ h.bind h.kind fun next ↦
    of_ite (h.pure _) (ih.node _)) (h.pure _)

theorem flowValue_succ : P Node (flowValue (fuel + 1)) := by
  rw [flowValue]
  exact h.bind h.peek fun t ↦ of_ite (h.bind h.take fun _ ↦ h.bind h.kind fun next ↦
    of_ite (h.pure _) (ih.node _)) (h.pure _)

theorem flowItems_succ (start : Mark) (first : Bool) :
    P (List Node) (flowItems start first (fuel + 1)) := by
  rw [flowItems]
  refine h.bind h.kind fun next ↦ of_ite (h.bind h.take fun _ ↦ h.pure _) ?_
  refine h.afterComma (h.bind h.peek fun t ↦ ?_)
  split
  · exact h.bind h.take fun _ ↦ h.bind h.kind fun next ↦ h.either (h.pure _) (ih.node _)
      fun key ↦ h.bind ih.flowPairValue fun value ↦ h.bind (ih.flowItems _ _) fun _ ↦ h.pure _
  · exact h.bind h.take fun _ ↦ h.pure _
  · exact h.bind (ih.node _) fun item ↦ h.bind (ih.flowItems _ _) fun _ ↦ h.pure _

theorem flowEntries_succ (start : Mark) (first : Bool) :
    P (List (Node × Node)) (flowEntries start first (fuel + 1)) := by
  rw [flowEntries]
  refine h.bind h.kind fun next ↦ of_ite (h.bind h.take fun _ ↦ h.pure _) ?_
  refine h.afterComma (h.bind h.peek fun t ↦ ?_)
  split
  · exact h.bind h.take fun _ ↦ h.bind h.kind fun next ↦ h.either (h.pure _) (ih.node _)
      fun key ↦ h.bind ih.flowValue fun value ↦ h.bind (ih.flowEntries _ _) fun _ ↦ h.pure _
  · exact h.bind h.take fun _ ↦ h.pure _
  · exact h.bind (ih.node _) fun key ↦ h.bind h.peek fun next ↦
      h.bind (ih.flowEntries _ _) fun _ ↦ h.pure _

end IsClosed

namespace IsClosed

variable (h : IsClosed P)

include h

/-- **Nodes.** Every step of parsing them has the property. -/
theorem allSteps (fuel : Nat) : AllSteps P fuel := by
  induction fuel with
  | zero =>
    exact ⟨fun _ ↦ h.refuse _, fun _ ↦ h.refuse _, h.refuse _, fun _ ↦ h.refuse _, h.refuse _,
      fun _ _ ↦ h.refuse _, h.refuse _, fun _ _ ↦ h.refuse _, h.refuse _⟩
  | succ fuel ih =>
    exact ⟨h.node_succ ih, h.blockItems_succ ih, h.indentlessEntries_succ ih,
      h.blockEntries_succ ih, h.blockValue_succ ih, h.flowItems_succ ih, h.flowPairValue_succ ih,
      h.flowEntries_succ ih, h.flowValue_succ ih⟩

/-! ## Documents -/

theorem directives (fuel : Nat) (version : Bool) (handles : List (String × String)) :
    P Unit (directives version handles fuel) := by
  induction fuel generalizing version handles with
  | zero => exact h.pure ()
  | succ fuel ih =>
    rw [Parse.directives]
    refine h.bind h.peek fun t ↦ ?_
    split
    · refine h.bind h.take fun _ ↦ of_ite (h.bind (h.refuse _) fun _ ↦ ?_) ?_
      · exact of_ite (h.bind (h.refuse _) fun _ ↦ ih _ _) (ih _ _)
      · exact of_ite (h.bind (h.refuse _) fun _ ↦ ih _ _) (ih _ _)
    · exact h.bind h.take fun _ ↦ of_ite (h.bind (h.refuse _) fun _ ↦ ih _ _) (ih _ _)
    · exact h.bind h.take fun _ ↦ ih _ _
    · exact h.setHandles _

theorem skipEnds (fuel : Nat) : P Unit (skipEnds fuel) := by
  induction fuel with
  | zero => exact h.pure ()
  | succ fuel ih =>
    rw [Parse.skipEnds]
    exact h.bind h.kind fun next ↦ of_ite (h.bind h.take fun _ ↦ ih) (h.pure ())

theorem documentStart (fuel : Nat) : P (Option Mark) (documentStart fuel) := by
  rw [Parse.documentStart]
  refine h.bind (h.skipEnds fuel) fun _ ↦ h.bind h.peek fun t ↦ of_ite (h.pure _) ?_
  refine h.bind (h.directives fuel _ _) fun _ ↦ h.bind h.peek fun u ↦ ?_
  have hrest : P (Option Mark) (do
      let _ ← Parse.take
      return some t.start) := h.bind h.take fun _ ↦ h.pure _
  exact of_ite (h.bind (h.refuse _) fun _ ↦ hrest) hrest

theorem documentContent (fuel : Nat) : P Node (documentContent fuel) := by
  rw [Parse.documentContent]
  refine h.bind h.peek fun t ↦ ?_
  split
  all_goals first | exact h.pure _ | exact (h.allSteps fuel).node .block

theorem only (fuel : Nat) (root : Node) : P (Option Node) (only fuel root) := by
  rw [Parse.only]
  refine h.bind h.kind fun _ ↦ of_ite (h.bind h.take fun _ ↦ ?_) ?_
  all_goals
    refine h.bind (h.documentStart fuel) fun o ↦ ?_
    split
    · exact h.pure _
    · exact h.refuse _

/-- **The parser** as a whole has the property. -/
theorem singleDocument (fuel : Nat) : P (Option Node) (singleDocument fuel) := by
  rw [Parse.singleDocument]
  refine h.bind h.take fun _ ↦ h.bind h.peek fun t ↦ ?_
  split
  case h_4 =>
    exact h.bind (h.setHandles _) fun _ ↦
      h.bind ((h.allSteps fuel).node .block) (h.only fuel)
  all_goals
    refine h.bind (h.documentStart fuel) fun o ↦ ?_
    split
    · exact h.pure _
    · exact h.bind (h.documentContent fuel) (h.only fuel)

end IsClosed

end GatewayPrint.Yaml
