import GatewayPrint.Proofs.Outcome
import GatewayPrint.Yaml.Document

/-!
# Building plain documents

A node of scalars, sequences and mappings with text keys, without anchors, has no fault (`Clear`),
and it is built as the value that its parts amount to (`Means`). The bound for the depth of building
is the length of the text that the node was read from, and the places of nested containers grow
inwards, so none is taken for one around it.
-/

namespace GatewayPrint.Yaml.Node

open Outcome

variable {nd k v : Node} {nds : List Node} {es : List (Node × Node)} {x key value : Value}
  {xs : List Value} {ps : List (Value × Value)} {m : Mark} {a b len lo fuel depth : Nat}
  {s : String} {tag : Tag}

/-! ## Nodes without a fault -/

/-- A node without anchors in which every part has a value and keys are texts. -/
inductive Clear : Node → Prop where
  | scalar {tag : Tag} {s : String} {m : Mark} {x : Value} (hc : isContainerTag tag = false)
      (h : scalarValue tag s m = .ok x) : Clear (.scalar tag s m none)
  | seq {items : List Node} {m : Mark} (h : ∀ n ∈ items, Clear n) : Clear (.seq .seq items m none)
  | map {entries : List (Node × Node)} {m : Mark}
      (hk : ∀ e ∈ entries, ∃ s m, e.1 = .scalar .text s m none) (h : ∀ e ∈ entries, Clear e.2) :
      Clear (.map .map entries m none)

theorem itemAnchors_of_nil (h : ∀ n ∈ nds, n.anchors = []) : itemAnchors nds = [] := by
  induction nds with
  | nil => rfl
  | cons n nds ih =>
    rw [itemAnchors, h n List.mem_cons_self, ih fun k hk ↦ h k (List.mem_cons_of_mem n hk)]
    rfl

theorem entryAnchors_of_nil (hk : ∀ e ∈ es, ∃ s m, e.1 = .scalar .text s m none)
    (h : ∀ e ∈ es, e.2.anchors = []) : entryAnchors es = [] := by
  induction es with
  | nil => rfl
  | cons e es ih =>
    obtain ⟨s, m, hs⟩ := hk e List.mem_cons_self
    obtain ⟨k, v⟩ := e
    have hv := h _ List.mem_cons_self
    dsimp only at hs hv
    rw [entryAnchors, hs, hv, ih (fun f hf ↦ hk f (List.mem_cons_of_mem _ hf))
      fun f hf ↦ h f (List.mem_cons_of_mem _ hf)]
    rfl

theorem Clear.anchors_eq (h : Clear nd) : nd.anchors = [] := by
  induction h with
  | scalar hc h => rfl
  | seq h ih =>
    rw [anchors, itemAnchors_of_nil ih]
    rfl
  | map hk h ih =>
    rw [anchors, entryAnchors_of_nil hk ih]
    rfl

theorem Clear.deref_eq (h : Clear nd) : nd.deref [] = nd := by
  cases h <;> rfl

theorem scalarOf_scalar (fuel : Nat) (tag : Tag) (s : String) (m : Mark) :
    scalarOf [] fuel (scalar tag s m none) = scalarValue tag s m := by
  cases fuel <;> rfl

/-- A step that looks at a clear node. -/
def LooksClear (x : Step) : Prop := ∃ n, x = .look n ∧ Clear n

theorem LooksClear.fault?_eq {x : Step} (h : LooksClear x) (fuel : Nat) :
    x.fault? [] fuel = none := by
  obtain ⟨n, rfl, hn⟩ := h
  rw [Step.fault?, hn.deref_eq]
  cases hn with
  | scalar hc h => rw [if_neg (by rw [tag, hc]; exact Bool.false_ne_true), scalarOf_scalar, h]
  | seq h => rfl
  | map hk h => rfl

/-- A container to visit that holds clear nodes. -/
def WaitsClear (n : Node) : Prop := Clear n ∧ isContainerTag n.tag = true

theorem LooksClear.waits {x : Step} (h : LooksClear x) {n : Node}
    (hn : x.container? [] = some n) : WaitsClear n := by
  obtain ⟨k, rfl, hk⟩ := h
  rw [Step.container?, hk.deref_eq] at hn
  split at hn
  · next hc =>
    cases hn
    exact ⟨hk, hc⟩
  · cases hn

/-- Entries with text keys have no merge keys. -/
theorem flatten_eq (hk : ∀ e ∈ es, ∃ s m, e.1 = .scalar .text s m none) (m : Mark) (fuel : Nat) :
    flatten [] m fuel [] es = .ok es := by
  cases fuel with
  | zero => rfl
  | succ fuel =>
    -- No key is a merge key, so nothing is drawn in, and each key stays the plain one that it is.
    have hmerged : (es.filter fun e ↦ (e.1.deref []).tag == .merge) = [] := by
      refine List.filter_eq_nil_iff.mpr fun e he ↦ ?_
      obtain ⟨s, m', hs⟩ := hk e he
      rw [hs]
      exact Bool.false_ne_true
    have hown : (es.filter fun e ↦ (e.1.deref []).tag != .merge) = es := by
      refine List.filter_eq_self.mpr fun e he ↦ ?_
      obtain ⟨s, m', hs⟩ := hk e he
      rw [hs]
      rfl
    have hsame : (es.map fun e ↦ (plainKey (e.1.deref []), e.2)) = es := by
      refine (List.map_congr_left fun e he ↦ ?_).trans (List.map_id es)
      obtain ⟨s, m', hs⟩ := hk e he
      obtain ⟨k, v⟩ := e
      dsimp only at hs
      rw [hs]
      rfl
    rw [flatten, hmerged]
    change Except.ok (([] : List (List (Node × Node))).flatten ++
      (es.filter fun e ↦ (e.1.deref []).tag != .merge).map fun e ↦
        (plainKey (e.1.deref []), e.2)) = _
    rw [hown, hsame]
    rfl

theorem WaitsClear.stepsIn (h : WaitsClear nd) (fuel : Nat) :
    ∀ x ∈ stepsIn [] fuel nd, LooksClear x := by
  obtain ⟨hclear, hc⟩ := h
  cases hclear with
  | scalar hnot _ => exact absurd (hnot.symm.trans hc) Bool.false_ne_true
  | seq h =>
    intro x hx
    obtain ⟨n, hn, rfl⟩ := List.mem_map.mp hx
    exact ⟨n, rfl, h n hn⟩
  | @map entries m hk h =>
    have hsteps : Node.stepsIn [] fuel (.map .map entries m none)
        = entries.flatMap (entrySteps [] m) := by
      simp only [Node.stepsIn, Node.tag, flatten_eq hk]
    intro x hx
    rw [hsteps] at hx
    obtain ⟨e, he, hx⟩ := List.mem_flatMap.mp hx
    obtain ⟨s, m', hs⟩ := hk e he
    rw [entrySteps, hs] at hx
    rcases List.mem_cons.mp hx with rfl | hx
    · exact ⟨_, rfl, .scalar rfl rfl⟩
    · rw [List.mem_singleton.mp hx]
      exact ⟨_, rfl, h e he⟩

private theorem stepsFrom_clear {queue : List Node} (h : ∀ n ∈ queue, WaitsClear n)
    (depth fuel : Nat)
    (seen : List Nat) : ∀ x ∈ stepsFrom [] depth fuel seen queue, LooksClear x := by
  induction fuel generalizing seen queue with
  | zero =>
    intro x hx
    cases queue <;> cases hx
  | succ fuel ih =>
    cases queue with
    | nil => exact fun x hx ↦ nomatch hx
    | cons n rest =>
      obtain ⟨hn, hrest⟩ := List.forall_mem_cons.mp h
      -- A container that was seen is passed over; any other one puts its containers in the queue.
      rw [stepsFrom]
      split
      · exact ih hrest seen
      · refine List.forall_mem_append.mpr ⟨hn.stepsIn depth, ih (fun k hk ↦ ?_) _⟩
        rcases List.mem_append.mp hk with hk | hk
        · exact hrest k hk
        · obtain ⟨x, hx, hk⟩ := List.mem_filterMap.mp hk
          exact (hn.stepsIn depth x hx).waits hk

/-- **A clear document** has no fault. -/
theorem Clear.firstFault?_eq (h : Clear nd) (fuel : Nat) : firstFault? [] fuel nd = none := by
  have hlook : LooksClear (.look nd) := ⟨nd, rfl, h⟩
  have hqueue : ∀ n ∈ ((Step.look nd).container? []).toList, WaitsClear n :=
    fun n hn ↦ hlook.waits (Option.mem_toList.mp hn)
  rw [firstFault?, List.findSome?_eq_none_iff, steps]
  refine List.forall_mem_cons.mpr ⟨hlook.fault?_eq fuel, fun x hx ↦ ?_⟩
  exact (stepsFrom_clear hqueue fuel (fuel * fuel) [] x hx).fault?_eq fuel

/-! ## What nodes are built as -/

/-- The state of building that knows nothing. -/
def unknown : BuildState := ⟨[], []⟩

/-- **A node that stands for a value**: it has no fault, starts at `lo` or later, and is built as
the value when building may go as deep as twice the length `len`. -/
structure Means (lo len : Nat) (nd : Node) (x : Value) : Prop where
  clear : Clear nd
  starts : lo ≤ nd.mark.index
  build : ∀ (fuel : Nat) (around : List Nat), 2 * len ≤ fuel →
    (∀ p ∈ around, p < nd.mark.index) →
    buildNode [] fuel around nd unknown = ((x, []), unknown)

/-- Nodes that stand for values in turn. -/
structure MeansItems (lo len : Nat) (nds : List Node) (xs : List Value) : Prop where
  clear : ∀ n ∈ nds, Clear n
  build : ∀ (fuel : Nat) (around : List Nat), 2 * len ≤ fuel + 1 → (∀ p ∈ around, p < lo) →
    buildItems [] fuel around nds unknown = ((xs, []), unknown)

/-- Entries with text keys that stand for entries of values in turn. -/
structure MeansEntries (lo len : Nat) (es : List (Node × Node)) (ps : List (Value × Value)) :
    Prop where
  keys : ∀ e ∈ es, ∃ s m, e.1 = .scalar .text s m none
  clear : ∀ e ∈ es, Clear e.2
  build : ∀ (fuel : Nat) (around : List Nat), 2 * len ≤ fuel + 1 → (∀ p ∈ around, p < lo) →
    buildEntries [] fuel around es unknown = ((ps, []), unknown)

theorem build_bind {α β : Type} {x : Build α} {a : α} {st st' : BuildState}
    (h : x st = (a, st')) (f : α → Build β) : (x >>= f) st = f a st' := by
  change f (x st).1 (x st).2 = _
  rw [h]

theorem build_scalar (hc : isContainerTag tag = false) (h : scalarValue tag s m = .ok x)
    (fuel : Nat) (around : List Nat) :
    buildNode [] (fuel + 1) around (.scalar tag s m none) unknown = ((x, []), unknown) := by
  have hscalar : (!isContainerTag ((scalar tag s m none).deref []).tag) = true := by
    change (!isContainerTag tag) = true
    rw [hc]
    rfl
  rw [buildNode]
  refine (congrFun (if_pos hscalar) unknown).trans ?_
  change (((scalarOf [] fuel (scalar tag s m none)).toOption.getD .null, ([] : List Nat)), unknown)
    = _
  rw [scalarOf_scalar, h]
  rfl

theorem means_scalar (hlo : lo ≤ m.index) (hlen : 0 < len) (hc : isContainerTag tag = false)
    (h : scalarValue tag s m = .ok x) : Means lo len (.scalar tag s m none) x where
  clear := .scalar hc h
  starts := hlo
  build := by
    intro fuel around hf _
    obtain ⟨fuel, rfl⟩ := Nat.exists_eq_add_one_of_ne_zero (by omega : fuel ≠ 0)
    exact build_scalar hc h fuel around

theorem not_contains_of_lt {around : List Nat} {p : Nat} (h : ∀ q ∈ around, q < p) :
    around.contains p = false := by
  refine Bool.eq_false_iff.mpr fun hc ↦ ?_
  exact Nat.lt_irrefl p (h p (List.contains_iff_mem.mp hc))

theorem lt_of_mem_cons {around : List Nat} {p : Nat} (h : ∀ q ∈ around, q < p) :
    ∀ q ∈ p :: around, q < p + 1 := by
  intro q hq
  rcases List.mem_cons.mp hq with rfl | hq
  · exact Nat.lt_succ_self _
  · exact Nat.lt_succ_of_lt (h q hq)

theorem Means.mono {lo' len' : Nat} (h : Means lo len nd x) (hlo : lo' ≤ lo) (hlen : len ≤ len') :
    Means lo' len' nd x where
  clear := h.clear
  starts := Nat.le_trans hlo h.starts
  build := fun fuel around hf hp ↦ h.build fuel around (by omega) hp

theorem MeansItems.mono {lo' len' : Nat} (h : MeansItems lo len nds xs) (hlo : lo' ≤ lo)
    (hlen : len ≤ len') : MeansItems lo' len' nds xs where
  clear := h.clear
  build := fun fuel around hf hp ↦
    h.build fuel around (by omega) fun p hmem ↦ Nat.lt_of_lt_of_le (hp p hmem) hlo

theorem MeansEntries.mono {lo' len' : Nat} (h : MeansEntries lo len es ps) (hlo : lo' ≤ lo)
    (hlen : len ≤ len') : MeansEntries lo' len' es ps where
  keys := h.keys
  clear := h.clear
  build := fun fuel around hf hp ↦
    h.build fuel around (by omega) fun p hmem ↦ Nat.lt_of_lt_of_le (hp p hmem) hlo

theorem means_seq (hlo : lo ≤ m.index) (hlen : 0 < len)
    (h : MeansItems (m.index + 1) len nds xs) :
    Means lo len (.seq .seq nds m none) (.list xs) where
  clear := .seq h.clear
  starts := hlo
  build := by
    intro fuel around hf haround
    have haround : ∀ p ∈ around, p < m.index := haround
    obtain ⟨fuel, rfl⟩ := Nat.exists_eq_add_one_of_ne_zero (by omega : fuel ≠ 0)
    -- The sequence starts before its items, so none of them is taken for one around it.
    have hitems := h.build fuel (m.index :: around) (by omega) (lt_of_mem_cons haround)
    have hfree : ¬around.contains m.index = true := by
      rw [not_contains_of_lt haround]
      exact Bool.false_ne_true
    rw [buildNode]
    refine (congrFun (if_neg Bool.false_ne_true) unknown).trans ?_
    refine (congrFun (if_neg hfree) unknown).trans ?_
    change (buildItems [] fuel (m.index :: around) nds >>= fun r ↦
      close m.index false (.list r.1) r.2) unknown = _
    rw [build_bind hitems]
    rfl

theorem means_map (hlo : lo ≤ m.index) (hlen : 0 < len)
    (h : MeansEntries (m.index + 1) len es ps) :
    Means lo len (.map .map es m none) (.map (Value.collect ps)) where
  clear := .map h.keys h.clear
  starts := hlo
  build := by
    intro fuel around hf haround
    have haround : ∀ p ∈ around, p < m.index := haround
    obtain ⟨fuel, rfl⟩ := Nat.exists_eq_add_one_of_ne_zero (by omega : fuel ≠ 0)
    have hentries := h.build fuel (m.index :: around) (by omega) (lt_of_mem_cons haround)
    have hfree : ¬around.contains m.index = true := by
      rw [not_contains_of_lt haround]
      exact Bool.false_ne_true
    -- The mapping has no anchor and does not stand inside itself, so its entries are built.
    rw [buildNode]
    refine (congrFun (if_neg Bool.false_ne_true) unknown).trans ?_
    refine (congrFun (if_neg hfree) unknown).trans ?_
    change (buildEntries [] fuel (m.index :: around) ((flatten [] m fuel [] es).toOption.getD [])
      >>= fun r ↦ close m.index false (.map (Value.collect r.1)) r.2) unknown = _
    rw [flatten_eq h.keys]
    change (buildEntries [] fuel (m.index :: around) es >>= fun r ↦
      close m.index false (.map (Value.collect r.1)) r.2) unknown = _
    rw [build_bind hentries]
    rfl

theorem meansItems_nil : MeansItems lo len [] [] where
  clear := fun n hn ↦ absurd hn List.not_mem_nil
  build := by
    intro fuel around _ _
    cases fuel <;> rfl

theorem meansItems_cons (h : Means lo a nd x) (hs : MeansItems lo b nds xs) :
    MeansItems lo (1 + a + b) (nd :: nds) (x :: xs) where
  clear := by
    intro n hn
    rcases List.mem_cons.mp hn with rfl | hn
    · exact h.clear
    · exact hs.clear n hn
  build := by
    intro fuel around hf haround
    obtain ⟨fuel, rfl⟩ := Nat.exists_eq_add_one_of_ne_zero (by omega : fuel ≠ 0)
    -- The fuel for both lengths is enough for either of them.
    have hitem := h.build fuel around (by omega) fun p hp ↦
      Nat.lt_of_lt_of_le (haround p hp) h.starts
    have hrest := hs.build fuel around (by omega) haround
    rw [buildItems, build_bind hitem]
    dsimp only
    rw [build_bind hrest]
    rfl

theorem meansEntries_nil : MeansEntries lo len [] [] where
  keys := fun e he ↦ absurd he List.not_mem_nil
  clear := fun e he ↦ absurd he List.not_mem_nil
  build := by
    intro fuel around _ _
    cases fuel <;> rfl

theorem meansEntries_cons (m : Mark) (s : String) (h : Means lo a v x)
    (hs : MeansEntries lo b es ps) :
    MeansEntries lo (2 + a + b) ((.scalar .text s m none, v) :: es) ((.text s, x) :: ps) where
  keys := by
    intro e he
    rcases List.mem_cons.mp he with rfl | he
    · exact ⟨s, m, rfl⟩
    · exact hs.keys e he
  clear := by
    intro e he
    rcases List.mem_cons.mp he with rfl | he
    · exact h.clear
    · exact hs.clear e he
  build := by
    intro fuel around hf haround
    obtain ⟨fuel, rfl⟩ := Nat.exists_eq_add_one_of_ne_zero (by omega : fuel ≠ 0)
    have hkey : buildNode [] fuel around (.scalar .text s m none) unknown
        = ((.text s, []), unknown) := by
      obtain ⟨fuel, rfl⟩ := Nat.exists_eq_add_one_of_ne_zero (by omega : fuel ≠ 0)
      exact build_scalar rfl rfl fuel around
    have hvalue := h.build fuel around (by omega) fun p hp ↦
      Nat.lt_of_lt_of_le (haround p hp) h.starts
    have hrest := hs.build fuel around (by omega) haround
    rw [buildEntries, build_bind hkey]
    dsimp only
    rw [build_bind hvalue]
    dsimp only
    rw [build_bind hrest]
    rfl

/-- **A node that stands for a value** is the document of this value. -/
theorem Means.toDocument_eq (h : Means lo len nd x) (hf : 2 * len ≤ fuel) :
    nd.toDocument fuel = .ok ⟨x, []⟩ := by
  have hbuild := h.build fuel [] hf fun p hp ↦ absurd hp List.not_mem_nil
  rw [toDocument, h.clear.anchors_eq, h.clear.firstFault?_eq]
  change Except.ok (Document.mk (buildNode [] fuel [] nd unknown).1.1
    (buildNode [] fuel [] nd unknown).2.cells) = _
  rw [hbuild]
  rfl

end GatewayPrint.Yaml.Node
