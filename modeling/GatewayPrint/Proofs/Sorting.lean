import GatewayPrint.Proofs.Outcome
import GatewayPrint.Value.Sorting

/-!
# Sorting keeps elements

Where all comparisons succeed, a list is sorted, and the result has the elements of the list
(`Sorting.sort_perm`), whatever the order is. Entries whose keys are texts are such a list
(`Value.sortByKey_perm`).
-/

namespace GatewayPrint

open Outcome

namespace Sorting

variable {α ε : Type} {less : α → α → Except ε Bool} {p : α → Prop} {x last : α}
  {xs done sorted : List α}

/-- Elements with a property can be compared. -/
def Compares (less : α → α → Except ε Bool) (p : α → Prop) : Prop :=
  ∀ x y, p x → p y → ∃ b, less x y = .ok b

theorem descend_perm (h : Compares less p) (hlast : p last) (hxs : ∀ x ∈ xs, p x) :
    ∃ run others, descend less last done xs = .ok (run, others) ∧
      (run ++ others).Perm (last :: done ++ xs) := by
  induction xs generalizing last done with
  | nil => exact ⟨_, _, rfl, by simp⟩
  | cons x xs ih =>
    have hx := hxs x List.mem_cons_self
    obtain ⟨b, hb⟩ := h x last hx hlast
    rw [descend, hb, ok_bind]
    cases b with
    | true =>
      obtain ⟨run, others, hrun, hperm⟩ : ∃ run others,
          descend less x (last :: done) xs = .ok (run, others) ∧
            (run ++ others).Perm (x :: last :: done ++ xs) :=
        ih hx fun y hy ↦ hxs y (List.mem_cons_of_mem x hy)
      exact ⟨run, others, hrun, hperm.trans List.perm_middle.symm⟩
    | false => exact ⟨_, _, rfl, .refl _⟩

theorem ascend_append (h : Compares less p) (hlast : p last) (hxs : ∀ x ∈ xs, p x) :
    ∃ run others, ascend less last xs = .ok (run, others) ∧ run ++ others = last :: xs := by
  induction xs generalizing last with
  | nil => exact ⟨_, _, rfl, rfl⟩
  | cons x xs ih =>
    have hx := hxs x List.mem_cons_self
    obtain ⟨b, hb⟩ := h x last hx hlast
    rw [ascend, hb, ok_bind]
    cases b with
    | true => exact ⟨_, _, rfl, rfl⟩
    | false =>
      obtain ⟨run, others, hrun, happend⟩ := ih hx fun y hy ↦ hxs y (List.mem_cons_of_mem x hy)
      rw [if_neg Bool.false_ne_true, hrun, ok_bind]
      exact ⟨_, _, rfl, congrArg (last :: ·) happend⟩

theorem firstRun_perm (h : Compares less p) (hxs : ∀ x ∈ xs, p x) :
    ∃ run others, firstRun less xs = .ok (run, others) ∧ (run ++ others).Perm xs := by
  rcases xs with _ | ⟨x, _ | ⟨y, xs⟩⟩
  · exact ⟨_, _, rfl, .refl _⟩
  · exact ⟨_, _, rfl, .refl _⟩
  · have hx := hxs x List.mem_cons_self
    have hy := hxs y (List.mem_cons_of_mem x List.mem_cons_self)
    have hrest : ∀ z ∈ xs, p z := fun z hz ↦
      hxs z (List.mem_cons_of_mem x (List.mem_cons_of_mem y hz))
    obtain ⟨b, hb⟩ := h y x hy hx
    rw [firstRun, hb, ok_bind]
    cases b with
    | true =>
      obtain ⟨run, others, hrun, hperm⟩ : ∃ run others,
          descend less y [x] xs = .ok (run, others) ∧ (run ++ others).Perm (y :: [x] ++ xs) :=
        descend_perm h hy hrest
      exact ⟨run, others, hrun, hperm.trans (.swap x y xs)⟩
    | false =>
      obtain ⟨run, others, hrun, happend⟩ := ascend_append h hy hrest
      rw [if_neg Bool.false_ne_true, hrun, ok_bind]
      refine ⟨_, _, rfl, ?_⟩
      rw [List.cons_append, happend]

theorem insert_nil (less : α → α → Except ε Bool) (x : α) : insert less x [] = .ok [x] := by
  rw [insert]
  split
  · rfl
  · next hdrop =>
    rw [List.drop_nil] at hdrop
    cases hdrop

/-- An element put into a list that is cut at its middle: it goes into the half that the comparison
names. -/
def insertHalves (less : α → α → Except ε Bool) (x : α) (before : List α) (middle : α)
    (after : List α) : Except ε (List α) := do
  if ← less x middle then
    let front ← insert less x before
    .ok (front ++ middle :: after)
  else
    let back ← insert less x after
    .ok (before ++ middle :: back)

theorem exists_halves (less : α → α → Except ε Bool) (x : α) (hne : sorted ≠ []) :
    ∃ before middle after, sorted = before ++ middle :: after ∧
      insert less x sorted = insertHalves less x before middle after := by
  rw [insert]
  split
  · next hdrop =>
    have hpos := List.length_pos_iff.mpr hne
    rw [List.drop_eq_nil_iff] at hdrop
    omega
  · next middle after hdrop =>
    refine ⟨sorted.take (sorted.length / 2), middle, after, ?_, rfl⟩
    rw [← hdrop, List.take_append_drop]

/-- Induction along the halves of a list, both of which are shorter. -/
theorem insert_induction (less : α → α → Except ε Bool) (x : α) {motive : List α → Prop}
    (nil : motive [])
    (halves : ∀ before middle after,
      insert less x (before ++ middle :: after) = insertHalves less x before middle after →
      motive before → motive after → motive (before ++ middle :: after))
    (sorted : List α) : motive sorted := by
  induction hn : sorted.length using Nat.strongRecOn generalizing sorted with
  | _ n ih =>
  subst hn
  by_cases hne : sorted = []
  · rw [hne]
    exact nil
  · obtain ⟨before, middle, after, rfl, hstep⟩ := exists_halves less x hne
    have hlen : (before ++ middle :: after).length = before.length + (after.length + 1) :=
      List.length_append
    exact halves before middle after hstep (ih before.length (by omega) before rfl)
      (ih after.length (by omega) after rfl)

theorem insert_perm (h : Compares less p) (hx : p x) (hsorted : ∀ y ∈ sorted, p y) :
    ∃ ys, insert less x sorted = .ok ys ∧ ys.Perm (x :: sorted) := by
  induction sorted using insert_induction less x with
  | nil => exact ⟨[x], insert_nil less x, .refl _⟩
  | halves before middle after hstep ihbefore ihafter =>
    obtain ⟨hpbefore, hpmiddle, hpafter⟩ :
        (∀ y ∈ before, p y) ∧ p middle ∧ ∀ y ∈ after, p y := by
      rwa [List.forall_mem_append, List.forall_mem_cons] at hsorted
    obtain ⟨b, hb⟩ := h x middle hx hpmiddle
    rw [hstep, insertHalves, hb, ok_bind]
    cases b with
    | true =>
      obtain ⟨front, hfront, hperm⟩ := ihbefore hpbefore
      rw [if_pos rfl, hfront, ok_bind]
      exact ⟨_, rfl, hperm.append_right _⟩
    | false =>
      obtain ⟨back, hback, hperm⟩ := ihafter hpafter
      have hmove : (middle :: back).Perm (x :: middle :: after) :=
        (hperm.cons middle).trans (.swap x middle after)
      rw [if_neg Bool.false_ne_true, hback, ok_bind]
      exact ⟨_, rfl, (hmove.append_left before).trans List.perm_middle⟩

theorem foldlM_insert_perm (h : Compares less p) (hdone : ∀ x ∈ done, p x) (hxs : ∀ x ∈ xs, p x) :
    ∃ ys, xs.foldlM (fun done x ↦ insert less x done) done = .ok ys ∧ ys.Perm (done ++ xs) := by
  induction xs generalizing done with
  | nil => exact ⟨done, rfl, by rw [List.append_nil]⟩
  | cons x xs ih =>
    obtain ⟨done', hinsert, hperm⟩ := insert_perm h (hxs x List.mem_cons_self) hdone
    have hdone' : ∀ y ∈ done', p y := by
      intro y hy
      rcases List.mem_cons.mp (hperm.mem_iff.mp hy) with rfl | hy
      · exact hxs y List.mem_cons_self
      · exact hdone y hy
    obtain ⟨ys, hys, hperm'⟩ := ih hdone' fun y hy ↦ hxs y (List.mem_cons_of_mem x hy)
    refine ⟨ys, ?_, hperm'.trans ?_⟩
    · rw [List.foldlM_cons, hinsert, ok_bind, hys]
    · exact (hperm.append_right xs).trans List.perm_middle.symm

/-- **Sorting** keeps the elements of a list that can be compared. -/
theorem sort_perm (h : Compares less p) (hxs : ∀ x ∈ xs, p x) :
    ∃ ys, sort less xs = .ok ys ∧ ys.Perm xs := by
  obtain ⟨run, others, hrun, hperm⟩ := firstRun_perm h hxs
  have hall : ∀ x ∈ run ++ others, p x := fun x hx ↦ hxs x (hperm.mem_iff.mp hx)
  obtain ⟨ys, hys, hperm'⟩ := foldlM_insert_perm h
    (fun x hx ↦ hall x (List.mem_append_left others hx))
    fun x hx ↦ hall x (List.mem_append_right run hx)
  refine ⟨ys, ?_, hperm'.trans hperm⟩
  rw [sort, hrun, ok_bind]
  exact hys

end Sorting

namespace Value

/-- **Entries with texts as keys** are ordered by their keys. -/
theorem sortByKey_perm {α : Type} {entries : List (Value × α)}
    (h : ∀ e ∈ entries, ∃ s, e.1 = text s) :
    ∃ sorted, sortByKey entries = .ok sorted ∧ sorted.Perm entries := by
  refine Sorting.sort_perm (p := fun e : Value × α ↦ ∃ s, e.1 = text s) ?_ h
  rintro ⟨k, _⟩ ⟨k', _⟩ ⟨s, rfl⟩ ⟨t, rfl⟩
  refine ⟨decide (Text.codePoints s < Text.codePoints t), ?_⟩
  dsimp only
  rw [less]

/-! ## Values up to the order of entries -/

/-- Values that differ in the order of entries alone: mappings have the same keys with reordered
values under them, in any order. -/
inductive Reorders : Value → Value → Prop where
  | refl (v : Value) : Reorders v v
  | list {xs ys : List Value} (hlen : xs.length = ys.length)
      (h : ∀ p ∈ xs.zip ys, Reorders p.1 p.2) : Reorders (list xs) (list ys)
  | map {es fs gs : List (Value × Value)} (hkeys : es.map Prod.fst = fs.map Prod.fst)
      (h : ∀ p ∈ es.zip fs, Reorders p.1.2 p.2.2) (hperm : fs.Perm gs) :
      Reorders (map es) (map gs)

end Value

end GatewayPrint
