import GatewayPrint.Proofs.Elementwise
import GatewayPrint.Proofs.Halves
import GatewayPrint.Proofs.Resource.PlainForm
import GatewayPrint.Proofs.Sorting
import Mathlib.Data.List.Lex
import Mathlib.Data.List.Sort

/-!
# Sorting puts in order

Where comparisons are those of keys in a linear order, a sorted list is in the order of the keys
(`Sorting.sort_ordered`): the first run is, and an element that is put in its place leaves the list
so. Different keys have only one order. So entries whose keys are different texts are sorted to one
list, however they stand at first (`Value.sortByKey_congr`), and they stay where they are if their
code points ascend already (`Value.sortByKey_eq_self`).
-/

namespace GatewayPrint

open Outcome

namespace Sorting

variable {α β ε : Type} [LinearOrder β] {less : α → α → Except ε Bool} {p : α → Prop} {key : α → β}
  {x last : α} {xs done sorted run others ys : List α}

/-- Elements with a property are compared by their keys. -/
def ComparesBy (less : α → α → Except ε Bool) (p : α → Prop) (key : α → β) : Prop :=
  ∀ x y, p x → p y → ∃ b, less x y = .ok b ∧ (b = true ↔ key x < key y)

theorem ComparesBy.compares (h : ComparesBy less p key) : Compares less p := fun x y hx hy ↦
  (h x y hx hy).imp fun _ ↦ And.left

/-- A list in the order of its keys. -/
def Ordered (key : α → β) (xs : List α) : Prop := xs.Pairwise fun x y ↦ key x ≤ key y

private theorem descend_ordered (h : ComparesBy less p key) (hlast : p last) (hxs : ∀ x ∈ xs, p x)
    (hdone : Ordered key (last :: done)) (hrun : descend less last done xs = .ok (run, others)) :
    Ordered key run := by
  induction xs generalizing last done with
  | nil =>
    cases hrun
    exact hdone
  | cons x xs ih =>
    have hx := hxs x List.mem_cons_self
    obtain ⟨b, hb, hlt⟩ := h x last hx hlast
    rw [descend, hb, ok_bind] at hrun
    cases b with
    | false =>
      cases hrun
      exact hdone
    | true =>
      refine ih hx (fun y hy ↦ hxs y (List.mem_cons_of_mem x hy)) ?_ hrun
      have hle : key x ≤ key last := (hlt.mp rfl).le
      refine List.pairwise_cons.mpr ⟨fun y hy ↦ ?_, hdone⟩
      rcases List.mem_cons.mp hy with rfl | hy
      · exact hle
      · exact hle.trans ((List.pairwise_cons.mp hdone).1 y hy)

private theorem ascend_ordered (h : ComparesBy less p key) (hlast : p last) (hxs : ∀ x ∈ xs, p x)
    (hrun : ascend less last xs = .ok (run, others)) :
    Ordered key run ∧ ∀ y ∈ run, key last ≤ key y := by
  induction xs generalizing last run others with
  | nil =>
    cases hrun
    exact ⟨List.pairwise_singleton _ _, fun y hy ↦ (congrArg key (List.mem_singleton.mp hy)).ge⟩
  | cons x xs ih =>
    have hx := hxs x List.mem_cons_self
    obtain ⟨b, hb, hlt⟩ := h x last hx hlast
    rw [ascend, hb, ok_bind] at hrun
    cases b with
    | true =>
      cases hrun
      exact ⟨List.pairwise_singleton _ _, fun y hy ↦ (congrArg key (List.mem_singleton.mp hy)).ge⟩
    | false =>
      rw [if_neg Bool.false_ne_true] at hrun
      obtain ⟨⟨run', others'⟩, hrun', heq⟩ := bind_eq_ok.mp hrun
      cases heq
      obtain ⟨hordered, hbound⟩ := ih hx (fun y hy ↦ hxs y (List.mem_cons_of_mem x hy)) hrun'
      have hle : key last ≤ key x := not_lt.mp fun hlt' ↦ Bool.false_ne_true (hlt.mpr hlt')
      have hbound : ∀ y ∈ run', key last ≤ key y := fun y hy ↦ hle.trans (hbound y hy)
      refine ⟨List.pairwise_cons.mpr ⟨hbound, hordered⟩, fun y hy ↦ ?_⟩
      rcases List.mem_cons.mp hy with rfl | hy
      · exact le_rfl
      · exact hbound y hy

private theorem firstRun_ordered (h : ComparesBy less p key) (hxs : ∀ x ∈ xs, p x)
    (hrun : firstRun less xs = .ok (run, others)) : Ordered key run := by
  rcases xs with _ | ⟨x, _ | ⟨y, xs⟩⟩
  · cases hrun
    exact List.Pairwise.nil
  · cases hrun
    exact List.pairwise_singleton _ _
  · have hx := hxs x List.mem_cons_self
    have hy := hxs y (List.mem_cons_of_mem x List.mem_cons_self)
    have hrest : ∀ z ∈ xs, p z := fun z hz ↦
      hxs z (List.mem_cons_of_mem x (List.mem_cons_of_mem y hz))
    obtain ⟨b, hb, hlt⟩ := h y x hy hx
    rw [firstRun, hb, ok_bind] at hrun
    cases b with
    | true =>
      refine descend_ordered h hy hrest ?_ hrun
      refine List.pairwise_cons.mpr ⟨fun z hz ↦ ?_, List.pairwise_singleton _ _⟩
      rw [List.mem_singleton.mp hz]
      exact (hlt.mp rfl).le
    | false =>
      rw [if_neg Bool.false_ne_true] at hrun
      obtain ⟨⟨run', others'⟩, hrun', heq⟩ := bind_eq_ok.mp hrun
      cases heq
      obtain ⟨hordered, hbound⟩ := ascend_ordered h hy hrest hrun'
      have hle : key x ≤ key y := not_lt.mp fun hlt' ↦ Bool.false_ne_true (hlt.mpr hlt')
      exact List.pairwise_cons.mpr ⟨fun z hz ↦ hle.trans (hbound z hz), hordered⟩

theorem Ordered.insert_front {before after front : List α} {middle : α}
    (hordered : Ordered key (before ++ middle :: after)) (hle : key x ≤ key middle)
    (hfront : Ordered key front) (hperm : front.Perm (x :: before)) :
    Ordered key (front ++ middle :: after) := by
  obtain ⟨-, hback, hcross⟩ := List.pairwise_append.mp hordered
  refine List.pairwise_append.mpr ⟨hfront, hback, fun y hy z hz ↦ ?_⟩
  rcases List.mem_cons.mp (hperm.mem_iff.mp hy) with rfl | hy
  · rcases List.mem_cons.mp hz with rfl | hz
    · exact hle
    · exact hle.trans ((List.pairwise_cons.mp hback).1 z hz)
  · exact hcross y hy z hz

theorem Ordered.insert_back {before after back : List α} {middle : α}
    (hordered : Ordered key (before ++ middle :: after)) (hle : key middle ≤ key x)
    (hback : Ordered key back) (hperm : back.Perm (x :: after)) :
    Ordered key (before ++ middle :: back) := by
  obtain ⟨hfront, hafter, hcross⟩ := List.pairwise_append.mp hordered
  have hbound : ∀ z ∈ back, key middle ≤ key z := by
    intro z hz
    rcases List.mem_cons.mp (hperm.mem_iff.mp hz) with rfl | hz
    · exact hle
    · exact (List.pairwise_cons.mp hafter).1 z hz
  refine List.pairwise_append.mpr
    ⟨hfront, List.pairwise_cons.mpr ⟨hbound, hback⟩, fun y hy z hz ↦ ?_⟩
  have hymiddle : key y ≤ key middle := hcross y hy middle List.mem_cons_self
  rcases List.mem_cons.mp hz with rfl | hz
  · exact hymiddle
  · exact hymiddle.trans (hbound z hz)

/-- An element put in its place keeps a list in order: its half of the list is bounded by the middle
on the other side. -/
theorem insert_ordered (h : ComparesBy less p key) (hx : p x) (hsorted : ∀ y ∈ sorted, p y)
    (hordered : Ordered key sorted) (hinsert : insert less x sorted = .ok ys) : Ordered key ys := by
  induction sorted using insert_induction less x generalizing ys with
  | nil =>
    rw [insert_nil] at hinsert
    cases hinsert
    exact List.pairwise_singleton _ _
  | halves before middle after hstep ihbefore ihafter =>
    obtain ⟨hpbefore, hpmiddle, hpafter⟩ :
        (∀ y ∈ before, p y) ∧ p middle ∧ ∀ y ∈ after, p y := by
      rwa [List.forall_mem_append, List.forall_mem_cons] at hsorted
    obtain ⟨hbefore, hback, -⟩ := List.pairwise_append.mp hordered
    obtain ⟨b, hb, hlt⟩ := h x middle hx hpmiddle
    rw [hstep, insertHalves, hb, ok_bind] at hinsert
    cases b with
    | true =>
      obtain ⟨front, hfront, hperm⟩ := insert_perm h.compares hx hpbefore
      rw [if_pos rfl, hfront, ok_bind] at hinsert
      cases hinsert
      exact hordered.insert_front (hlt.mp rfl).le (ihbefore hpbefore hbefore hfront) hperm
    | false =>
      obtain ⟨back, hbackEq, hperm⟩ := insert_perm h.compares hx hpafter
      rw [if_neg Bool.false_ne_true, hbackEq, ok_bind] at hinsert
      cases hinsert
      have hle : key middle ≤ key x := not_lt.mp fun hlt' ↦ Bool.false_ne_true (hlt.mpr hlt')
      have hnew := ihafter hpafter (List.pairwise_cons.mp hback).2 hbackEq
      exact hordered.insert_back hle hnew hperm

private theorem foldlM_insert_ordered (h : ComparesBy less p key) (hdone : ∀ x ∈ done, p x)
    (hxs : ∀ x ∈ xs, p x) (hordered : Ordered key done)
    (hys : xs.foldlM (fun done x ↦ insert less x done) done = .ok ys) : Ordered key ys := by
  induction xs generalizing done with
  | nil =>
    cases hys
    exact hordered
  | cons x xs ih =>
    have hx := hxs x List.mem_cons_self
    obtain ⟨done', hinsert, hperm⟩ := insert_perm h.compares hx hdone
    rw [List.foldlM_cons, hinsert, ok_bind] at hys
    refine ih (fun y hy ↦ ?_) (fun y hy ↦ hxs y (List.mem_cons_of_mem x hy))
      (insert_ordered h hx hdone hordered hinsert) hys
    rcases List.mem_cons.mp (hperm.mem_iff.mp hy) with rfl | hy
    · exact hx
    · exact hdone y hy

/-- **A sorted list** is in the order of its keys. -/
theorem sort_ordered (h : ComparesBy less p key) (hxs : ∀ x ∈ xs, p x)
    (hys : sort less xs = .ok ys) : Ordered key ys := by
  obtain ⟨run, others, hrun, hperm⟩ := firstRun_perm h.compares hxs
  have hall : ∀ x ∈ run ++ others, p x := fun x hx ↦ hxs x (hperm.mem_iff.mp hx)
  rw [sort, hrun, ok_bind] at hys
  exact foldlM_insert_ordered h (fun x hx ↦ hall x (List.mem_append_left others hx))
    (fun x hx ↦ hall x (List.mem_append_right run hx)) (firstRun_ordered h hxs hrun) hys

theorem eq_of_ordered (hxs : Ordered key xs) (hys : Ordered key ys) (hperm : xs.Perm ys)
    (hnodup : (xs.map key).Nodup) : xs = ys := by
  refine List.Perm.eq_of_pairwise (fun x y hx hy hxy hyx ↦ ?_) hxs hys hperm
  exact List.inj_on_of_nodup_map hnodup hx (hperm.mem_iff.mpr hy) (le_antisymm hxy hyx)

end Sorting

theorem Text.codePoints_injective : Function.Injective Text.codePoints := by
  intro s t h
  have hmap : ∀ s, (Text.codePoints s).map Text.ofCodePoint = s.toList := by
    intro s
    rw [Text.codePoints, List.map_map]
    exact (List.map_congr_left fun c _ ↦ Text.ofCodePoint_codePoint c).trans (List.map_id _)
  exact String.toList_inj.mp ((hmap s).symm.trans ((congrArg _ h).trans (hmap t)))

namespace Value

variable {α : Type} {es fs : List (Value × α)}

/-- The code points of a key that is a text. -/
def codes : Value → List Nat
  | text s => Text.codePoints s
  | _ => []

theorem comparesBy_codes : Sorting.ComparesBy (fun e f : Value × α ↦ e.1.less f.1)
    (fun e ↦ ∃ s, e.1 = text s) fun e ↦ codes e.1 := by
  rintro ⟨k, _⟩ ⟨k', _⟩ ⟨s, rfl⟩ ⟨t, rfl⟩
  refine ⟨decide (Text.codePoints s < Text.codePoints t), ?_, decide_eq_true_iff⟩
  dsimp only
  rw [less]

theorem nodup_codes (htext : ∀ e ∈ es, ∃ s, e.1 = text s) (hnodup : (es.map Prod.fst).Nodup) :
    (es.map fun e ↦ codes e.1).Nodup := by
  have hmap : (es.map fun e ↦ codes e.1) = (es.map Prod.fst).map codes := by
    rw [List.map_map]
    rfl
  rw [hmap]
  refine List.Nodup.map_on ?_ hnodup
  intro k hk k' hk' h
  obtain ⟨e, he, rfl⟩ := List.mem_map.mp hk
  obtain ⟨e', he', rfl⟩ := List.mem_map.mp hk'
  obtain ⟨s, hs⟩ := htext e he
  obtain ⟨t, ht⟩ := htext e' he'
  rw [hs, ht] at h ⊢
  exact congrArg text (Text.codePoints_injective h)

/-- **Entries whose keys are different texts** are sorted to one list, in which their code points
ascend. -/
theorem sortByKey_spec (htext : ∀ e ∈ es, ∃ s, e.1 = text s) (hnodup : (es.map Prod.fst).Nodup) :
    ∃ sorted, sortByKey es = .ok sorted ∧ sorted.Perm es ∧
      (sorted.map fun e ↦ codes e.1).Pairwise (· < ·) := by
  obtain ⟨sorted, hsort, hperm⟩ := sortByKey_perm htext
  have hordered := Sorting.sort_ordered comparesBy_codes htext hsort
  refine ⟨sorted, hsort, hperm, ?_⟩
  have hcodes : (sorted.map fun e ↦ codes e.1).Nodup :=
    (hperm.map _).nodup_iff.mpr (nodup_codes htext hnodup)
  refine List.Pairwise.imp₂ (fun a b hle hne ↦ lt_of_le_of_ne hle hne) ?_ hcodes
  exact List.pairwise_map.mpr hordered

/-- The order in which such entries stand at first does not matter. -/
theorem sortByKey_congr (htext : ∀ e ∈ es, ∃ s, e.1 = text s) (hnodup : (es.map Prod.fst).Nodup)
    (h : es.Perm fs) : sortByKey es = sortByKey fs := by
  have htext' : ∀ e ∈ fs, ∃ s, e.1 = text s := fun e he ↦ htext e (h.mem_iff.mpr he)
  obtain ⟨sorted, hsort, hperm⟩ := sortByKey_perm htext
  obtain ⟨sorted', hsort', hperm'⟩ := sortByKey_perm htext'
  have hnodup' : (sorted.map fun e ↦ codes e.1).Nodup :=
    (hperm.map _).nodup_iff.mpr (nodup_codes htext hnodup)
  rw [hsort, hsort', Sorting.eq_of_ordered (Sorting.sort_ordered comparesBy_codes htext hsort)
    (Sorting.sort_ordered comparesBy_codes htext' hsort')
    (hperm.trans (h.trans hperm'.symm)) hnodup']

/-- Entries whose keys ascend are sorted already. -/
theorem sortByKey_eq_self (htext : ∀ e ∈ es, ∃ s, e.1 = text s)
    (h : (es.map fun e ↦ codes e.1).Pairwise (· < ·)) : sortByKey es = .ok es := by
  obtain ⟨sorted, hsort, hperm⟩ := sortByKey_perm htext
  have hordered : Sorting.Ordered (fun e : Value × α ↦ codes e.1) es :=
    (List.pairwise_map.mp h).imp fun hlt ↦ hlt.le
  have hnodup : (es.map fun e ↦ codes e.1).Nodup := h.imp fun hlt ↦ hlt.ne
  rw [hsort, Sorting.eq_of_ordered hordered
    (Sorting.sort_ordered comparesBy_codes htext hsort) hperm.symm hnodup]

/-! ## Values in order -/

/-- The keys of a mapping are texts with ascending code points. -/
def KeysAscend : Value → Prop
  | map es => TextKeys es ∧ (es.map fun e ↦ codes e.1).Pairwise (· < ·)
  | _ => True

open Resource in
/-- **Plain data** can be reordered so that the keys of all mappings ascend. -/
theorem exists_ascending {v : Value} (h : PlainData v) :
    ∃ w, v.Reorders w ∧ PlainData w ∧ Throughout KeysAscend w := by
  have hleaf {v : Value} (hv : PlainData v) (hinside : inside v = []) (hascend : KeysAscend v) :
      ∃ w, v.Reorders w ∧ PlainData w ∧ Throughout KeysAscend w := by
    refine ⟨v, .refl v, hv, throughout_iff.mpr ⟨hascend, fun u hu ↦ ?_⟩⟩
    rw [hinside] at hu
    exact absurd hu List.not_mem_nil
  induction h with
  | null => exact hleaf .null rfl trivial
  | bool b => exact hleaf (.bool b) rfl trivial
  | int n => exact hleaf (.int n) rfl trivial
  | text s => exact hleaf (.text s) rfl trivial
  | @list xs _ ih =>
    obtain ⟨ys, hys⟩ := exists_forall₂ ih
    obtain ⟨hlen, hzip⟩ := List.forall₂_iff_zip.mp hys
    have hmem : ∀ y ∈ ys, PlainData y ∧ Throughout KeysAscend y := by
      intro y hy
      obtain ⟨x, -, hxy⟩ := exists_left_of_mem hys hy
      exact hxy.2
    exact ⟨list ys, .list hlen fun p hp ↦ (hzip hp).1, .list fun y hy ↦ (hmem y hy).1,
      throughout_iff.mpr ⟨trivial, fun y hy ↦ (hmem y hy).2⟩⟩
  | @map es hkeys hnodup _ ih =>
    have hentries : ∀ e ∈ es, ∃ f : Value × Value, e.1 = f.1 ∧ e.2.Reorders f.2 ∧ PlainData f.2 ∧
        Throughout KeysAscend f.2 := by
      intro e he
      obtain ⟨w, hw⟩ := ih e he
      exact ⟨(e.1, w), rfl, hw⟩
    -- The values are put in order under the keys as they stand; then the entries are sorted.
    obtain ⟨fs, hfs⟩ := exists_forall₂ hentries
    have hfst : es.map Prod.fst = fs.map Prod.fst := map_eq_of_forall₂ (hfs.imp fun _ _ h ↦ h.1)
    have hmem : ∀ f ∈ fs, (∃ s, f.1 = text s) ∧ PlainData f.2 ∧ Throughout KeysAscend f.2 := by
      intro f hf
      obtain ⟨e, he, hkey, -, hplain, hascend⟩ := exists_left_of_mem hfs hf
      exact ⟨hkey ▸ hkeys e he, hplain, hascend⟩
    obtain ⟨gs, -, hperm, hascend⟩ := sortByKey_spec (fun f hf ↦ (hmem f hf).1) (hfst ▸ hnodup)
    have hmem : ∀ g ∈ gs, (∃ s, g.1 = text s) ∧ PlainData g.2 ∧ Throughout KeysAscend g.2 :=
      fun g hg ↦ hmem g (hperm.mem_iff.mp hg)
    have htext : TextKeys gs := fun g hg ↦ (hmem g hg).1
    refine ⟨map gs, .map hfst (fun p hp ↦ ((List.forall₂_iff_zip.mp hfs).2 hp).2.1) hperm.symm,
      .map htext ?_ fun g hg ↦ (hmem g hg).2.1, throughout_iff.mpr ⟨⟨htext, hascend⟩, ?_⟩⟩
    · exact (hperm.map Prod.fst).nodup_iff.mpr (hfst ▸ hnodup)
    · intro u hu
      obtain ⟨g, hg, rfl⟩ := List.mem_map.mp hu
      exact (hmem g hg).2.2

end Value

end GatewayPrint
