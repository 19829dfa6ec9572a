import Mathlib.Data.List.Forall2
import Mathlib.Data.List.Zip
import Mathlib.Tactic.Common

/-!
# Lists element by element

What is known of the elements of two lists that are related element by element, and of the lists
that a list of pairs falls into.
-/

namespace GatewayPrint

variable {α β : Type} {r : α → β → Prop} {xs : List α} {ys : List β} {x : α} {y : β}

theorem exists_forall₂ (h : ∀ x ∈ xs, ∃ y, r x y) : ∃ ys, List.Forall₂ r xs ys := by
  induction xs with
  | nil => exact ⟨[], .nil⟩
  | cons x xs ih =>
    obtain ⟨y, hy⟩ := h x List.mem_cons_self
    obtain ⟨ys, hys⟩ := ih fun z hz ↦ h z (List.mem_cons_of_mem x hz)
    exact ⟨y :: ys, .cons hy hys⟩

theorem exists_right_of_mem (h : List.Forall₂ r xs ys) (hx : x ∈ xs) : ∃ y ∈ ys, r x y := by
  induction h with
  | nil => cases hx
  | @cons a b _ _ hab _ ih =>
    rcases List.mem_cons.mp hx with rfl | hx
    · exact ⟨b, List.mem_cons_self, hab⟩
    · obtain ⟨y, hy, hxy⟩ := ih hx
      exact ⟨y, List.mem_cons_of_mem b hy, hxy⟩

theorem exists_left_of_mem (h : List.Forall₂ r xs ys) (hy : y ∈ ys) : ∃ x ∈ xs, r x y :=
  exists_right_of_mem (r := fun y x ↦ r x y) h.flip hy

/-- Related elements have the same image in both lists. -/
theorem map_eq_of_forall₂ {γ : Type} {f : α → γ} {g : β → γ}
    (h : List.Forall₂ (fun x y ↦ f x = g y) xs ys) : xs.map f = ys.map g := by
  induction h with
  | nil => rfl
  | cons hxy _ ih => rw [List.map_cons, List.map_cons, hxy, ih]

theorem forall_zip_fst {p : α → Prop} (hlen : xs.length = ys.length) :
    (∀ e ∈ xs.zip ys, p e.1) ↔ ∀ x ∈ xs, p x := by
  rw [← List.forall_mem_map, List.map_fst_zip (Nat.le_of_eq hlen)]

theorem forall_zip_snd {p : β → Prop} (hlen : xs.length = ys.length) :
    (∀ e ∈ xs.zip ys, p e.2) ↔ ∀ y ∈ ys, p y := by
  rw [← List.forall_mem_map, List.map_snd_zip (Nat.le_of_eq hlen.symm)]

end GatewayPrint
