import GatewayPrint.Number.Whole
import Mathlib.Tactic.Common

/-!
# Numerals

The decimal text of a whole number is a run of digits without needless zeros, after a sign if the
number is negative (`toList_intText`).
-/

namespace GatewayPrint

variable {c : Char} {ds : List Char} {n : Nat}

theorem exists_digitChar (h : c.isDigit = true) : ∃ d < 10, c = Nat.digitChar d := by
  rw [Char.isDigit, Bool.and_eq_true, decide_eq_true_eq, decide_eq_true_eq] at h
  have hlo : 48 ≤ c.toNat := h.1
  have hhi : c.toNat ≤ 57 := h.2
  refine ⟨c.toNat - 48, by omega, Char.toNat_inj.mp ?_⟩
  rw [Nat.toNat_digitChar_of_lt_ten (by omega)]
  omega

/-- What holds of the ten digits holds of every digit. -/
theorem forall_isDigit {p : Char → Prop} (hp : ∀ d < 10, p (Nat.digitChar d))
    (h : c.isDigit = true) : p c := by
  obtain ⟨d, hd, rfl⟩ := exists_digitChar h
  exact hp d hd

/-- A run of digits without needless zeros. -/
structure IsNumeral (ds : List Char) : Prop where
  ne_nil : ds ≠ []
  digits : ∀ c ∈ ds, c.isDigit = true
  lead : ds.head? = some '0' → ds = ['0']

theorem head?_toDigits (hn : 0 < n) : (Nat.toDigits 10 n).head? ≠ some '0' := by
  induction n using Nat.strongRecOn with
  | _ n ih =>
  rcases Nat.lt_or_ge n 10 with hlt | hge
  · rw [Nat.toDigits_of_lt_base hlt]
    have hdigit : ∀ d < 10, 0 < d → [Nat.digitChar d].head? ≠ some '0' := by decide
    exact hdigit n hlt hn
  · rw [Nat.toDigits_of_base_le (by decide) hge, List.head?_append]
    have hdiv := ih (n / 10) (Nat.div_lt_self hn (by decide)) (Nat.div_pos hge (by decide))
    cases hhead : (Nat.toDigits 10 (n / 10)).head? with
    | none => exact absurd (List.head?_eq_none_iff.mp hhead) Nat.toDigits_ne_nil
    | some x =>
      rw [hhead] at hdiv
      exact hdiv

private theorem isNumeral_toDigits (n : Nat) : IsNumeral (Nat.toDigits 10 n) where
  ne_nil := Nat.toDigits_ne_nil
  digits := fun _ hc ↦ Nat.isDigit_of_mem_toDigits (by decide) (by decide) hc
  lead := by
    intro hzero
    rcases Nat.eq_zero_or_pos n with rfl | hn
    · exact Nat.toDigits_zero 10
    · exact absurd hzero (head?_toDigits hn)

theorem intText?_eq {n : Int} (h : (intText? n).isSome = true) : intText? n = some (intText n) := by
  rw [intText?] at h ⊢
  split at h
  · cases h
  · next hlen => rw [if_neg hlen]

/-- The text of a whole number: a numeral, with a sign if it is negative. -/
theorem toList_intText (n : Int) : ∃ ds, IsNumeral ds ∧ digitsValue ds = n.natAbs ∧
    ((intText n).toList = ds ∧ 0 ≤ n ∨ (intText n).toList = '-' :: ds ∧ n < 0) ∧
    (ds.length ≤ maxDigits ↔ (intText? n).isSome = true) := by
  refine ⟨Nat.toDigits 10 n.natAbs, isNumeral_toDigits _, digitsValue_toDigits _, ?_, ?_⟩
  · rw [intText, String.toList_ofList]
    by_cases hn : n < 0
    · rw [if_pos hn]
      exact .inr ⟨rfl, hn⟩
    · rw [if_neg hn]
      exact .inl ⟨rfl, Int.not_lt.mp hn⟩
  · rw [intText?]
    split
    · exact ⟨fun h ↦ by omega, fun h ↦ nomatch h⟩
    · exact ⟨fun _ ↦ rfl, fun _ ↦ by omega⟩

end GatewayPrint
