import GatewayPrint.Text.Half
import Mathlib.Tactic.Common

/-!
# Characters and code points

Every character is the one for its code point, whether it stands for itself or for a half of a pair.
-/

namespace GatewayPrint.Text

theorem codePoint_lt (c : Char) : codePoint c < 0x110000 := by
  have hlt : c.toNat < 0x110000 := by
    rcases c.valid with h | h
    · exact Nat.lt_trans h (by decide)
    · exact h.2
  rw [codePoint]
  split <;> omega

theorem ofCodePoint_codePoint (c : Char) : ofCodePoint (codePoint c) = c := by
  rw [codePoint]
  split
  · next h =>
    have hb : halfShift ≤ c.toNat ∧ isHalfCode (c.toNat - halfShift) = true := by
      simpa [isHalf] using h
    rw [ofCodePoint, if_pos hb.2, Nat.add_sub_cancel' hb.1, Char.ofNat_toNat]
  · have hcode : isHalfCode c.toNat = false := by
      rcases c.valid with h | h
      · have h : c.toNat < 0xd800 := h
        simp only [isHalfCode, Bool.and_eq_false_iff, decide_eq_false_iff_not]
        omega
      · have h : 0xdfff < c.toNat := h.1
        simp only [isHalfCode, Bool.and_eq_false_iff, decide_eq_false_iff_not]
        omega
    rw [ofCodePoint, hcode, if_neg Bool.false_ne_true, Char.ofNat_toNat]

end GatewayPrint.Text
