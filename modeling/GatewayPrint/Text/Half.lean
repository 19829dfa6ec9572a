/-!
# Halves of characters

A text may hold one half of a UTF-16 pair without the other. Such a half is kept as a character of
the last private plane, at the place that the half has in the first plane; its code point is that of
the half.

## What is lost

All characters are taken, so the 2048 ones that stand for halves, U+10D800 to U+10DFFF, cannot stand
for themselves: a text with one of them is handled as the text with a half in its place. They are
for private use, and every text without them is represented as it is. Characters keep the code
points they are made from (`codePoint_ofCodePoint`).
-/

namespace GatewayPrint.Text

/-- The distance from a half to the character that stands for it. -/
def halfShift : Nat := 0x100000

/-- The code point of a half. -/
def isHalfCode (n : Nat) : Bool := 0xd800 ≤ n && n < 0xe000

/-- The code point of the first half of a pair. -/
def isFirstHalf (n : Nat) : Bool := 0xd800 ≤ n && n < 0xdc00

/-- The code point of the second half of a pair. -/
def isSecondHalf (n : Nat) : Bool := 0xdc00 ≤ n && n < 0xe000

/-- A character that stands for a half. -/
def isHalf (c : Char) : Bool := halfShift ≤ c.toNat && isHalfCode (c.toNat - halfShift)

/-- The code point that a character stands for. -/
def codePoint (c : Char) : Nat := if isHalf c then c.toNat - halfShift else c.toNat

def ofCodePoint (n : Nat) : Char := Char.ofNat (if isHalfCode n then halfShift + n else n)

/-- The code points of a text; texts are ordered by them. -/
def codePoints (s : String) : List Nat := s.toList.map codePoint

theorem toNat_ofNat_of_valid {n : Nat} (h : n.isValidChar) : (Char.ofNat n).toNat = n := by
  have made : Char.ofNat n = Char.ofNatAux n h := dif_pos h
  rw [made]
  rfl

/-- The character for a half stands for it. -/
theorem codePoint_ofCodePoint {n : Nat} (h : isHalfCode n = true) :
    codePoint (ofCodePoint n) = n := by
  have hb : 0xd800 ≤ n ∧ n < 0xe000 := by simpa [isHalfCode] using h
  have hv : (halfShift + n).isValidChar := by
    right
    simp only [halfShift]
    omega
  have hn : (ofCodePoint n).toNat = halfShift + n := by
    rw [ofCodePoint, if_pos h, toNat_ofNat_of_valid hv]
  simp [codePoint, isHalf, hn, h]

theorem codePoint_ascii {c : Char} (h : c.toNat < 0x80) : codePoint c = c.toNat := by
  have hs : ¬halfShift ≤ c.toNat := by simp only [halfShift]; omega
  simp [codePoint, isHalf, hs]

end GatewayPrint.Text
