import GatewayPrint.Json.Escape
import GatewayPrint.Proofs.Halves
import Mathlib.Data.List.Chain

/-!
# Strings that are written and read

A character is written as itself, as a short escape, or as its UTF-16 units in hexadecimal digits.
Reading gives all units back (`unescape_escapeChar`) and joins them, so a string is read as what its
units are joined to (`readString?_escape`).

## Halves

A text of UTF-16 units may hold one half of a character without the other. Such a half is written as
its unit and read back. Two of them that stand next to each other are a character to every reader,
so a string comes back as it was when it keeps halves apart, and only then (`joined_eq_iff`); a
string without halves does (`halvesApart_of_not_isHalf`).
-/

namespace GatewayPrint.Json

open Text (codePoint codePoint_ascii codePoint_lt hex hexDigit hexValues? isFirstHalf isSecondHalf
  ofCodePoint ofCodePoint_codePoint)

variable {c d : Char} {s rest : List Char} {n : Nat} {ns : List Nat}

/-! ## Units -/

def units (c : Char) : List Nat :=
  if codePoint c < 0x10000 then [codePoint c]
  else [0xd800 + (c.toNat - 0x10000) / 0x400, 0xdc00 + (c.toNat - 0x10000) % 0x400]

/-- The string that the units of a string are joined to. -/
def joined (s : String) : String := String.ofList (joinUnits (s.toList.flatMap units))

/-- A first half does not stand directly before a second half. -/
def HalvesApart (s : String) : Prop :=
  s.toList.IsChain fun c d ↦ ¬(isFirstHalf (codePoint c) = true ∧ isSecondHalf (codePoint d) = true)

instance (s : String) : Decidable (HalvesApart s) :=
  inferInstanceAs (Decidable (List.IsChain _ _))

theorem toNat_of_codePoint (h : 0x10000 ≤ codePoint c) : codePoint c = c.toNat := by
  rw [codePoint] at h ⊢
  split at h
  · next hc =>
    have hb : c.toNat - Text.halfShift < 0xe000 := by
      have := (Bool.and_eq_true_iff.mp hc).2
      simp only [Text.isHalfCode, Bool.and_eq_true, decide_eq_true_eq] at this
      exact this.2
    omega
  · next hc => rw [if_neg hc]

theorem joinUnits_cons (h : ∀ m ∈ ns.head?, ¬(isFirstHalf n = true ∧ isSecondHalf m = true)) :
    joinUnits (n :: ns) = ofCodePoint n :: joinUnits ns := by
  cases ns with
  | nil => rfl
  | cons m ns =>
    have hm := h m rfl
    rw [← Bool.and_eq_true] at hm
    rw [joinUnits, if_neg hm]

/-- The two units of a character beyond the first plane are joined. -/
theorem joinUnits_pair (h : 0x10000 ≤ codePoint c) :
    joinUnits ((0xd800 + (c.toNat - 0x10000) / 0x400) ::
      (0xdc00 + (c.toNat - 0x10000) % 0x400) :: ns) = c :: joinUnits ns := by
  have hcode := toNat_of_codePoint h
  have hlt := codePoint_lt c
  have hfirst : isFirstHalf (0xd800 + (c.toNat - 0x10000) / 0x400) = true := by
    simp only [isFirstHalf, Bool.and_eq_true, decide_eq_true_eq]
    omega
  have hsecond : isSecondHalf (0xdc00 + (c.toNat - 0x10000) % 0x400) = true := by
    simp only [isSecondHalf, Bool.and_eq_true, decide_eq_true_eq]
    omega
  have hsum : 0x10000 + (0xd800 + (c.toNat - 0x10000) / 0x400 - 0xd800) * 0x400
      + (0xdc00 + (c.toNat - 0x10000) % 0x400 - 0xdc00) = c.toNat := by
    omega
  rw [joinUnits, hfirst, hsecond, Bool.and_self, if_pos rfl, hsum, Char.ofNat_toNat]

/-- The first unit of a character is a second half only if the character is one. -/
theorem isSecondHalf_head_units (h : n ∈ (units c).head?) (hn : isSecondHalf n = true) :
    isSecondHalf (codePoint c) = true := by
  rw [units] at h
  split at h
  · rwa [Option.mem_def.mp h |> Option.some.inj]
  · cases Option.some.inj (Option.mem_def.mp h)
    have hlt := codePoint_lt c
    have hcode := toNat_of_codePoint (c := c) (by omega)
    simp only [isSecondHalf, Bool.and_eq_true, decide_eq_true_eq] at hn
    omega

theorem head?_flatMap_units (s : List Char) :
    (s.flatMap units).head? = s.head?.bind fun c ↦ (units c).head? := by
  cases s with
  | nil => rfl
  | cons c s =>
    rw [List.flatMap_cons, List.head?_append, List.head?_cons, Option.bind_some, units]
    split <;> rfl

/-- How joining begins: the two halves of a character are taken for it, and any other character
comes out as it went in. -/
private theorem joinUnits_units_cases (c : Char) (s : List Char) :
    (∃ d s', s = d :: s' ∧ isFirstHalf (codePoint c) = true ∧ isSecondHalf (codePoint d) = true ∧
      ∃ x, joinUnits ((c :: s).flatMap units) = x :: joinUnits (s'.flatMap units)) ∨
    (∀ d ∈ s.head?, ¬(isFirstHalf (codePoint c) = true ∧ isSecondHalf (codePoint d) = true)) ∧
      joinUnits ((c :: s).flatMap units) = c :: joinUnits (s.flatMap units) := by
  rw [List.flatMap_cons]
  by_cases hc : codePoint c < 0x10000
  · have hunits : units c = [codePoint c] := if_pos hc
    rw [hunits, List.singleton_append]
    by_cases hpair : ∃ d ∈ s.head?, isFirstHalf (codePoint c) = true ∧
        isSecondHalf (codePoint d) = true
    · obtain ⟨d, hd, hfirst, hsecond⟩ := hpair
      obtain ⟨s', rfl⟩ : ∃ s', s = d :: s' := ⟨_, (List.cons_head?_tail hd).symm⟩
      refine .inl ⟨d, s', rfl, hfirst, hsecond, ?_⟩
      have hone : units d = [codePoint d] := by
        rw [units, if_pos]
        simp only [isSecondHalf, Bool.and_eq_true, decide_eq_true_eq] at hsecond
        omega
      rw [List.flatMap_cons, hone, List.singleton_append, joinUnits, hfirst, hsecond,
        Bool.and_self, if_pos rfl]
      exact ⟨_, rfl⟩
    · push Not at hpair
      refine .inr ⟨fun d hd h ↦ hpair d hd h.1 h.2, ?_⟩
      rw [joinUnits_cons, ofCodePoint_codePoint]
      rintro m hm ⟨hfirst, hsecond⟩
      rw [head?_flatMap_units] at hm
      obtain ⟨d, hd, hm⟩ := Option.bind_eq_some_iff.mp hm
      exact hpair d hd hfirst (isSecondHalf_head_units hm hsecond)
  · have hunits : units c = _ := if_neg hc
    rw [hunits, List.cons_append, List.cons_append, List.nil_append,
      joinUnits_pair (Nat.not_lt.mp hc)]
    refine .inr ⟨fun d _ h ↦ hc ?_, rfl⟩
    have hfirst := h.1
    simp only [isFirstHalf, Bool.and_eq_true, decide_eq_true_eq] at hfirst
    omega

private theorem length_joinUnits_units_le (s : List Char) :
    (joinUnits (s.flatMap units)).length ≤ s.length := by
  induction hn : s.length using Nat.strong_induction_on generalizing s with
  | _ n ih =>
    subst hn
    cases s with
    | nil => exact Nat.le_refl 0
    | cons c s =>
      rcases joinUnits_units_cases c s with ⟨d, s', rfl, -, -, x, hx⟩ | ⟨-, hc⟩
      · have hs := ih s'.length (by simp only [List.length_cons]; omega) s' rfl
        rw [hx, List.length_cons, List.length_cons, List.length_cons]
        omega
      · rw [hc, List.length_cons, List.length_cons]
        exact Nat.succ_le_succ (ih s.length (by simp) s rfl)

/-- **Units** are joined to the characters that they come from when halves stand apart, and only
then. -/
theorem joinUnits_flatMap_units_iff :
    joinUnits (s.flatMap units) = s ↔ s.IsChain fun c d ↦
      ¬(isFirstHalf (codePoint c) = true ∧ isSecondHalf (codePoint d) = true) := by
  induction s with
  | nil => exact iff_of_true rfl .nil
  | cons c s ih =>
    rw [List.isChain_cons, ← ih]
    rcases joinUnits_units_cases c s with ⟨d, s', rfl, hfirst, hsecond, x, hx⟩ | ⟨hnot, hc⟩
    · refine iff_of_false (fun h ↦ ?_) fun h ↦ h.1 d rfl ⟨hfirst, hsecond⟩
      -- What has been joined once stays too short.
      have hle := length_joinUnits_units_le s'
      have hlen := congrArg List.length (hx.symm.trans h)
      simp only [List.length_cons] at hlen
      omega
    · rw [hc, and_iff_right hnot, List.cons.injEq, and_iff_right rfl]

/-- **A string** is what its units are joined to when it keeps halves apart, and only then. -/
theorem joined_eq_iff {s : String} : joined s = s ↔ HalvesApart s := by
  rw [HalvesApart, ← joinUnits_flatMap_units_iff, joined, ← String.toList_inj, String.toList_ofList]

/-- Where a character stands for itself, its code point is that of no half. -/
theorem not_isFirstHalf_codePoint (h : Text.isHalf c = false) :
    isFirstHalf (codePoint c) = false := by
  have hcode : codePoint c = c.toNat := by rw [codePoint, h, if_neg Bool.false_ne_true]
  rw [hcode]
  simp only [isFirstHalf, Bool.and_eq_false_iff, decide_eq_false_iff_not]
  rcases c.valid with hv | hv
  · have hv : c.toNat < 0xd800 := hv
    omega
  · have hv : 0xdfff < c.toNat := hv.1
    omega

/-- A string without halves keeps them apart. -/
theorem halvesApart_of_not_isHalf {s : String} (h : ∀ c ∈ s.toList, Text.isHalf c = false) :
    HalvesApart s :=
  (List.pairwise_of_forall_mem_list fun c hc _ _ hpair ↦
    absurd (hpair.1.symm.trans (not_isFirstHalf_codePoint (h c hc))) (by decide)).isChain

/-! ## Characters of ASCII -/

def isPlainAscii (c : Char) : Bool := 0x20 ≤ c.toNat && c.toNat ≤ 0x7e

private theorem isPlainAscii_hexDigit : ∀ n < 16, isPlainAscii (hexDigit n) = true := by decide

private theorem isPlainAscii_of_mem_hex {width : Nat} (h : d ∈ hex width n) :
    isPlainAscii d = true := by
  induction width generalizing n with
  | zero => cases h
  | succ w ih =>
    rw [hex, List.mem_append, List.mem_singleton] at h
    rcases h with h | rfl
    · exact ih h
    · exact isPlainAscii_hexDigit _ (Nat.mod_lt n (by decide))

private theorem isPlainAscii_of_mem_unitEscape (h : d ∈ unitEscape n) : isPlainAscii d = true := by
  rw [unitEscape, List.mem_cons, List.mem_cons] at h
  rcases h with rfl | rfl | h
  · decide
  · decide
  · exact isPlainAscii_of_mem_hex h

theorem units_of_ascii (h : c.toNat < 0x80) : units c = [c.toNat] := by
  rw [units, codePoint_ascii h, if_pos (by omega)]

private theorem lt_of_mem_units (h : n ∈ units c) : n < 0x10000 := by
  rw [units] at h
  split at h
  · next hc => rwa [List.mem_singleton.mp h]
  · next hc =>
    have hlt := codePoint_lt c
    have hcode := toNat_of_codePoint (Nat.not_lt.mp hc)
    simp only [List.mem_cons, List.not_mem_nil, or_false] at h
    omega

/-! ## Escapes -/

/-- The escape of a character by a single letter. -/
structure IsShort (c e : Char) : Prop where
  reads : shortEscape? e = some c
  letter : e ≠ 'u'
  ascii : c.toNat < 0x80
  plain : isPlainAscii e = true

/-- A character is written with a short escape, as itself, or as its units. -/
theorem escapeChar_cases (c : Char) :
    (∃ e, IsShort c e ∧ escapeChar c = ['\\', e]) ∨
      (c ≠ '"' ∧ c ≠ '\\' ∧ isPlainAscii c = true ∧ escapeChar c = [c]) ∨
      escapeChar c = (units c).flatMap unitEscape := by
  -- Seven short escapes, in the order in which the writer tries them.
  rw [escapeChar]
  split
  · next h => subst h; exact .inl ⟨'"', ⟨rfl, by decide, by decide, by decide⟩, rfl⟩
  split
  · next h => subst h; exact .inl ⟨'\\', ⟨rfl, by decide, by decide, by decide⟩, rfl⟩
  split
  · next h => subst h; exact .inl ⟨'n', ⟨rfl, by decide, by decide, by decide⟩, rfl⟩
  split
  · next h => subst h; exact .inl ⟨'r', ⟨rfl, by decide, by decide, by decide⟩, rfl⟩
  split
  · next h => subst h; exact .inl ⟨'t', ⟨rfl, by decide, by decide, by decide⟩, rfl⟩
  split
  · next h =>
    obtain rfl : c = Char.ofNat 0x0c := by rw [← h, Char.ofNat_toNat]
    exact .inl ⟨'f', ⟨rfl, by decide, by decide, by decide⟩, rfl⟩
  split
  · next h =>
    obtain rfl : c = Char.ofNat 0x08 := by rw [← h, Char.ofNat_toNat]
    exact .inl ⟨'b', ⟨rfl, by decide, by decide, by decide⟩, rfl⟩
  split
  · next hquote hslash _ _ _ _ _ h =>
    refine .inr (.inl ⟨hquote, hslash, ?_, rfl⟩)
    simp only [Bool.and_eq_true, decide_eq_true_eq] at h
    simp only [isPlainAscii, Bool.and_eq_true, decide_eq_true_eq]
    omega
  split
  · next h => exact .inr (.inr (by rw [units, if_pos h, List.flatMap_singleton]))
  · next h =>
    refine .inr (.inr ?_)
    rw [units, if_neg h, List.flatMap_cons, List.flatMap_singleton]

private theorem unescape_unitEscape (h : n < 0x10000) :
    unescape (unitEscape n ++ rest) = (unescape rest).map fun r ↦ (n :: r.1, r.2) := by
  have hdigits := Text.hexValues?_hex 4 n
  rw [show n % Nat.pow 16 4 = n from Nat.mod_eq_of_lt h] at hdigits
  simp only [hex, List.nil_append, List.cons_append] at hdigits
  simp only [unitEscape, hex, List.nil_append, List.cons_append, unescape, hdigits]
  cases unescape rest <;> rfl

private theorem unescape_flatMap_unitEscape (h : ∀ n ∈ ns, n < 0x10000) :
    unescape (ns.flatMap unitEscape ++ rest) = (unescape rest).map fun r ↦ (ns ++ r.1, r.2) := by
  induction ns with
  | nil =>
    rw [List.flatMap_nil, List.nil_append]
    cases unescape rest <;> rfl
  | cons n ns ih =>
    rw [List.flatMap_cons, List.append_assoc, unescape_unitEscape (h n List.mem_cons_self),
      ih fun m hm ↦ h m (List.mem_cons_of_mem n hm), Option.map_map]
    rfl

/-- **A character** is read back as its units. -/
theorem unescape_escapeChar (c : Char) (rest : List Char) :
    unescape (escapeChar c ++ rest) = (unescape rest).map fun r ↦ (units c ++ r.1, r.2) := by
  rcases escapeChar_cases c with ⟨e, he, h⟩ | ⟨hquote, hslash, hplain, h⟩ | h
  · rw [h, List.cons_append, List.singleton_append, unescape, he.reads, units_of_ascii he.ascii]
    · cases unescape rest <;> rfl
    · exact fun a b x y tail hu _ ↦ he.letter hu
  · have hlt : c.toNat < 0x80 := by
      simp only [isPlainAscii, Bool.and_eq_true, decide_eq_true_eq] at hplain
      omega
    rw [h, List.singleton_append, unescape, units_of_ascii hlt]
    · cases unescape rest <;> rfl
    · exact hquote
    · exact fun a b x y tail hc _ ↦ hslash hc
    · exact fun x tail hc _ ↦ hslash hc
  · rw [h, unescape_flatMap_unitEscape fun n ↦ lt_of_mem_units]

private theorem unescape_flatMap (s rest : List Char) :
    unescape (s.flatMap escapeChar ++ '"' :: rest) = some (s.flatMap units, rest) := by
  induction s with
  | nil => rfl
  | cons c s ih =>
    rw [List.flatMap_cons, List.flatMap_cons, List.append_assoc, unescape_escapeChar, ih,
      Option.map_some]

/-- **A string** is read as what its units are joined to. -/
theorem readString?_escape (s : String) (rest : List Char) :
    readString? (escape s.toList ++ rest) = some (joined s, rest) := by
  rw [escape, List.cons_append, List.cons_append, List.append_assoc, List.singleton_append,
    readString?, unescape_flatMap, Option.map_some, joined]

private theorem isPlainAscii_of_mem_escapeChar (h : d ∈ escapeChar c) : isPlainAscii d = true := by
  rcases escapeChar_cases c with ⟨e, he, hc⟩ | ⟨-, -, hplain, hc⟩ | hc
  · rw [hc, List.mem_cons, List.mem_singleton] at h
    rcases h with rfl | rfl
    · decide
    · exact he.plain
  · rw [hc] at h
    rwa [List.mem_singleton.mp h]
  · rw [hc] at h
    obtain ⟨n, -, hd⟩ := List.mem_flatMap.mp h
    exact isPlainAscii_of_mem_unitEscape hd

/-- **A string** is written in printable ASCII. -/
theorem isPlainAscii_of_mem_escape (h : d ∈ escape s) : isPlainAscii d = true := by
  rw [escape, List.cons_append, List.mem_cons, List.mem_append, List.mem_singleton] at h
  rcases h with rfl | h | rfl
  · decide
  · obtain ⟨c, -, hd⟩ := List.mem_flatMap.mp h
    exact isPlainAscii_of_mem_escapeChar hd
  · decide

end GatewayPrint.Json
