import GatewayPrint.Proofs.Association
import GatewayPrint.Text.Emoji
import GatewayPrint.Text.Half

/-!
# Emoji codes in a text

Replacing the emoji codes of a text cannot be overlooked: every code has two colons, and no emoji
has one. So a text that has all its colons left has not been changed (`replaceEmoji_cases`).
-/

namespace GatewayPrint.Text

variable {s t code rest : List Char} {c : Char}

/-! ## The table -/

/-- A character that may stand for a name: no colon, and nothing that ends or moves a line. -/
def IsPicture (c : Char) : Prop := c ≠ ':' ∧ c ≠ '\n' ∧ c ≠ '\t'

instance (c : Char) : Decidable (IsPicture c) := inferInstanceAs (Decidable (_ ∧ _ ∧ _))

private theorem code_of_mem_emojiTable {e : String × List Nat} (he : e ∈ emojiTable) {n : Nat}
    (hn : n ∈ e.2) : 10 < n ∧ n ≠ 58 := by
  have hall : (emojiTable.all fun e ↦ e.2.all fun n ↦ 10 < n && n != 58) = true := by
    decide +kernel
  have h := List.all_eq_true.mp (List.all_eq_true.mp hall e he) n hn
  rwa [Bool.and_eq_true, decide_eq_true_eq, bne_iff_ne] at h

private theorem isPicture_ofNat {n : Nat} (h : 10 < n ∧ n ≠ 58) : IsPicture (Char.ofNat n) := by
  have hcode : (Char.ofNat n).toNat = n ∨ (Char.ofNat n).toNat = 0 := by
    by_cases hn : n.isValidChar
    · exact .inl (toNat_ofNat_of_valid hn)
    · have hzero : Char.ofNat n = '\x00' := dif_neg hn
      exact .inr (congrArg Char.toNat hzero)
  refine ⟨?_, ?_, ?_⟩
  all_goals
    intro heq
    rw [heq] at hcode
    simp at hcode
    omega

private theorem isPicture_emojiNamed? {name emoji : List Char} (h : emojiNamed? name = some emoji)
    (hc : c ∈ emoji) : IsPicture c := by
  obtain ⟨codes, hcodes, rfl⟩ := Option.map_eq_some_iff.mp h
  obtain ⟨n, hn, rfl⟩ := List.mem_map.mp hc
  exact isPicture_ofNat (code_of_mem_emojiTable (mem_of_lookup hcodes) hn)

private theorem isPicture_splitPresentation (hc : c ∈ (splitPresentation code).2) :
    IsPicture c := by
  have hall : ∀ p ∈ presentations, IsPicture p.2 := by decide
  rw [splitPresentation] at hc
  split at hc
  · next p hp =>
    rw [List.mem_singleton.mp hc]
    exact hall p (List.mem_of_find?_eq_some hp)
  · cases hc

theorem emojiOfCode_cases (code : List Char) :
    emojiOfCode code = ':' :: code ++ [':'] ∨ ∀ c ∈ emojiOfCode code, IsPicture c := by
  rw [emojiOfCode]
  dsimp only
  split
  · next emoji hemoji =>
    refine .inr fun c hc ↦ ?_
    rcases List.mem_append.mp hc with hc | hc
    · exact isPicture_emojiNamed? hemoji hc
    · exact isPicture_splitPresentation hc
  · exact .inl rfl

/-! ## Replacing -/

theorem eq_of_codeEnd? (h : codeEnd? s = some (code, rest)) :
    s = code ++ ':' :: rest ∧ ':' ∉ code := by
  fun_induction codeEnd? s generalizing code with
  | case1 => cases h
  | case2 s =>
    cases h
    exact ⟨rfl, List.not_mem_nil⟩
  | case3 => cases h
  | case4 c s hc hblank ih =>
    obtain ⟨⟨inner, rest'⟩, hinner, heq⟩ := Option.map_eq_some_iff.mp h
    cases heq
    obtain ⟨rfl, hcolon⟩ := ih hinner
    refine ⟨rfl, fun hmem ↦ ?_⟩
    rcases List.mem_cons.mp hmem with rfl | hmem
    · exact hc rfl
    · exact hcolon hmem

def colons (s : List Char) : Nat := s.count ':'

@[simp] theorem colons_append (s t : List Char) : colons (s ++ t) = colons s + colons t :=
  List.count_append

theorem colons_cons_self (s : List Char) : colons (':' :: s) = colons s + 1 :=
  List.count_cons_self

theorem colons_cons_of_ne (h : c ≠ ':') (s : List Char) : colons (c :: s) = colons s :=
  List.count_cons_of_ne h

theorem colons_eq_zero (h : ':' ∉ s) : colons s = 0 := List.count_eq_zero.mpr h

/-- **Replacing emoji codes** changes nothing, or takes away the two colons of a code. The induction
is on how the codes are found. -/
theorem replaceEmoji_cases (s : List Char) :
    replaceEmoji s = s ∨ colons (replaceEmoji s) + 2 ≤ colons s := by
  fun_induction replaceEmoji s with
  | case1 => exact .inl rfl
  | case2 s code rest h ih =>
    obtain ⟨rfl, hcode⟩ := eq_of_codeEnd? h
    have hcount : colons (':' :: (code ++ ':' :: rest)) = colons rest + 2 := by
      rw [colons_cons_self, colons_append, colons_eq_zero hcode, colons_cons_self]
      omega
    -- An unknown code stays as it is, colons included; a known one becomes a picture without any.
    rcases emojiOfCode_cases code with hsame | hemoji
    · have hkept : colons (emojiOfCode code) = 2 := by
        rw [hsame, List.cons_append, colons_cons_self, colons_append, colons_eq_zero hcode]
        rfl
      rcases ih with ih | ih
      · left
        rw [ih, hsame]
        simp
      · right
        rw [hcount, colons_append, hkept]
        omega
    · right
      have hnone : colons (emojiOfCode code) = 0 := colons_eq_zero fun hc ↦ (hemoji _ hc).1 rfl
      have hrest : colons (replaceEmoji rest) ≤ colons rest := by
        rcases ih with ih | ih
        · exact Nat.le_of_eq (congrArg colons ih)
        · omega
      rw [hcount, colons_append, hnone]
      omega
  | case3 s h ih =>
    rw [colons_cons_self, colons_cons_self]
    rcases ih with ih | ih
    · exact .inl (congrArg _ ih)
    · exact .inr (Nat.add_le_add_right ih 1)
  | case4 c s hc ih =>
    rw [colons_cons_of_ne hc, colons_cons_of_ne hc]
    rcases ih with ih | ih
    · exact .inl (congrArg _ ih)
    · exact .inr ih

/-- A text without two colons has no codes. -/
theorem replaceEmoji_of_colons (h : colons s < 2) : replaceEmoji s = s := by
  rcases replaceEmoji_cases s with hsame | hfewer
  · exact hsame
  · omega

/-- Replacing emoji codes brings no characters that end or move a line. -/
theorem mem_replaceEmoji (h : c ∈ replaceEmoji s) : c ∈ s ∨ IsPicture c := by
  fun_induction replaceEmoji s with
  | case1 => cases h
  | case2 s code rest hcode ih =>
    obtain ⟨rfl, -⟩ := eq_of_codeEnd? hcode
    rcases List.mem_append.mp h with h | h
    · rcases emojiOfCode_cases code with hsame | hemoji
      · have hsub : (':' :: code ++ [':']).Sublist (':' :: (code ++ ':' :: rest)) :=
          ((List.sublist_append_left [':'] rest).append_left code).cons_cons ':'
        rw [hsame] at h
        exact .inl (hsub.subset h)
      · exact .inr (hemoji c h)
    · exact (ih h).imp_left fun hmem ↦
        List.mem_cons_of_mem _ (List.mem_append_right _ (List.mem_cons_of_mem _ hmem))
  | case3 s hnone ih =>
    rcases List.mem_cons.mp h with rfl | h
    · exact .inl List.mem_cons_self
    · exact (ih h).imp_left (List.mem_cons_of_mem _)
  | case4 d s hd ih =>
    rcases List.mem_cons.mp h with rfl | h
    · exact .inl List.mem_cons_self
    · exact (ih h).imp_left (List.mem_cons_of_mem _)

/-! ## A text before another one -/

private theorem replaceEmoji_code (h : codeEnd? s = some (code, rest)) :
    replaceEmoji (':' :: s) = emojiOfCode code ++ replaceEmoji rest := by
  rw [replaceEmoji, if_pos rfl]
  split
  · next heq =>
    rw [h] at heq
    cases heq
    rfl
  · next heq =>
    rw [h] at heq
    cases heq

private theorem replaceEmoji_colon (h : codeEnd? s = none) :
    replaceEmoji (':' :: s) = ':' :: replaceEmoji s := by
  rw [replaceEmoji, if_pos rfl]
  split
  · next heq =>
    rw [h] at heq
    cases heq
  · rfl

theorem codeEnd?_cons_of_ne (hc : c ≠ ':') (s : List Char) :
    codeEnd? (c :: s)
      = if isBlank c then none else (codeEnd? s).map fun r ↦ (c :: r.1, r.2) := by
  rw [codeEnd?.eq_def]
  split
  · next heq => cases heq
  · next heq => exact absurd (List.cons.inj heq).1 hc
  · next heq =>
    obtain ⟨rfl, rfl⟩ := List.cons.inj heq
    rfl

theorem codeEnd?_concat (hc : c ≠ ':') (s : List Char) :
    codeEnd? (s ++ [c]) = (codeEnd? s).map fun r ↦ (r.1, r.2 ++ [c]) := by
  fun_induction codeEnd? s with
  | case1 =>
    rw [List.nil_append, codeEnd?_cons_of_ne hc]
    split <;> rfl
  | case2 s => rfl
  | case3 d s hd hblank =>
    rw [List.cons_append, codeEnd?_cons_of_ne hd, if_pos hblank, Option.map_none]
  | case4 d s hd hblank ih =>
    rw [List.cons_append, codeEnd?_cons_of_ne hd, if_neg hblank, ih, Option.map_map,
      Option.map_map]
    rfl

theorem replaceEmoji_concat (hc : c ≠ ':') (s : List Char) :
    replaceEmoji (s ++ [c]) = replaceEmoji s ++ [c] := by
  fun_induction replaceEmoji s with
  | case1 => simp [replaceEmoji, hc]
  | case2 s code rest h ih =>
    have hnext : codeEnd? (s ++ [c]) = some (code, rest ++ [c]) := by
      rw [codeEnd?_concat hc, h, Option.map_some]
    rw [List.cons_append, replaceEmoji_code hnext, ih, List.append_assoc]
  | case3 s h ih =>
    have hnext : codeEnd? (s ++ [c]) = none := by
      rw [codeEnd?_concat hc, h, Option.map_none]
    rw [List.cons_append, replaceEmoji_colon hnext, ih, List.cons_append]
  | case4 d s hd ih =>
    rw [List.cons_append, replaceEmoji, if_neg hd, ih, List.cons_append]

theorem replaceEmoji_cons_of_ne (hc : c ≠ ':') (s : List Char) :
    replaceEmoji (c :: s) = c :: replaceEmoji s := by
  rw [replaceEmoji, if_neg hc]

end GatewayPrint.Text
