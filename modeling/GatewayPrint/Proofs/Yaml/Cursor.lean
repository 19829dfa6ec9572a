import GatewayPrint.Yaml.Mark
import Mathlib.Data.List.TakeWhile
import Mathlib.Tactic.Common

/-!
# Moving along a stream

Where a cursor stands after some characters: what is left to read, and how index, line and column of
its position change over words, blanks and line breaks. The places that a scanner passes are always
of the form `c.advance n`, so positions need no description of their own.
-/

namespace GatewayPrint.Yaml

/-! ## Characters that end words -/

theorem isBreak_of_endsWord {x : Char} (h : endsWord x = false) : isBreak x = false := by
  rw [endsWord, endsField, endsLine] at h
  simp only [Bool.or_eq_false_iff] at h
  exact h.2.2.2

/-- What ends no word is none of the characters that end one. -/
theorem ne_of_endsWord {x y : Char} (hx : endsWord x = false) (hy : endsWord y = true) : x ≠ y := by
  rintro rfl
  rw [hx] at hy
  cases hy

/-! ## A step of one character -/

namespace Mark

variable (m : Mark) (c next : Char)

@[simp] theorem step_index : (m.step c next).index = m.index + 1 := by
  unfold step
  split
  · rfl
  · split <;> rfl

private theorem line_le_step : m.line ≤ (m.step c next).line := by
  unfold step
  split
  · exact Nat.le_succ _
  · split <;> exact Nat.le_refl _

variable {c}

private theorem step_line_of_not_isBreak (h : isBreak c = false) :
    (m.step c next).line = m.line := by
  unfold step
  rw [h, Bool.false_and, if_neg Bool.false_ne_true]
  split <;> rfl

private theorem column_le_step (h : isBreak c = false) : m.column ≤ (m.step c next).column := by
  unfold step
  rw [h, Bool.false_and, if_neg Bool.false_ne_true]
  split
  · exact Nat.le_refl _
  · exact Nat.le_succ _

private theorem step_space : m.step ' ' next = ⟨m.index + 1, m.line, m.column + 1⟩ := rfl

end Mark

namespace Cursor

variable (c : Cursor) {w rest : List Char} {p : Char → Bool} {x : Char}

@[simp] theorem advance_zero : c.advance 0 = c := rfl

variable {c} in
theorem advance_succ (h : c.rest = x :: rest) (n : Nat) :
    c.advance (n + 1) = Cursor.advance ⟨rest, c.mark.step x (rest.headD eos)⟩ n := by
  rw [advance, h]

theorem advance_of_nil {c : Cursor} (h : c.rest = []) (n : Nat) : c.advance n = c := by
  cases n with
  | zero => rfl
  | succ n => rw [advance, h]

/-- What is left after some characters. -/
theorem rest_advance (n : Nat) : (c.advance n).rest = c.rest.drop n := by
  induction n generalizing c with
  | zero => rfl
  | succ n ih =>
    cases h : c.rest with
    | nil => rw [advance_of_nil h, h, List.drop_nil]
    | cons d r => rw [advance_succ h, ih, List.drop_succ_cons]

theorem advance_advance (a b : Nat) : (c.advance a).advance b = c.advance (a + b) := by
  induction a generalizing c with
  | zero => rw [advance_zero, Nat.zero_add]
  | succ a ih =>
    cases h : c.rest with
    | nil => rw [advance_of_nil h, advance_of_nil h, advance_of_nil h]
    | cons d r => rw [advance_succ h, ih, Nat.succ_add, advance_succ h]

theorem next_eq : c.next = c.advance 1 := rfl

variable {c}

theorem rest_advance_of_append (h : c.rest = w ++ rest) : (c.advance w.length).rest = rest := by
  rw [rest_advance, h, List.drop_left]

theorem rest_advance_one (h : c.rest = x :: rest) : (c.advance 1).rest = rest := by
  rw [rest_advance, h]
  rfl

/-- What is left after `n` more characters, when `n` of them are known. -/
theorem rest_advance_eq {n : Nat} (h : c.rest = w ++ rest) (hn : w.length = n) :
    (c.advance n).rest = rest := hn ▸ rest_advance_of_append h

@[simp] theorem peek_of_cons (h : c.rest = x :: rest) : c.peek = x := by rw [peek, h]; rfl

theorem peekAt_one_of_cons (h : c.rest = x :: rest) : c.peekAt 1 = rest.headD eos := by
  rw [peekAt, h]
  cases rest <;> rfl

/-! ## Positions -/

theorem index_advance {n : Nat} (h : n ≤ c.rest.length) :
    (c.advance n).mark.index = c.mark.index + n := by
  induction n generalizing c with
  | zero => rfl
  | succ n ih =>
    cases hc : c.rest with
    | nil =>
      rw [hc] at h
      exact absurd h (Nat.not_succ_le_zero n)
    | cons d r =>
      rw [hc, List.length_cons] at h
      have hn : n ≤ (Cursor.mk r (c.mark.step d (r.headD eos))).rest.length := by
        exact Nat.le_of_succ_le_succ h
      rw [advance_succ hc, ih hn, Mark.step_index]
      omega

theorem line_le_advance (c : Cursor) (n : Nat) : c.mark.line ≤ (c.advance n).mark.line := by
  induction n generalizing c with
  | zero => exact Nat.le_refl _
  | succ n ih =>
    cases h : c.rest with
    | nil => rw [advance_of_nil h]
    | cons d r =>
      rw [advance_succ h]
      exact Nat.le_trans (Mark.line_le_step c.mark d (r.headD eos)) (ih ⟨r, _⟩)

/-- Columns do not decrease within a line. -/
theorem column_le_advance_of_append (h : c.rest = w ++ rest) (hw : ∀ x ∈ w, isBreak x = false) :
    c.mark.column ≤ (c.advance w.length).mark.column := by
  induction w generalizing c with
  | nil => exact Nat.le_refl _
  | cons d w ih =>
    have hd := hw d List.mem_cons_self
    have hrest := ih (c := ⟨w ++ rest, c.mark.step d ((w ++ rest).headD eos)⟩) rfl
      fun x hx ↦ hw x (List.mem_cons_of_mem d hx)
    rw [List.length_cons, advance_succ h]
    exact Nat.le_trans (Mark.column_le_step c.mark ((w ++ rest).headD eos) hd) hrest

theorem line_advance_of_append (h : c.rest = w ++ rest) (hw : ∀ x ∈ w, isBreak x = false) :
    (c.advance w.length).mark.line = c.mark.line := by
  induction w generalizing c with
  | nil => rfl
  | cons d w ih =>
    have hd := hw d List.mem_cons_self
    rw [List.length_cons, advance_succ h, ih rfl fun x hx ↦ hw x (List.mem_cons_of_mem d hx)]
    exact Mark.step_line_of_not_isBreak _ _ hd

private theorem mark_advance_lineFeed (h : c.rest = '\n' :: rest) :
    (c.advance 1).mark = ⟨c.mark.index + 1, c.mark.line + 1, 0⟩ := by
  rw [advance_succ h]
  rfl

theorem mark_advance_spaces {k : Nat} (h : c.rest = List.replicate k ' ' ++ rest) :
    (c.advance k).mark = ⟨c.mark.index + k, c.mark.line, c.mark.column + k⟩ := by
  induction k generalizing c with
  | zero => rfl
  | succ k ih =>
    rw [List.replicate_succ, List.cons_append] at h
    rw [advance_succ h, ih rfl]
    simp only [Mark.step_space, Mark.mk.injEq, true_and]
    omega

theorem mark_advance_newLine {k : Nat} (h : c.rest = '\n' :: (List.replicate k ' ' ++ rest)) :
    (c.advance (1 + k)).mark = ⟨c.mark.index + (1 + k), c.mark.line + 1, k⟩ := by
  have hr := rest_advance_one h
  rw [← advance_advance, mark_advance_spaces hr, mark_advance_lineFeed h]
  simp only [Mark.mk.injEq, Nat.zero_add, and_true]
  omega

theorem rest_advance_newLine {k : Nat} (h : c.rest = '\n' :: (List.replicate k ' ' ++ rest)) :
    (c.advance (1 + k)).rest = rest := by
  rw [rest_advance, h, Nat.add_comm, List.drop_succ_cons]
  exact (List.drop_append_of_le_length (by rw [List.length_replicate])).trans
    (by rw [List.drop_replicate, Nat.sub_self]; rfl)

/-! ## Runs of characters -/

/-- A run ends where a character does not belong to it. -/
theorem spanOf_append (h : c.rest = w ++ rest) (hw : ∀ x ∈ w, p x = true)
    (hr : ∀ x ∈ rest.head?, p x = false) : c.spanOf p = w := by
  rw [spanOf, h, List.takeWhile_append_of_pos hw]
  cases rest with
  | nil => rw [List.takeWhile_nil, List.append_nil]
  | cons d r => rw [List.takeWhile_cons_of_neg (by rw [hr d rfl]; exact Bool.false_ne_true),
      List.append_nil]

theorem skip_append (h : c.rest = w ++ rest) (hw : ∀ x ∈ w, p x = true)
    (hr : ∀ x ∈ rest.head?, p x = false) : c.skip p = c.advance w.length := by
  rw [skip, spanOf_append h hw hr]

theorem skipSpaces_of_replicate {k : Nat} (h : c.rest = List.replicate k ' ' ++ rest)
    (hr : ∀ x ∈ rest.head?, x ≠ ' ') : c.skipSpaces = c.advance k := by
  have hskip := skip_append (p := (· = ' ')) h
    (fun x hx ↦ decide_eq_true (List.eq_of_mem_replicate hx))
    fun x hx ↦ decide_eq_false (hr x hx)
  rw [List.length_replicate] at hskip
  exact hskip

theorem skipSpaces_of_head_ne (h : ∀ x ∈ c.rest.head?, x ≠ ' ') : c.skipSpaces = c :=
  skipSpaces_of_replicate (k := 0) rfl h

theorem skipComment_of_peek_ne (h : c.peek ≠ '#') : c.skipComment = c := if_neg h

theorem lineBreak_lineFeed (h : c.rest = '\n' :: rest) : c.lineBreak = (['\n'], c.advance 1) := by
  rw [lineBreak, peek_of_cons h]
  rfl

theorem atMarker_of_cons (h : c.rest = x :: rest) (hx : x ≠ '-' ∧ x ≠ '.') :
    c.atMarker = false := by
  have h3 : c.ahead 3 = x :: rest.take 2 := by rw [ahead, h]; rfl
  rw [atMarker, h3]
  simp [hx.1, hx.2]

end Cursor

end GatewayPrint.Yaml
