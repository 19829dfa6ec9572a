import GatewayPrint.Proofs.Yaml.Cursor
import GatewayPrint.Yaml.Lexeme

/-!
# Reading plain scalars

A plain scalar is written as words with spaces or folds between them (`PlainBody`). It is read as
its words up to the colon of a key (`readPlain_key`) or to a line that is indented less than it has
to be (`readPlain_line`).
-/

namespace GatewayPrint.Yaml

open Cursor

variable {c : Cursor} {s w rest body : List Char} {x : Char} {k n : Nat} {indent : Int}

/-! ## Words -/

/-- A word of a plain scalar: no blanks, and no colon at its end. -/
structure IsWord (w : List Char) : Prop where
  ne_nil : w ≠ []
  solid : ∀ x ∈ w, endsWord x = false
  colon : w.getLast? ≠ some ':'

/-- What ends a plain word: a blank, or a colon before one. -/
def EndsPlain (rest : List Char) : Prop :=
  ∃ x r, rest = x :: r ∧ (endsWord x = true ∨ x = ':' ∧ endsWord (r.headD eos) = true)

theorem plainWord_of_endsPlain (h : EndsPlain rest) : plainWord false rest = [] := by
  obtain ⟨x, r, rfl, hx | ⟨rfl, hr⟩⟩ := h
  · rw [plainWord, hx]
    rfl
  · rw [plainWord, endsKey, hr]
    rfl

theorem plainWord_append (hsolid : ∀ x ∈ w, endsWord x = false) (hcolon : w.getLast? ≠ some ':')
    (h : EndsPlain rest) : plainWord false (w ++ rest) = w := by
  induction w with
  | nil => exact plainWord_of_endsPlain h
  | cons x w ih =>
    have hx := hsolid x List.mem_cons_self
    have hrest : plainWord false (w ++ rest) = w := by
      cases w with
      | nil => exact plainWord_of_endsPlain h
      | cons y w =>
        refine ih (fun z hz ↦ hsolid z (List.mem_cons_of_mem x hz)) fun heq ↦ hcolon ?_
        rw [List.getLast?_cons_cons]
        exact heq
    -- A colon inside the word has a character of the word behind it, and the last one is no colon.
    have hkey : (x = ':' && endsKey false ((w ++ rest).headD eos)) = false := by
      cases w with
      | nil =>
        have hne : x ≠ ':' := fun heq ↦ hcolon (congrArg some heq)
        rw [decide_eq_false hne, Bool.false_and]
      | cons y w =>
        have hy := hsolid y (List.mem_cons_of_mem x List.mem_cons_self)
        have hkey : endsKey false ((y :: w ++ rest).headD eos) = false := by
          change (endsWord y || (false && _)) = false
          rw [hy]
          rfl
        rw [hkey, Bool.and_false]
    rw [List.cons_append, plainWord, hx, hkey, hrest]
    rfl

theorem IsWord.noBreak (h : IsWord w) : ∀ x ∈ w, isBreak x = false :=
  fun x hx ↦ isBreak_of_endsWord (h.solid x hx)

/-! ## Between words -/

/-- Spaces before the next word of the same line. -/
theorem plainSpaces_spaces (hc : c.rest = List.replicate n ' ' ++ x :: rest)
    (hx : endsWord x = false) :
    plainSpaces c = (List.replicate n ' ', false, c.advance n) := by
  have hspan : c.spanOf (· = ' ') = List.replicate n ' ' := by
    refine spanOf_append hc (fun y hy ↦ decide_eq_true (List.eq_of_mem_replicate hy)) fun y hy ↦ ?_
    cases hy
    exact decide_eq_false (ne_of_endsWord hx (by decide))
  have hafter : (c.advance n).rest = x :: rest := rest_advance_eq hc List.length_replicate
  rw [plainSpaces, hspan, List.length_replicate]
  dsimp only
  rw [peek_of_cons hafter, isBreak_of_endsWord hx, if_neg Bool.false_ne_true]

private theorem plainBreaks_spaces (hc : c.rest = List.replicate k ' ' ++ rest)
    (hr : ∀ x ∈ rest.head?, x ≠ ' ' ∧ isBreak x = false) {fuel : Nat} (hf : k < fuel) :
    plainBreaks fuel [] c = (some [], c.advance k) := by
  induction k generalizing c fuel with
  | zero =>
    obtain ⟨fuel, rfl⟩ := Nat.exists_eq_add_one_of_ne_zero (Nat.ne_of_gt hf)
    have hc : c.rest = rest := hc
    have hpeek : c.peek ≠ ' ' ∧ isBreak c.peek = false := by
      rw [peek, hc]
      cases rest with
      | nil => exact ⟨by decide, by decide⟩
      | cons x r => exact hr x rfl
    rw [plainBreaks, if_neg hpeek.1, hpeek.2, if_neg Bool.false_ne_true, advance_zero]
  | succ k ih =>
    obtain ⟨fuel, rfl⟩ := Nat.exists_eq_add_one_of_ne_zero (Nat.ne_zero_of_lt hf)
    rw [List.replicate_succ, List.cons_append] at hc
    rw [plainBreaks, peek_of_cons hc, if_pos rfl, next_eq,
      ih (rest_advance_one hc) (Nat.lt_of_succ_lt_succ hf), advance_advance, Nat.add_comm 1]

theorem plainSpaces_newLine (hc : c.rest = '\n' :: (List.replicate k ' ' ++ rest))
    (hr : ∀ x ∈ rest.head?, x ≠ ' ' ∧ isBreak x = false) (hm : (c.advance 1).atMarker = false) :
    plainSpaces c = ([' '], true, c.advance (1 + k)) := by
  have hspan : c.spanOf (· = ' ') = [] := by
    rw [spanOf, hc, List.takeWhile_cons_of_neg (by decide)]
  have hafter : (c.advance 1).rest = List.replicate k ' ' ++ rest := rest_advance_one hc
  have hfuel : k < (c.advance 1).rest.length + 1 := by
    rw [hafter, List.length_append, List.length_replicate]
    omega
  rw [plainSpaces, hspan, List.length_nil, advance_zero]
  dsimp only
  rw [peek_of_cons hc, if_pos (by decide), lineBreak_lineFeed hc]
  dsimp only
  rw [hm, if_neg Bool.false_ne_true, plainBreaks_spaces hafter hr hfuel]
  dsimp only
  rw [advance_advance]
  rfl

/-! ## Bodies -/

/-- What is written for a plain scalar with the text `s`, where folded lines are indented by `k`. -/
inductive PlainBody (k : Nat) : (s body : List Char) → Prop where
  | word {w : List Char} (hw : IsWord w) : PlainBody k w w
  | spaces {w s body : List Char} {n : Nat} (hw : IsWord w) (hb : body.head? ≠ some '#')
      (h : PlainBody k s body) :
      PlainBody k (w ++ (List.replicate (n + 1) ' ' ++ s))
        (w ++ (List.replicate (n + 1) ' ' ++ body))
  | fold {w s body : List Char} (hw : IsWord w) (hb : body.head? ≠ some '#')
      (h : PlainBody k s body) :
      PlainBody k (w ++ ' ' :: s) (w ++ '\n' :: (List.replicate k ' ' ++ body))

theorem PlainBody.head (h : PlainBody k s body) : ∃ x r, body = x :: r ∧ endsWord x = false := by
  have hword : ∀ {w r : List Char}, IsWord w → ∃ x r', w ++ r = x :: r' ∧ endsWord x = false := by
    intro w r hw
    obtain ⟨x, w, rfl⟩ := List.exists_cons_of_ne_nil hw.ne_nil
    exact ⟨x, w ++ r, rfl, hw.solid x List.mem_cons_self⟩
  cases h with
  | word hw =>
    have := hword (r := []) hw
    rwa [List.append_nil] at this
  | spaces hw hb h => exact hword hw
  | fold hw hb h => exact hword hw

theorem PlainBody.head?_eq (h : PlainBody k s body) : body.head? = s.head? := by
  have hword : ∀ {w r r' : List Char}, IsWord w → (w ++ r).head? = (w ++ r').head? := by
    intro w r r' hw
    obtain ⟨x, w, rfl⟩ := List.exists_cons_of_ne_nil hw.ne_nil
    rfl
  cases h with
  | word hw => rfl
  | spaces hw hb h => exact hword hw
  | fold hw hb h => exact hword hw

theorem endsPlain_of_blank {r : List Char} (hx : endsWord x = true) : EndsPlain (x :: r) :=
  ⟨x, r, rfl, .inl hx⟩

theorem IsWord.head_ne_append (hw : IsWord w) (h : (w ++ rest).head? ≠ some x) :
    w.head? ≠ some x := by
  obtain ⟨y, w, rfl⟩ := List.exists_cons_of_ne_nil hw.ne_nil
  exact h

/-- One word and the blanks after it; the scalar goes on unless one of three conditions holds. -/
theorem readPlainWords_word {c₁ : Cursor} {after : List Char} {fresh : Bool} (hw : IsWord w)
    (hc : c.rest = w ++ rest) (hr : EndsPlain rest) (hhead : w.head? ≠ some '#')
    (hsp : plainSpaces (c.advance w.length) = (after, fresh, c₁)) (fuel : Nat) (done : Plain)
    (spaces : List Char) :
    readPlainWords false indent (fuel + 1) done spaces c =
      if after = [] ∨ c₁.peek = '#' ∨ (c₁.mark.column : Int) < indent then
        (⟨done.text ++ spaces ++ w, (c.advance w.length).mark, fresh⟩, c₁)
      else readPlainWords false indent fuel
        ⟨done.text ++ spaces ++ w, (c.advance w.length).mark, fresh⟩ after c₁ := by
  have hword : plainWord false c.rest = w := by
    rw [hc]
    exact plainWord_append hw.solid hw.colon hr
  have hgo : ¬((c.peek = '#' || w.isEmpty) = true) := by
    obtain ⟨y, w, rfl⟩ := List.exists_cons_of_ne_nil hw.ne_nil
    rw [peek_of_cons hc]
    simpa using fun heq ↦ hhead (congrArg some heq)
  rw [readPlainWords, hword, if_neg hgo]
  dsimp only
  rw [hsp]
  simp [List.isEmpty_iff, or_assoc]

theorem readPlainWords_gap {gap after : List Char} {m : Nat} {fresh : Bool} (hw : IsWord w)
    (hc : c.rest = w ++ (gap ++ (body ++ rest))) (hgap : EndsPlain (gap ++ (body ++ rest)))
    (hhead : w.head? ≠ some '#') (hbody : PlainBody k s body) (hb : body.head? ≠ some '#')
    (hlen : gap.length = m)
    (hsp : plainSpaces (c.advance w.length) = (after, fresh, c.advance (w.length + m)))
    (hafter : after ≠ []) (hcol : indent ≤ (c.advance (w.length + m)).mark.column)
    (fuel : Nat) (done : Plain) (spaces : List Char) :
    readPlainWords false indent (fuel + 1) done spaces c = readPlainWords false indent fuel
      ⟨done.text ++ spaces ++ w, (c.advance w.length).mark, fresh⟩ after
      (c.advance (w.length + m)) := by
  subst hlen
  obtain ⟨x, r, rfl, -⟩ := hbody.head
  have hrest : (c.advance (w.length + gap.length)).rest = x :: (r ++ rest) := by
    rw [← advance_advance, rest_advance_of_append (rest_advance_of_append hc)]
    rfl
  have hpeek : (c.advance (w.length + gap.length)).peek ≠ '#' := by
    rw [peek_of_cons hrest]
    exact fun heq ↦ hb (congrArg some heq)
  rw [readPlainWords_word hw hc hgap hhead hsp, if_neg]
  rw [not_or, not_or]
  exact ⟨hafter, hpeek, by omega⟩

private theorem readPlainWords_spaces (hw : IsWord w)
    (hc : c.rest = w ++ (List.replicate (n + 1) ' ' ++ (body ++ rest))) (hhead : w.head? ≠ some '#')
    (hbody : PlainBody k s body) (hb : body.head? ≠ some '#') (hcol : indent ≤ c.mark.column + 1)
    (fuel : Nat) (done : Plain) (spaces : List Char) :
    indent ≤ (c.advance (w.length + (n + 1))).mark.column ∧
      readPlainWords false indent (fuel + 1) done spaces c = readPlainWords false indent fuel
        ⟨done.text ++ spaces ++ w, (c.advance w.length).mark, false⟩ (List.replicate (n + 1) ' ')
        (c.advance (w.length + (n + 1))) := by
  obtain ⟨x, r, hxr, hx⟩ := hbody.head
  have hcw : (c.advance w.length).rest = List.replicate (n + 1) ' ' ++ (body ++ rest) :=
    rest_advance_of_append hc
  have hnext : plainSpaces (c.advance w.length)
      = (List.replicate (n + 1) ' ', false, c.advance (w.length + (n + 1))) := by
    rw [hxr] at hcw
    rw [← advance_advance]
    exact plainSpaces_spaces hcw hx
  have hle : indent ≤ (c.advance (w.length + (n + 1))).mark.column := by
    have hcolumn := column_le_advance_of_append hc hw.noBreak
    rw [← advance_advance, mark_advance_spaces hcw]
    dsimp only
    omega
  exact ⟨hle, readPlainWords_gap hw hc (endsPlain_of_blank (by decide)) hhead hbody hb
    List.length_replicate hnext (List.cons_ne_nil _ _) hle fuel done spaces⟩

private theorem readPlainWords_fold (hw : IsWord w)
    (hc : c.rest = w ++ ('\n' :: List.replicate (k + 1) ' ' ++ (body ++ rest)))
    (hhead : w.head? ≠ some '#') (hbody : PlainBody (k + 1) s body) (hb : body.head? ≠ some '#')
    (hk : indent ≤ (k + 1 : Nat)) (fuel : Nat) (done : Plain) (spaces : List Char) :
    indent ≤ (c.advance (w.length + (1 + (k + 1)))).mark.column ∧
      readPlainWords false indent (fuel + 1) done spaces c = readPlainWords false indent fuel
        ⟨done.text ++ spaces ++ w, (c.advance w.length).mark, true⟩ [' ']
        (c.advance (w.length + (1 + (k + 1)))) := by
  obtain ⟨x, r, hxr, hx⟩ := hbody.head
  have hcw : (c.advance w.length).rest = '\n' :: (List.replicate (k + 1) ' ' ++ (body ++ rest)) :=
    rest_advance_of_append hc
  have hle : indent ≤ (c.advance (w.length + (1 + (k + 1)))).mark.column := by
    rw [← advance_advance, mark_advance_newLine hcw]
    exact hk
  have hnext : plainSpaces (c.advance w.length)
      = ([' '], true, c.advance (w.length + (1 + (k + 1)))) := by
    rw [← advance_advance]
    refine plainSpaces_newLine hcw (fun y hy ↦ ?_) ?_
    · rw [hxr] at hy
      cases hy
      exact ⟨ne_of_endsWord hx (by decide), isBreak_of_endsWord hx⟩
    · exact atMarker_of_cons (x := ' ') (rest_advance_one hcw) (by decide)
  have hlen : ('\n' :: List.replicate (k + 1) ' ').length = 1 + (k + 1) := by
    rw [List.length_cons, List.length_replicate, Nat.add_comm]
  exact ⟨hle, readPlainWords_gap hw hc (endsPlain_of_blank (by decide)) hhead hbody hb hlen hnext
    (List.cons_ne_nil _ _) hle fuel done spaces⟩

/-- Reading the words of a body up to where the scalar stops. -/
theorem readPlainWords_eq {c₂ : Cursor} {after : List Char} {fresh : Bool}
    (h : PlainBody (k + 1) s body)
    (hc : c.rest = body ++ rest) (hends : EndsPlain rest) (hhead : body.head? ≠ some '#')
    (hcol : indent ≤ c.mark.column + 1) (hk : indent ≤ (k + 1 : Nat))
    (hafter : plainSpaces (c.advance body.length) = (after, fresh, c₂))
    (hstop : after = [] ∨ c₂.peek = '#' ∨ (c₂.mark.column : Int) < indent)
    {fuel : Nat} (hf : body.length < fuel) (done : Plain) (spaces : List Char) :
    readPlainWords false indent fuel done spaces c
      = (⟨done.text ++ spaces ++ s, (c.advance body.length).mark, fresh⟩, c₂) := by
  -- Every word starts at a column that belongs to the scalar: `hcol` goes from word to word.
  induction h generalizing c fuel done spaces with
  | @word w hw =>
    obtain ⟨fuel, rfl⟩ := Nat.exists_eq_add_one_of_ne_zero (Nat.ne_zero_of_lt hf)
    rw [readPlainWords_word hw hc hends hhead hafter, if_pos hstop]
  | @spaces w s body n hw hb h ih =>
    obtain ⟨fuel, rfl⟩ := Nat.exists_eq_add_one_of_ne_zero (Nat.ne_zero_of_lt hf)
    rw [List.append_assoc, List.append_assoc] at hc
    obtain ⟨hle, hgo⟩ := readPlainWords_spaces hw hc (hw.head_ne_append hhead) h hb hcol fuel done
      spaces
    have hrest : (c.advance (w.length + (n + 1))).rest = body ++ rest := by
      rw [← advance_advance]
      exact rest_advance_eq (rest_advance_of_append hc) List.length_replicate
    have hlen : (w ++ (List.replicate (n + 1) ' ' ++ body)).length
        = w.length + (n + 1) + body.length := by
      rw [List.length_append, List.length_append, List.length_replicate]
      omega
    rw [hlen] at hf hafter ⊢
    rw [← advance_advance] at hafter ⊢
    rw [hgo, ih hrest hb (by omega) hafter (by omega)]
    simp only [List.append_assoc]
  | @fold w s body hw hb h ih =>
    obtain ⟨fuel, rfl⟩ := Nat.exists_eq_add_one_of_ne_zero (Nat.ne_zero_of_lt hf)
    have hc : c.rest = w ++ ('\n' :: List.replicate (k + 1) ' ' ++ (body ++ rest)) := by
      rw [hc]
      simp only [List.append_assoc, List.cons_append]
    obtain ⟨hle, hgo⟩ := readPlainWords_fold hw hc (hw.head_ne_append hhead) h hb hk fuel done
      spaces
    have hrest : (c.advance (w.length + (1 + (k + 1)))).rest = body ++ rest := by
      rw [← advance_advance]
      exact rest_advance_newLine (rest_advance_of_append hc)
    have hlen : (w ++ '\n' :: (List.replicate (k + 1) ' ' ++ body)).length
        = w.length + (1 + (k + 1)) + body.length := by
      rw [List.length_append, List.length_cons, List.length_append, List.length_replicate]
      omega
    rw [hlen] at hf hafter ⊢
    rw [← advance_advance] at hafter ⊢
    rw [hgo, ih hrest hb (by omega) hafter (by omega)]
    simp only [List.append_assoc, List.singleton_append]

/-- **A plain scalar that is a key** stops at its colon. -/
theorem readPlain_key (h : PlainBody (k + 1) s body) (hc : c.rest = body ++ ':' :: rest)
    (hr : endsWord (rest.headD eos) = true) (hhead : body.head? ≠ some '#')
    (hcol : indent ≤ c.mark.column + 1) (hk : indent ≤ (k + 1 : Nat)) :
    readPlain false indent c
      = (⟨s, (c.advance body.length).mark, false⟩, c.advance body.length) := by
  have hcb : (c.advance body.length).rest = List.replicate 0 ' ' ++ ':' :: rest :=
    rest_advance_of_append hc
  have hafter : plainSpaces (c.advance body.length) = ([], false, c.advance body.length) :=
    plainSpaces_spaces hcb (by decide)
  have hlen : body.length < c.rest.length + 1 := by
    rw [hc, List.length_append]
    omega
  exact readPlainWords_eq h hc ⟨':', rest, rfl, .inr ⟨rfl, hr⟩⟩ hhead hcol hk hafter (.inl rfl)
    hlen ⟨[], c.mark, false⟩ []

/-- **A plain scalar at the end of its line** stops at the next line that is not indented enough. -/
theorem readPlain_line {j : Nat} (h : PlainBody (k + 1) s body)
    (hc : c.rest = body ++ '\n' :: (List.replicate j ' ' ++ rest))
    (hr : ∀ x ∈ rest.head?, x ≠ ' ' ∧ isBreak x = false)
    (hm : (c.advance (body.length + 1)).atMarker = false) (hj : (j : Int) < indent)
    (hhead : body.head? ≠ some '#') (hcol : indent ≤ c.mark.column + 1)
    (hk : indent ≤ (k + 1 : Nat)) :
    readPlain false indent c
      = (⟨s, (c.advance body.length).mark, true⟩, c.advance (body.length + (1 + j))) := by
  have hcb : (c.advance body.length).rest = '\n' :: (List.replicate j ' ' ++ rest) :=
    rest_advance_of_append hc
  have hafter : plainSpaces (c.advance body.length)
      = ([' '], true, c.advance (body.length + (1 + j))) := by
    rw [plainSpaces_newLine hcb hr (by rw [advance_advance]; exact hm), advance_advance]
  have hmark := mark_advance_newLine hcb
  rw [advance_advance] at hmark
  have hlen : body.length < c.rest.length + 1 := by
    rw [hc, List.length_append]
    omega
  exact readPlainWords_eq h hc (endsPlain_of_blank (by decide)) hhead hcol hk hafter
    (.inr (.inr (by rw [hmark]; exact hj))) hlen ⟨[], c.mark, false⟩ []

end GatewayPrint.Yaml
