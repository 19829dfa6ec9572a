import GatewayPrint.Proofs.Halves
import GatewayPrint.Proofs.Outcome
import GatewayPrint.Proofs.Yaml.Cursor
import GatewayPrint.Yaml.Lexeme
import GatewayPrint.Yaml.Pen

/-!
# Reading quoted scalars

What stands between the quotes of a scalar, as a relation between the body and the text that is read
from it: one for single quotes (`SingleBody`) and one for double quotes (`DoubleBody`). The
relations say nothing about where lines are folded, only what a fold looks like, so they hold of
whatever a pen writes. Any body is read as its text (`readQuoted_single`, `readQuoted_double`).

The reader takes words and blanks in turn. `Reads` is what it does from inside a word, which lets a
body be taken apart one piece at a time.
-/

namespace GatewayPrint.Yaml

open Cursor Outcome

variable {c c' c₂ : Cursor} {double : Bool} {m : Mark} {s cs w rest tail body : List Char}
  {x : Char} {k n : Nat}

/-! ## From inside a word -/

/-- From `c`, the rest of a word and all that follows it up to the closing quote are read as the
text `s`. -/
def Reads (double : Bool) (m : Mark) (s : List Char) (c c' : Cursor) : Prop :=
  ∃ w s' c₁, s = w ++ s' ∧ c₁.rest.length ≤ c.rest.length ∧
    (∀ fuel done, c.rest.length < fuel →
      readQuotedWord double m fuel done c = .ok (done ++ w, c₁)) ∧
    ∀ fuel done, c₁.rest.length < fuel →
      readQuotedRest double m fuel done c₁ = .ok (done ++ s', c')

/-- The character that opens and closes a quoted scalar. -/
def closing (double : Bool) : Char := if double then '"' else '\x27'

theorem readQuotedWord_of_stop (h : c.rest = x :: rest) (hx : isQuotedChar x = false)
    (hd : double = true → x ≠ '\\' ∧ x ≠ '\x27')
    (hs : double = false → x ≠ '"' ∧ x ≠ '\\' ∧ (x = '\x27' → rest.headD eos ≠ '\x27'))
    (fuel : Nat) (done : List Char) :
    readQuotedWord double m (fuel + 1) done c = .ok (done, c) := by
  have hspan : c.spanOf isQuotedChar = [] := by
    rw [spanOf, h, List.takeWhile_cons_of_neg (by rw [hx]; exact Bool.false_ne_true)]
  rw [readQuotedWord, hspan, List.length_nil, advance_zero, List.append_nil, peek_of_cons h,
    peekAt_one_of_cons h]
  cases double with
  | true =>
    obtain ⟨h1, h2⟩ := hd rfl
    simp [h1, h2]
  | false =>
    obtain ⟨h1, h2, h3⟩ := hs rfl
    by_cases hq : x = '\x27'
    · have hnext : decide (rest.headD eos = '\x27') = false := decide_eq_false (h3 hq)
      rw [hq, hnext]
      rfl
    · simp [h1, h2, hq]

theorem Reads.close (h : c.rest = closing double :: rest)
    (hr : double = false → rest.headD eos ≠ '\x27') :
    Reads double m [] c (c.advance 1) := by
  have hx : isQuotedChar (closing double) = false := by cases double <;> decide
  refine ⟨[], [], c, rfl, Nat.le_refl _, fun fuel done hf ↦ ?_, fun fuel done hf ↦ ?_⟩
  · obtain ⟨fuel, rfl⟩ := Nat.exists_eq_add_one_of_ne_zero (Nat.ne_zero_of_lt hf)
    rw [List.append_nil]
    refine readQuotedWord_of_stop h hx (fun hd ↦ ?_) (fun hd ↦ ?_) fuel done
    · rw [hd]
      decide
    · rw [hd]
      exact ⟨by decide, by decide, fun _ ↦ hr hd⟩
  · obtain ⟨fuel, rfl⟩ := Nat.exists_eq_add_one_of_ne_zero (Nat.ne_zero_of_lt hf)
    rw [readQuotedRest, peek_of_cons h, if_pos (by cases double <;> rfl), List.append_nil, next_eq]

theorem Reads.char (h : Reads double m s (c.advance 1) c') (hc : c.rest = x :: rest)
    (hx : isQuotedChar x = true) : Reads double m (x :: s) c c' := by
  obtain ⟨w, s', c₁, hs, hlen, hword, hrest⟩ := h
  have hlt : (c.advance 1).rest.length < c.rest.length := by
    rw [rest_advance_one hc, hc]
    exact Nat.lt_succ_self _
  refine ⟨x :: w, s', c₁, by rw [hs]; rfl, by omega, fun fuel done hf ↦ ?_, hrest⟩
  have hspan : c.spanOf isQuotedChar = x :: (c.advance 1).spanOf isQuotedChar := by
    rw [spanOf, spanOf, hc, rest_advance_one hc, List.takeWhile_cons_of_pos hx]
  have hstep : readQuotedWord double m fuel done c
      = readQuotedWord double m fuel (done ++ [x]) (c.advance 1) := by
    obtain ⟨fuel, rfl⟩ := Nat.exists_eq_add_one_of_ne_zero (Nat.ne_zero_of_lt hf)
    have hmove : c.advance (((c.advance 1).spanOf isQuotedChar).length + 1)
        = (c.advance 1).advance ((c.advance 1).spanOf isQuotedChar).length := by
      rw [advance_advance, Nat.add_comm 1]
    have hdone : done ++ x :: (c.advance 1).spanOf isQuotedChar
        = done ++ [x] ++ (c.advance 1).spanOf isQuotedChar := List.append_cons ..
    rw [readQuotedWord, readQuotedWord, hspan, List.length_cons, hmove, hdone]
  rw [hstep, hword fuel (done ++ [x]) (by omega), List.append_assoc, List.singleton_append]

theorem Reads.part {t : List Char} (h : Reads double m s c₂ c')
    (hlt : c₂.rest.length < c.rest.length)
    (hstep : ∀ fuel done, readQuotedWord double m (fuel + 1) done c
      = readQuotedWord double m fuel (done ++ t) c₂) :
    Reads double m (t ++ s) c c' := by
  obtain ⟨w, s', c₁, hs, hlen, hword, hrest⟩ := h
  refine ⟨t ++ w, s', c₁, by rw [hs, List.append_assoc], by omega, fun fuel done hf ↦ ?_, hrest⟩
  obtain ⟨fuel, rfl⟩ := Nat.exists_eq_add_one_of_ne_zero (Nat.ne_zero_of_lt hf)
  rw [hstep, hword fuel (done ++ t) (by omega), List.append_assoc]

theorem Reads.blanks (h : Reads double m s c₂ c') (hlt : c₂.rest.length < c.rest.length)
    (hc : c.rest = x :: rest) (hx : endsWord x = true)
    (hspaces : readQuotedSpaces m c = .ok (cs, c₂)) : Reads double m (cs ++ s) c c' := by
  obtain ⟨w, s', c₁, hs, hlen, hword, hrest⟩ := h
  have hne : ∀ y, endsWord y = false → x ≠ y := fun y hy ↦ (ne_of_endsWord hy hx).symm
  have hquoted : isQuotedChar x = false := by simp [isQuotedChar, hx]
  refine ⟨[], cs ++ s, c, rfl, Nat.le_refl _, fun fuel done hf ↦ ?_, fun fuel done hf ↦ ?_⟩
  · obtain ⟨fuel, rfl⟩ := Nat.exists_eq_add_one_of_ne_zero (Nat.ne_zero_of_lt hf)
    rw [List.append_nil]
    refine readQuotedWord_of_stop hc hquoted (fun _ ↦ ⟨hne _ (by decide), hne _ (by decide)⟩)
      (fun _ ↦ ⟨hne _ (by decide), hne _ (by decide), fun hq ↦ ?_⟩) fuel done
    exact absurd hq (hne _ (by decide))
  · obtain ⟨fuel, rfl⟩ := Nat.exists_eq_add_one_of_ne_zero (Nat.ne_zero_of_lt hf)
    have hpeek : c.peek ≠ (if double then '"' else '\x27') := by
      rw [peek_of_cons hc]
      exact hne _ (by cases double <;> decide)
    rw [readQuotedRest, if_neg hpeek, hspaces, ok_bind]
    change (readQuotedWord double m (c₂.rest.length + 1) [] c₂ >>= _) = _
    rw [hword _ _ (Nat.lt_succ_self _), ok_bind]
    change readQuotedRest double m fuel (done ++ cs ++ w) c₁ = _
    rw [hrest fuel _ (by omega), hs]
    simp only [List.append_assoc]

/-- A quoted scalar is read from inside its first word. -/
theorem readQuoted_of_reads (h : Reads double c.mark s (c.advance 1) c') :
    readQuoted double c = .ok (s, c') := by
  obtain ⟨w, s', c₁, hs, -, hword, hrest⟩ := h
  rw [readQuoted, next_eq]
  rw [hword _ _ (Nat.lt_succ_self _), ok_bind]
  change readQuotedRest double c.mark (c₁.rest.length + 1) ([] ++ w) c₁ = _
  rw [hrest _ _ (Nat.lt_succ_self _), hs]
  rfl

/-- With the closing quote after it, `body` is read as the text `s`, wherever it stands. Two single
quotes in a row would be one quote of the text, so what follows must not begin with another. -/
def ReadAs (double : Bool) (s body : List Char) : Prop :=
  ∀ (m : Mark) (c : Cursor) (tail : List Char), c.rest = body ++ closing double :: tail →
    (double = false → tail.headD eos ≠ '\x27') → Reads double m s c (c.advance (body.length + 1))

theorem readAs_nil : ReadAs double [] [] := fun _ _ _ hc htail ↦ Reads.close hc htail

theorem ReadAs.piece {p t : List Char} (h : ReadAs double s body)
    (hpiece : ∀ {m c c' tail}, c.rest = p ++ (body ++ closing double :: tail) →
      Reads double m s (c.advance p.length) c' → Reads double m t c c') :
    ReadAs double t (p ++ body) := by
  intro m c tail hc htail
  rw [List.append_assoc] at hc
  have hread := h m (c.advance p.length) tail (rest_advance_of_append hc) htail
  rw [advance_advance, ← Nat.add_assoc, ← List.length_append] at hread
  exact hpiece hc hread

theorem ReadAs.readQuoted (h : ReadAs double s body)
    (hc : c.rest = closing double :: (body ++ closing double :: tail))
    (htail : double = false → tail.headD eos ≠ '\x27') :
    readQuoted double c = .ok (s, c.advance (body.length + 2)) := by
  have hread := h c.mark (c.advance 1) tail (rest_advance_one hc) htail
  rw [advance_advance, Nat.add_comm 1] at hread
  exact readQuoted_of_reads hread

/-! ## Blanks -/

/-- A line break as it reads in a scalar. -/
def heardBreak (c : Char) : Char := if c = '\u0085' then '\n' else c

/-- The rest of a scalar does not go on with a blank. -/
def Solid (rest : List Char) : Prop := ∀ x ∈ rest.head?, endsWord x = false

theorem Solid.head_ne (h : Solid rest) {y : Char} (hy : endsWord y = true) :
    ∀ x ∈ rest.head?, x ≠ y := fun x hx ↦ ne_of_endsWord (h x hx) hy

theorem isBreak_of_style {b : Char} (h : Style.isBreak b = true) : isBreak b = true := by
  simp only [Style.isBreak, Bool.or_eq_true, decide_eq_true_eq] at h
  rcases h with ((rfl | rfl) | rfl) | rfl <;> rfl

theorem ne_of_style {b y : Char} (hb : Style.isBreak b = true) (hy : isBreak y = false) :
    b ≠ y := by
  rintro rfl
  rw [isBreak_of_style hb] at hy
  cases hy

theorem lineBreak_of_style {b : Char} (hb : Style.isBreak b = true) (h : c.rest = b :: rest) :
    c.lineBreak = ([heardBreak b], c.advance 1) := by
  rw [lineBreak, peek_of_cons h]
  simp only [Style.isBreak, Bool.or_eq_true, decide_eq_true_eq] at hb
  rcases hb with ((rfl | rfl) | rfl) | rfl <;> rfl

theorem skip_blanks (h : c.rest = List.replicate k ' ' ++ rest)
    (hr : ∀ x ∈ rest.head?, x ≠ ' ' ∧ x ≠ '\t') :
    (c.skip fun d ↦ d = ' ' || d = '\t') = c.advance k := by
  have hskip := skip_append (p := fun d ↦ d = ' ' || d = '\t') h
    (fun x hx ↦ by rw [List.eq_of_mem_replicate hx]; rfl)
    (fun x hx ↦ by simp [hr x hx])
  rwa [List.length_replicate] at hskip

/-- Breaks and the indentation after them, between quotes. -/
theorem quotedBreaks_eq {l : List Char} (h : c.rest = l ++ (List.replicate (k + 1) ' ' ++ rest))
    (hbs : ∀ b ∈ l, Style.isBreak b = true) (hr : Solid rest) {fuel : Nat}
    (hf : l.length < fuel) (done : List Char) :
    quotedBreaks m fuel done c
      = .ok (done ++ l.map heardBreak, c.advance (l.length + (k + 1))) := by
  induction l generalizing c fuel done with
  | nil =>
    obtain ⟨fuel, rfl⟩ := Nat.exists_eq_add_one_of_ne_zero (Nat.ne_zero_of_lt hf)
    have hmark : c.atMarker = false := atMarker_of_cons (x := ' ') h (by decide)
    have hskip := skip_blanks (c := c) h fun x hx ↦
      ⟨hr.head_ne (by decide) x hx, hr.head_ne (by decide) x hx⟩
    have hafter : (c.advance (k + 1)).rest = rest :=
      rest_advance_eq h (List.length_replicate)
    have hpeek : isBreak (c.advance (k + 1)).peek = false := by
      cases rest with
      | nil => rw [peek, hafter]; rfl
      | cons x r =>
        have hx := hr x rfl
        rw [peek_of_cons hafter]
        exact isBreak_of_endsWord hx
    rw [quotedBreaks, hmark, if_neg Bool.false_ne_true, hskip]
    dsimp only
    rw [hpeek, if_neg Bool.false_ne_true, List.map_nil, List.append_nil, List.length_nil,
      Nat.zero_add]
  | cons b l ih =>
    obtain ⟨fuel, rfl⟩ := Nat.exists_eq_add_one_of_ne_zero (Nat.ne_zero_of_lt hf)
    have hb := hbs b List.mem_cons_self
    have hmark : c.atMarker = false :=
      atMarker_of_cons (x := b) h ⟨ne_of_style hb (by decide), ne_of_style hb (by decide)⟩
    have hskip := skip_blanks (k := 0) (c := c) h fun x hx ↦ by
      cases hx
      exact ⟨ne_of_style hb (by decide), ne_of_style hb (by decide)⟩
    have hpeek : isBreak c.peek = true := by rw [peek_of_cons h]; exact isBreak_of_style hb
    have hrest := ih (c := c.advance 1) (rest_advance_one h)
      (fun b' hb' ↦ hbs b' (List.mem_cons_of_mem b hb')) (Nat.lt_of_succ_lt_succ hf)
      (done ++ [heardBreak b])
    rw [quotedBreaks, hmark, if_neg Bool.false_ne_true, hskip, advance_zero]
    dsimp only
    rw [hpeek, if_pos rfl, lineBreak_of_style hb h]
    change quotedBreaks m fuel (done ++ [heardBreak b]) (c.advance 1) = _
    rw [hrest, advance_advance, List.map_cons, List.append_assoc, List.singleton_append,
      List.length_cons]
    congr 3
    omega

/-- Line breaks and the indentation after them as they read in a scalar. -/
theorem Reads.breaks {b : Char} {l : List Char} (hb : Style.isBreak b = true)
    (hbs : ∀ b ∈ l, Style.isBreak b = true)
    (hc : c.rest = b :: l ++ (List.replicate (k + 1) ' ' ++ rest)) (hr : Solid rest)
    (h : Reads double m s (c.advance (l.length + 1 + (k + 1))) c') :
    Reads double m (foldBreaks [heardBreak b] (l.map heardBreak) ++ s) c c' := by
  have hword : endsWord b = true := by
    simp only [endsWord, endsField, endsLine, isBreak_of_style hb, Bool.or_true]
  refine h.blanks ?_ hc hword ?_
  · rw [rest_advance, hc, List.length_drop]
    simp only [List.length_append, List.length_cons, List.length_replicate]
    omega
  · have hspan : (c.spanOf fun d ↦ d = ' ' || d = '\t') = [] := by
      rw [spanOf, hc, List.cons_append, List.takeWhile_cons_of_neg]
      simp [ne_of_style hb (y := ' ') (by decide), ne_of_style hb (y := '\t') (by decide)]
    have hpeek : c.peek = b := peek_of_cons hc
    have hafter : (c.advance 1).rest = l ++ (List.replicate (k + 1) ' ' ++ rest) :=
      rest_advance_one hc
    have hlen : l.length < (c.advance 1).rest.length + 1 := by
      rw [hafter, List.length_append]
      omega
    have hsum : 1 + (l.length + (k + 1)) = l.length + 1 + (k + 1) := by omega
    rw [readQuotedSpaces, hspan, List.length_nil, advance_zero, hpeek,
      if_neg (ne_of_style hb (by decide)), isBreak_of_style hb, if_pos rfl,
      lineBreak_of_style hb hc]
    change (quotedBreaks m ((c.advance 1).rest.length + 1) [] (c.advance 1) >>= _) = _
    rw [quotedBreaks_eq hafter hbs hr hlen, ok_bind, advance_advance, List.nil_append, hsum]

theorem Reads.spaces (hc : c.rest = List.replicate (n + 1) ' ' ++ rest) (hr : Solid rest)
    (hne : rest ≠ []) (h : Reads double m s (c.advance (n + 1)) c') :
    Reads double m (List.replicate (n + 1) ' ' ++ s) c c' := by
  obtain ⟨x, r, rfl⟩ := List.exists_cons_of_ne_nil hne
  have hx := hr x rfl
  have hspan : (c.spanOf fun d ↦ d = ' ' || d = '\t') = List.replicate (n + 1) ' ' := by
    refine spanOf_append hc (fun y hy ↦ ?_) fun y hy ↦ ?_
    · rw [List.eq_of_mem_replicate hy]
      rfl
    · simp [hr.head_ne (y := ' ') (by decide) y hy, hr.head_ne (y := '\t') (by decide) y hy]
  have hafter : (c.advance (n + 1)).rest = x :: r := rest_advance_eq hc List.length_replicate
  refine h.blanks (x := ' ') ?_ hc (by decide) ?_
  · rw [hafter, hc, List.length_append, List.length_replicate]
    omega
  · rw [readQuotedSpaces, hspan, List.length_replicate, peek_of_cons hafter,
      if_neg (ne_of_endsWord hx (by decide)), isBreak_of_endsWord hx, if_neg Bool.false_ne_true]

/-! ## Escapes -/

private theorem hexValue?_upper :
    ∀ n < 16, Text.hexValue? (Text.hexDigit n).toUpper = some n := by decide

private theorem isHexDigit_upper :
    ∀ n < 16, isHexDigit (Text.hexDigit n).toUpper = true := by decide

def upperHex (width n : Nat) : List Char := (Text.hex width n).map Char.toUpper

theorem length_upperHex (width n : Nat) : (upperHex width n).length = width := by
  rw [upperHex, List.length_map, Text.length_hex]

private theorem hexValues?_upperHex (width n : Nat) :
    Text.hexValues? (upperHex width n) = some (n % Nat.pow 16 width) := by
  induction width generalizing n with
  | zero => simp [upperHex, Text.hex, Text.hexValues?, Nat.mod_one]
  | succ w ih =>
    have hd := hexValue?_upper (n % 16) (Nat.mod_lt n (by decide))
    have hw : Text.hexValues? (upperHex (w + 1) n) =
        (Text.hexValues? (upperHex w (n / 16))).bind fun a ↦
          (Text.hexValue? (Text.hexDigit (n % 16)).toUpper).bind fun b ↦ some (a * 16 + b) := by
      simp [upperHex, Text.hex, Text.hexValues?, List.foldl_append]
    have hp : Nat.pow 16 (w + 1) = 16 * Nat.pow 16 w := Nat.mul_comm ..
    rw [hw, ih, hd, hp, Nat.mod_mul]
    simp only [Option.bind_some, Option.some.injEq]
    omega

theorem isHexDigit_of_mem_upperHex {width n : Nat} (h : x ∈ upperHex width n) :
    isHexDigit x = true := by
  induction width generalizing n with
  | zero => cases h
  | succ w ih =>
    rw [upperHex, Text.hex, List.map_append, List.map_cons, List.map_nil] at h
    rcases List.mem_append.mp h with h | h
    · exact ih h
    · rw [List.mem_singleton.mp h]
      exact isHexDigit_upper _ (Nat.mod_lt n (by decide))

theorem eq_or_of_ite {α : Type} {p : Prop} [Decidable p] {a e : α} {o : Option α}
    (h : (if p then some a else o) = some e) : p ∧ a = e ∨ o = some e := by
  by_cases hp : p
  · rw [if_pos hp] at h
    exact .inl ⟨hp, Option.some.inj h⟩
  · rw [if_neg hp] at h
    exact .inr h

private theorem escapeOf?_of_letterEscape? {e : Char} (h : Pen.letterEscape? x = some e) :
    escapeOf? e = some x := by
  rw [Pen.letterEscape?] at h
  iterate 15
    rcases eq_or_of_ite h with ⟨rfl, rfl⟩ | h
    · rfl
  cases h

private theorem readEscape_letter {e : Char} (h : Pen.letterEscape? x = some e)
    (hc : c.rest = e :: rest) : readEscape m c = .ok ([x], c.advance 1) := by
  rw [readEscape, peek_of_cons hc, escapeOf?_of_letterEscape? h]
  rfl

theorem readEscape_code {letter : Char} {count : Nat} (hl : escapeOf? letter = none)
    (hd : escapeDigits? letter = some count) (hn : n < Nat.pow 16 count) (hlt : n < 0x110000)
    (hc : c.rest = letter :: (upperHex count n ++ rest)) :
    readEscape m c = .ok ([Text.ofCodePoint n], c.advance (1 + count)) := by
  have hafter : (c.advance 1).rest = upperHex count n ++ rest := rest_advance_one hc
  have hahead : (c.advance 1).ahead count = upperHex count n := by
    rw [ahead, hafter]
    exact List.take_left' (length_upperHex count n)
  have hgood : (upperHex count n).takeWhile isHexDigit = upperHex count n :=
    List.takeWhile_eq_self_iff.mpr fun x hx ↦ isHexDigit_of_mem_upperHex hx
  have hvalue : (Text.hexValues? (upperHex count n)).getD 0 = n := by
    rw [hexValues?_upperHex, Nat.mod_eq_of_lt hn, Option.getD_some]
  rw [readEscape, peek_of_cons hc, hl, hd]
  change (if (((c.advance 1).ahead count).takeWhile isHexDigit).length < count then _ else
    charOfCode ((Text.hexValues? ((c.advance 1).ahead count)).getD 0) >>= fun d ↦
      .ok ([d], (c.advance 1).advance count)) = _
  rw [hahead, hgood, length_upperHex, if_neg (Nat.lt_irrefl _), hvalue, charOfCode, if_pos hlt,
    ok_bind, advance_advance]

private theorem readEscape_escapeOf (hc : c.rest = (Pen.escapeOf x).tail ++ rest) :
    readEscape m c = .ok ([x], c.advance ((Pen.escapeOf x).length - 1)) := by
  have hlt := Text.codePoint_lt x
  rw [Pen.escapeOf] at hc ⊢
  cases he : Pen.letterEscape? x with
  | some e =>
    rw [he] at hc
    exact readEscape_letter he hc
  | none =>
    rw [he] at hc
    simp only at hc ⊢
    have hx := Text.ofCodePoint_codePoint x
    by_cases h2 : Text.codePoint x ≤ 0xff
    · rw [if_pos h2] at hc ⊢
      have hread : readEscape m c
          = .ok ([Text.ofCodePoint (Text.codePoint x)], c.advance (1 + 2)) :=
        readEscape_code (by decide) rfl (Nat.lt_succ_of_le h2) hlt hc
      rw [hread, hx, List.length_cons, List.length_cons, List.length_map, Text.length_hex]
    · rw [if_neg h2] at hc ⊢
      by_cases h4 : Text.codePoint x ≤ 0xffff
      · rw [if_pos h4] at hc ⊢
        have hread : readEscape m c
            = .ok ([Text.ofCodePoint (Text.codePoint x)], c.advance (1 + 4)) :=
          readEscape_code (by decide) rfl (Nat.lt_succ_of_le h4) hlt hc
        rw [hread, hx, List.length_cons, List.length_cons, List.length_map, Text.length_hex]
      · rw [if_neg h4] at hc ⊢
        have hread : readEscape m c
            = .ok ([Text.ofCodePoint (Text.codePoint x)], c.advance (1 + 8)) :=
          readEscape_code (by decide) rfl (Nat.lt_trans hlt (by decide)) hlt hc
        rw [hread, hx, List.length_cons, List.length_cons, List.length_map, Text.length_hex]

/-! ## Between single quotes -/

/-- What stands between single quotes for a text that is read as `s`, with lines indented by `k`. -/
inductive SingleBody (k : Nat) : (s body : List Char) → Prop where
  | nil : SingleBody k [] []
  | char {x : Char} {s body : List Char} (hx : isQuotedChar x = true ∨ x = '"' ∨ x = '\\')
      (h : SingleBody k s body) : SingleBody k (x :: s) (x :: body)
  | quote {s body : List Char} (h : SingleBody k s body) :
      SingleBody k ('\x27' :: s) ('\x27' :: '\x27' :: body)
  | spaces {n : Nat} {s body : List Char} (hr : Solid body) (h : SingleBody k s body) :
      SingleBody k (List.replicate (n + 1) ' ' ++ s) (List.replicate (n + 1) ' ' ++ body)
  | breaks {b : Char} {bs s body : List Char} (hb : Style.isBreak b = true)
      (hbs : ∀ b ∈ bs, Style.isBreak b = true) (hr : Solid body) (h : SingleBody k s body) :
      SingleBody k (foldBreaks [heardBreak b] (bs.map heardBreak) ++ s)
        (b :: bs ++ (List.replicate k ' ' ++ body))

/-- What is solid stays so before a closing quote. -/
theorem Solid.append_cons (h : Solid body) (hx : endsWord x = false) :
    Solid (body ++ x :: tail) := by
  cases body with
  | nil =>
    intro y hy
    cases hy
    exact hx
  | cons y body => exact h

theorem ReadAs.spaces (h : ReadAs double s body) (hr : Solid body)
    (hclose : endsWord (closing double) = false) (n : Nat) :
    ReadAs double (List.replicate n ' ' ++ s) (List.replicate n ' ' ++ body) := by
  cases n with
  | zero => exact h
  | succ n =>
    refine h.piece fun hc hread ↦ ?_
    rw [List.length_replicate] at hread
    exact Reads.spaces hc (hr.append_cons hclose)
      (List.append_ne_nil_of_right_ne_nil _ (List.cons_ne_nil _ _)) hread

/-- A character that has a meaning of its own in the other kind of quotes. -/
theorem Reads.foreign (hc : c.rest = x :: rest)
    (hx : double = true ∧ x = '\x27' ∨ double = false ∧ (x = '"' ∨ x = '\\'))
    (h : Reads double m s (c.advance 1) c') : Reads double m (x :: s) c c' := by
  refine h.part (t := [x]) ?_ fun fuel done ↦ ?_
  · rw [rest_advance_one hc, hc]
    exact Nat.lt_succ_self _
  · have hspan : c.spanOf isQuotedChar = [] := by
      rw [spanOf, hc, List.takeWhile_cons_of_neg]
      rcases hx with ⟨-, rfl⟩ | ⟨-, rfl | rfl⟩ <;> decide
    rw [readQuotedWord, hspan, List.length_nil, advance_zero, List.append_nil, peek_of_cons hc,
      next_eq]
    rcases hx with ⟨rfl, rfl⟩ | ⟨rfl, rfl | rfl⟩ <;> rfl

theorem Reads.doubled (hc : c.rest = '\x27' :: '\x27' :: rest)
    (h : Reads false m s (c.advance 2) c') : Reads false m ('\x27' :: s) c c' := by
  refine h.part (t := ['\x27']) ?_ fun fuel done ↦ ?_
  · rw [rest_advance, hc, List.length_drop]
    simp only [List.length_cons]
    omega
  · have hspan : c.spanOf isQuotedChar = [] := by
      rw [spanOf, hc, List.takeWhile_cons_of_neg (by decide)]
    rw [readQuotedWord, hspan, List.length_nil, advance_zero, List.append_nil, peek_of_cons hc,
      peekAt_one_of_cons hc]
    rfl

theorem SingleBody.readAs (h : SingleBody (k + 1) s body) : ReadAs false s body := by
  have hclose : endsWord (closing false) = false := by decide
  induction h with
  | nil => exact readAs_nil
  | @char x s body hx _ ih =>
    refine ih.piece (p := [x]) fun hc hread ↦ ?_
    rcases hx with hx | hx
    · exact hread.char hc hx
    · exact hread.foreign hc (.inr ⟨rfl, hx⟩)
  | quote _ ih => exact ih.piece (p := ['\x27', '\x27']) fun hc hread ↦ hread.doubled hc
  | spaces hr _ ih => exact ih.spaces hr hclose _
  | @breaks b bs s body hb hbs hr _ ih =>
    rw [← List.append_assoc]
    refine ih.piece fun hc hread ↦ ?_
    rw [List.length_append, List.length_replicate] at hread
    rw [List.append_assoc] at hc
    exact hread.breaks hb hbs hc (hr.append_cons hclose)

/-- **What stands between single quotes is read as its text.** -/
theorem readQuoted_single (h : SingleBody (k + 1) s body)
    (hc : c.rest = '\x27' :: (body ++ '\x27' :: tail)) (ht : tail.headD eos ≠ '\x27') :
    readQuoted false c = .ok (s, c.advance (body.length + 2)) :=
  h.readAs.readQuoted hc fun _ ↦ ht

/-! ## Between double quotes -/

/-- What stands between double quotes for a text that is read as `s`, with lines indented by `k`. A
backslash before a line break takes away the break and the blanks around it. -/
inductive DoubleBody (k : Nat) : (s body : List Char) → Prop where
  | nil : DoubleBody k [] []
  | raw {x : Char} {s body : List Char} (hx : Pen.isUnescaped x = true) (h : DoubleBody k s body) :
      DoubleBody k (x :: s) (x :: body)
  | escape {x : Char} {s body : List Char} (h : DoubleBody k s body) :
      DoubleBody k (x :: s) (Pen.escapeOf x ++ body)
  | fold {s body : List Char} (hb : body.head? ≠ some ' ') (h : DoubleBody k s body) :
      DoubleBody k s ('\\' :: '\n' :: (List.replicate k ' ' ++ body))
  | escapedSpace {s body : List Char} (h : DoubleBody k s body) :
      DoubleBody k (' ' :: s) ('\\' :: ' ' :: body)
  | clash {s body : List Char} (hb : body.head? ≠ some ' ') (h : DoubleBody k s body) :
      DoubleBody k ('\\' :: ' ' :: s)
        ('\\' :: '\\' :: '\n' :: (List.replicate k ' ' ++ body))

theorem endsWord_of_isUnescaped (h : Pen.isUnescaped x = true) (hx : x ≠ ' ') :
    endsWord x = false := by
  have hcode : ∀ y : Char, x = y → Pen.isUnescaped y = false → False := fun y hy hn ↦ by
    rw [hy, hn] at h
    cases h
  have h1 : x ≠ '\t' := fun heq ↦ hcode _ heq (by decide)
  have h2 : x ≠ eos := fun heq ↦ hcode _ heq (by decide)
  have h3 : x ≠ '\n' := fun heq ↦ hcode _ heq (by decide)
  have h4 : x ≠ '\r' := fun heq ↦ hcode _ heq (by decide)
  have h5 : x ≠ '\u0085' := fun heq ↦ hcode _ heq (by decide)
  have h6 : x ≠ '\u2028' := fun heq ↦ hcode _ heq (by decide)
  have h7 : x ≠ '\u2029' := fun heq ↦ hcode _ heq (by decide)
  simp [endsWord, endsField, endsLine, isBreak, hx, h1, h2, h3, h4, h5, h6, h7]

theorem escapeOf_eq_cons (x : Char) : ∃ cs, Pen.escapeOf x = '\\' :: cs := by
  rw [Pen.escapeOf]
  split
  · exact ⟨_, rfl⟩
  · dsimp only
    split
    · exact ⟨_, rfl⟩
    · split <;> exact ⟨_, rfl⟩

/-- A body that does not begin with a space begins with no blank at all. -/
theorem DoubleBody.solid (h : DoubleBody k s body) (hb : body.head? ≠ some ' ') : Solid body := by
  intro y hy
  cases h with
  | nil => cases hy
  | @raw x s body hx h =>
    cases hy
    exact endsWord_of_isUnescaped hx fun heq ↦ hb (congrArg some heq)
  | @escape x s body h =>
    obtain ⟨cs, hcs⟩ := escapeOf_eq_cons x
    rw [hcs] at hy
    cases hy
    decide
  | fold hb h => cases hy; decide
  | escapedSpace h => cases hy; decide
  | clash hb h => cases hy; decide

theorem Reads.escaped {n : Nat} (hc : c.rest = '\\' :: rest)
    (hescape : readEscape m (c.advance 1) = .ok (cs, c₂)) (hn : c₂ = c.advance (n + 1))
    (h : Reads true m s c₂ c') : Reads true m (cs ++ s) c c' := by
  refine h.part ?_ fun fuel done ↦ ?_
  · rw [hn, rest_advance, hc, List.length_drop, List.length_cons]
    omega
  · have hspan : c.spanOf isQuotedChar = [] := by
      rw [spanOf, hc, List.takeWhile_cons_of_neg (by decide)]
    rw [readQuotedWord, hspan, List.length_nil, advance_zero, List.append_nil, peek_of_cons hc]
    change (readEscape m (c.advance 1) >>= fun r ↦
      readQuotedWord true m fuel (done ++ r.1) r.2) = _
    rw [hescape, ok_bind]

private theorem readEscape_lineBreak (hc : c.rest = '\n' :: (List.replicate (k + 1) ' ' ++ rest))
    (hr : Solid rest) : readEscape m c = .ok ([], c.advance (1 + (k + 1))) := by
  rw [readEscape, peek_of_cons hc]
  change (if isBreak '\n' = true then
    quotedBreaks m (c.lineBreak.2.rest.length + 1) [] c.lineBreak.2 else _) = _
  rw [if_pos (by decide), lineBreak_lineFeed hc,
    quotedBreaks_eq (l := []) (rest_advance_one hc) (fun _ hb ↦ absurd hb List.not_mem_nil) hr
      (Nat.zero_lt_succ _) [], advance_advance, List.length_nil, Nat.zero_add]
  rfl

/-- A line break after a backslash, which is heard as nothing. -/
theorem Reads.fold (hc : c.rest = '\\' :: '\n' :: (List.replicate (k + 1) ' ' ++ rest))
    (hr : Solid rest) (h : Reads true m s (c.advance (k + 3)) c') : Reads true m s c c' := by
  have hescape := readEscape_lineBreak (m := m) (rest_advance_one hc) hr
  have hn : 1 + (1 + (k + 1)) = k + 2 + 1 := by omega
  rw [advance_advance, hn] at hescape
  exact Reads.escaped hc hescape rfl h

/-- A space or a backslash after a backslash, which stands for itself. -/
theorem Reads.selfEscaped (hx : x = ' ' ∨ x = '\\') (hc : c.rest = '\\' :: x :: rest)
    (h : Reads true m s (c.advance 2) c') : Reads true m (x :: s) c c' := by
  have hescape : readEscape m (c.advance 1) = .ok ([x], c.advance 2) := by
    rw [readEscape, peek_of_cons (rest_advance_one hc)]
    rcases hx with rfl | rfl
    · change Except.ok ([' '], (c.advance 1).advance 1) = _
      rw [advance_advance]
    · change Except.ok (['\\'], (c.advance 1).advance 1) = _
      rw [advance_advance]
  exact Reads.escaped hc hescape rfl h

theorem Reads.escapeOf (hc : c.rest = Pen.escapeOf x ++ rest)
    (h : Reads true m s (c.advance (Pen.escapeOf x).length) c') : Reads true m (x :: s) c c' := by
  obtain ⟨cs, hcs⟩ := escapeOf_eq_cons x
  have hc' : c.rest = '\\' :: (cs ++ rest) := by rw [hc, hcs, List.cons_append]
  have hafter : (c.advance 1).rest = (Pen.escapeOf x).tail ++ rest := by
    rw [rest_advance_one hc', hcs, List.tail_cons]
  have hescape := readEscape_escapeOf (m := m) hafter
  rw [hcs, advance_advance, List.length_cons, Nat.add_sub_cancel, Nat.add_comm 1] at hescape
  rw [hcs, List.length_cons] at h
  exact Reads.escaped hc' hescape rfl h

theorem Reads.unescaped (hx : Pen.isUnescaped x = true) (hsp : x ≠ ' ') (hc : c.rest = x :: rest)
    (h : Reads true m s (c.advance 1) c') : Reads true m (x :: s) c c' := by
  by_cases hq : x = '\x27'
  · exact h.foreign hc (.inl ⟨rfl, hq⟩)
  · refine h.char hc ?_
    have h1 : x ≠ '"' := fun heq ↦ by rw [heq] at hx; cases hx
    have h2 : x ≠ '\\' := fun heq ↦ by rw [heq] at hx; cases hx
    simp [isQuotedChar, hq, h1, h2, endsWord_of_isUnescaped hx hsp]

/-- Spaces are read at once, so those in front of a body are carried along until it goes on with
something else. -/
theorem DoubleBody.readAs_spaces (h : DoubleBody (k + 1) s body) (n : Nat) :
    ReadAs true (List.replicate n ' ' ++ s) (List.replicate n ' ' ++ body) := by
  have hclose : endsWord (closing true) = false := by decide
  have hslash : ∀ cs, Solid ('\\' :: cs) := fun cs x hx ↦ by cases hx; decide
  induction h generalizing n with
  | nil => exact readAs_nil.spaces (fun _ hx ↦ nomatch hx) hclose n
  | @raw x s body hx h ih =>
    by_cases hsp : x = ' '
    · have hread := ih (n + 1)
      rw [List.replicate_succ', List.append_assoc, List.append_assoc] at hread
      rwa [hsp]
    · have hsolid : Solid (x :: body) := fun y hy ↦ by
        cases hy
        exact endsWord_of_isUnescaped hx hsp
      refine ReadAs.spaces ?_ hsolid hclose n
      exact (ih 0).piece (p := [x]) fun hc hread ↦ hread.unescaped hx hsp hc
  | @escape x s body h ih =>
    have hsolid : Solid (Pen.escapeOf x ++ body) := by
      obtain ⟨cs, hcs⟩ := escapeOf_eq_cons x
      rw [hcs]
      exact hslash _
    refine ReadAs.spaces ?_ hsolid hclose n
    exact (ih 0).piece fun hc hread ↦ hread.escapeOf hc
  | @fold s body hb h ih =>
    refine ReadAs.spaces ?_ (hslash _) hclose n
    refine (ih 0).piece (p := '\\' :: '\n' :: List.replicate (k + 1) ' ') fun hc hread ↦ ?_
    rw [List.length_cons, List.length_cons, List.length_replicate] at hread
    exact hread.fold hc ((h.solid hb).append_cons hclose)
  | @escapedSpace s body h ih =>
    refine ReadAs.spaces ?_ (hslash _) hclose n
    exact (ih 0).piece (p := ['\\', ' ']) fun hc hread ↦ hread.selfEscaped (.inl rfl) hc
  | @clash s body hb h ih =>
    -- The backslash of the fold is taken for an escaped one, so the line break counts as a space.
    refine ReadAs.spaces ?_ (hslash _) hclose n
    have hbroken : ReadAs true (' ' :: s) ('\n' :: (List.replicate (k + 1) ' ' ++ body)) := by
      refine (ih 0).piece (p := '\n' :: List.replicate (k + 1) ' ') fun hc hread ↦ ?_
      rw [List.length_cons, List.length_replicate, Nat.add_comm] at hread
      exact Reads.breaks (b := '\n') (l := []) (by decide)
        (fun _ hb ↦ absurd hb List.not_mem_nil) hc ((h.solid hb).append_cons hclose)
        (by rwa [List.length_nil, Nat.zero_add])
    exact hbroken.piece (p := ['\\', '\\']) fun hc hread ↦ hread.selfEscaped (.inr rfl) hc

/-- **What stands between double quotes is read as its text.** -/
theorem readQuoted_double (h : DoubleBody (k + 1) s body)
    (hc : c.rest = '"' :: (body ++ '"' :: tail)) :
    readQuoted true c = .ok (s, c.advance (body.length + 2)) :=
  (h.readAs_spaces 0).readQuoted hc fun hd ↦ nomatch hd

end GatewayPrint.Yaml
