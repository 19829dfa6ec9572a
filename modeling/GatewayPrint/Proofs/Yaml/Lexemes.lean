import GatewayPrint.Proofs.Yaml.Quoted
import GatewayPrint.Proofs.Yaml.Runs
import GatewayPrint.Proofs.Yaml.Words

/-!
# Lexemes of block style

What one step of the scanner does where it stands at the beginning of a lexeme outside brackets,
with no candidate for a key (`Scanner.stand`), for each lexeme that block style is written with.
Blanks and line breaks lead from one such place to the next, and blocks that end there are closed.
-/

namespace GatewayPrint.Yaml

open Cursor Outcome

variable {c : Cursor} {rest w s : List Char} {x : Char} {k n : Nat} {r : Option (List Token)}

/-- A token that takes no characters. -/
def Token.here (kind : Token.Kind) (m : Mark) : Token := ⟨kind, m, m⟩

/-! ## Where lexemes begin -/

/-- What is read next is a lexeme, or nothing at all. -/
def StartsLexeme (rest : List Char) : Prop :=
  ∀ x ∈ rest.head?, x ≠ ' ' ∧ x ≠ '#' ∧ x ≠ '\ufeff' ∧ isBreak x = false

/-- What follows on a line indented by `k`: a lexeme, and no document marker. -/
structure Follows (k : Nat) (rest : List Char) : Prop where
  starts : StartsLexeme rest
  marker : k = 0 → rest.take 3 ≠ ['-', '-', '-'] ∧ rest.take 3 ≠ ['.', '.', '.']

theorem StartsLexeme.peek (h : StartsLexeme c.rest) :
    c.peek ≠ ' ' ∧ c.peek ≠ '#' ∧ c.peek ≠ '\ufeff' ∧ isBreak c.peek = false := by
  rw [Cursor.peek]
  cases hc : c.rest with
  | nil => decide
  | cons x r => exact h x (by rw [hc]; rfl)

theorem StartsLexeme.skip (h : StartsLexeme c.rest) : c.skipSpaces.skipComment = c := by
  rw [skipSpaces_of_head_ne fun x hx ↦ (h x hx).1, skipComment_of_peek_ne h.peek.2.1]

namespace Scanner

variable {allowed : Bool} {ps : List Token} {indent : Int} {outer : List Int} {t : Scanner}
  {cands : List (Nat × KeyCandidate)}

/-- The scanner at a place outside brackets, with no candidate for a key. -/
def stand (allowed : Bool) (c : Cursor) (ps : List Token) (indent : Int) (outer : List Int) :
    Scanner where
  cursor := c
  behind := none
  pending := ps
  taken := 0
  indent := indent
  outer := outer
  flow := 0
  keyAllowed := allowed
  candidates := []
  done := false

/-- The scanner outside brackets with candidates for keys. -/
def standWith (cands : List (Nat × KeyCandidate)) (allowed : Bool) (c : Cursor) (ps : List Token)
    (indent : Int) (outer : List Int) : Scanner :=
  { stand allowed c ps indent outer with candidates := cands }

/-! ## Blanks -/

theorem skipToLexeme_of_starts (h : StartsLexeme t.cursor.rest) : t.skipToLexeme = t := by
  have hbom : (t.mark.index = 0 && t.cursor.peek = '\ufeff') = false := by
    rw [decide_eq_false h.peek.2.2.1, Bool.and_false]
  rw [skipToLexeme, hbom, if_neg Bool.false_ne_true, skipBlanks, h.skip, h.peek.2.2.2,
    if_neg Bool.false_ne_true]

private theorem skipToLexeme_of_spaces (hc : t.cursor.rest = List.replicate k ' ' ++ rest)
    (h : StartsLexeme rest) : t.skipToLexeme = { t with cursor := t.cursor.advance k } := by
  have hrest : (t.cursor.advance k).rest = rest := rest_advance_eq hc List.length_replicate
  have hstart : StartsLexeme (t.cursor.advance k).rest := by rw [hrest]; exact h
  have hbom : (t.mark.index = 0 && t.cursor.peek = '\ufeff') = false := by
    have hpeek : t.cursor.peek ≠ '\ufeff' := by
      cases k with
      | zero => exact hstart.peek.2.2.1
      | succ k =>
        rw [peek_of_cons hc]
        decide
    rw [decide_eq_false hpeek, Bool.and_false]
  rw [skipToLexeme, hbom, if_neg Bool.false_ne_true, skipBlanks,
    skipSpaces_of_replicate hc fun x hx ↦ (h x hx).1, skipComment_of_peek_ne hstart.peek.2.1,
    hstart.peek.2.2.2, if_neg Bool.false_ne_true]

private theorem skipToLexeme_of_newLine
    (hc : t.cursor.rest = '\n' :: (List.replicate k ' ' ++ rest))
    (h : StartsLexeme rest) : t.skipToLexeme = { t with
      cursor := t.cursor.advance (1 + k), keyAllowed := t.keyAllowed || t.flow == 0 } := by
  have hpeek : t.cursor.peek = '\n' := peek_of_cons hc
  have hafter : (t.cursor.advance 1).rest = List.replicate k ' ' ++ rest := rest_advance_one hc
  have hrest : (t.cursor.advance (1 + k)).rest = rest := rest_advance_newLine hc
  have hstart : StartsLexeme (t.cursor.advance (1 + k)).rest := by rw [hrest]; exact h
  have hbom : (t.mark.index = 0 && t.cursor.peek = '\ufeff') = false := by
    have hne : '\n' ≠ '\ufeff' := by decide
    rw [hpeek, decide_eq_false hne, Bool.and_false]
  have hskip : t.cursor.skipSpaces.skipComment = t.cursor := by
    rw [skipSpaces_of_head_ne fun x hx ↦ by rw [hc] at hx; cases hx; decide,
      skipComment_of_peek_ne (by rw [hpeek]; decide)]
  have hskip' : (t.cursor.advance 1).skipSpaces.skipComment = t.cursor.advance (1 + k) := by
    rw [skipSpaces_of_replicate hafter fun x hx ↦ (h x hx).1, advance_advance,
      skipComment_of_peek_ne hstart.peek.2.1]
  obtain ⟨fuel, hfuel⟩ : ∃ fuel, t.cursor.rest.length = fuel + 1 := by
    rw [hc]
    exact ⟨_, rfl⟩
  rw [skipToLexeme, hbom, if_neg Bool.false_ne_true, hfuel, skipBlanks, hskip, hpeek,
    if_pos (by decide), lineBreak_lineFeed hc, skipBlanks]
  dsimp only
  rw [hskip', hstart.peek.2.2.2, if_neg Bool.false_ne_true]

theorem dropLapsed_of_nil (h : t.candidates = []) : t.dropLapsed = .ok t := clean_of_nil h

theorem unwindTo_of_flow (h : t.flow = 0) (column : Int) :
    t.unwindTo column = unwind column (t.outer.length + 1) t := by
  rw [unwindTo, h, if_neg (Nat.lt_irrefl 0)]

theorem unwindTo_of_le (hi : t.indent ≤ n) : t.unwindTo n = t := by
  rw [unwindTo]
  split
  · rfl
  · rw [unwind, if_pos hi]

theorem fetchNext_of_starts (h : StartsLexeme t.cursor.rest) (hl : t.dropLapsed = .ok t)
    (hi : t.indent ≤ t.mark.column) : t.fetchNext = t.fetchLexeme := by
  rw [fetchNext, skipToLexeme_of_starts h, hl, ok_bind, unwindTo_of_le hi]

private theorem fetchNext_of_spaces (hc : c.rest = List.replicate k ' ' ++ rest)
    (h : StartsLexeme rest) : (stand allowed c ps indent outer).fetchNext
      = (stand allowed (c.advance k) ps indent outer).fetchNext := by
  have hrest : (c.advance k).rest = rest := rest_advance_eq hc List.length_replicate
  have hstart : StartsLexeme (stand allowed (c.advance k) ps indent outer).cursor.rest := by
    change StartsLexeme (c.advance k).rest
    rw [hrest]
    exact h
  rw [fetchNext, fetchNext, skipToLexeme_of_starts hstart,
    skipToLexeme_of_spaces (t := stand allowed c ps indent outer) hc h]
  rfl

/-- A step goes past a line break, where candidates lapse unless they have to be keys. -/
theorem fetchNext_of_newLine
    (hl : ∀ e ∈ cands, e.2.required = false ∧ e.2.mark.line ≤ c.mark.line)
    (hc : c.rest = '\n' :: (List.replicate k ' ' ++ rest)) (h : StartsLexeme rest) :
    (standWith cands allowed c ps indent outer).fetchNext
      = (stand true (c.advance (1 + k)) ps indent outer).fetchNext := by
  have hrest : (c.advance (1 + k)).rest = rest := rest_advance_newLine hc
  have hstart : StartsLexeme (stand true (c.advance (1 + k)) ps indent outer).cursor.rest := by
    change StartsLexeme (c.advance (1 + k)).rest
    rw [hrest]
    exact h
  have hskip : (standWith cands allowed c ps indent outer).skipToLexeme
      = standWith cands true (c.advance (1 + k)) ps indent outer := by
    rw [skipToLexeme_of_newLine hc h]
    simp [standWith, stand]
  -- Candidates are from a line above the new one.
  have hlapsed : ∀ e ∈ cands,
      (standWith cands true (c.advance (1 + k)) ps indent outer).lapsed e.2 = true := by
    intro e he
    have hline : e.2.mark.line ≠ (c.advance (1 + k)).mark.line := by
      rw [mark_advance_newLine hc]
      exact Nat.ne_of_lt (Nat.lt_succ_of_le (hl e he).2)
    change (e.2.mark.line != (c.advance (1 + k)).mark.line || _) = true
    rw [bne_iff_ne.mpr hline, Bool.true_or]
  have hdrop : (standWith cands true (c.advance (1 + k)) ps indent outer).dropLapsed
      = .ok (stand true (c.advance (1 + k)) ps indent outer) :=
    dropLapsed_of_lapsed fun e he ↦ ⟨(hl e he).1, hlapsed e he⟩
  rw [fetchNext, hskip, hdrop, fetchNext, skipToLexeme_of_starts hstart, dropLapsed_of_nil rfl]

/-- A block that is indented by more than the next lexeme ends before it. -/
theorem fetchNext_close {o : Int} (h : StartsLexeme c.rest) (hi : (c.mark.column : Int) < indent) :
    (stand allowed c ps indent (o :: outer)).fetchNext
      = (stand allowed c (ps ++ [.here .blockEnd c.mark]) o outer).fetchNext := by
  have hinner : (stand allowed c ps indent (o :: outer)).skipToLexeme
      = stand allowed c ps indent (o :: outer) := skipToLexeme_of_starts h
  have houter : (stand allowed c (ps ++ [.here .blockEnd c.mark]) o outer).skipToLexeme
      = stand allowed c (ps ++ [.here .blockEnd c.mark]) o outer := skipToLexeme_of_starts h
  rw [fetchNext, fetchNext, hinner, houter, dropLapsed_of_nil rfl, dropLapsed_of_nil rfl, ok_bind,
    ok_bind]
  -- Leaving the inner block is the first round of unwinding; the rounds after it are the same.
  have hunwind : (stand allowed c ps indent (o :: outer)).unwindTo c.mark.column
      = (stand allowed c (ps ++ [.here .blockEnd c.mark]) o outer).unwindTo c.mark.column := by
    rw [unwindTo_of_flow rfl, unwindTo_of_flow rfl]
    change unwind c.mark.column (outer.length + 1 + 1) _ = unwind c.mark.column (outer.length + 1) _
    have hdeeper : ¬(stand allowed c ps indent (o :: outer)).indent ≤ (c.mark.column : Int) :=
      Int.not_le.mpr hi
    rw [unwind, if_neg hdeeper]
    rfl
  exact congrArg fetchLexeme hunwind

/-! ## From one lexeme to the next -/

theorem standing : (stand allowed c ps indent outer).behind = none ∧
    (stand allowed c ps indent outer).done = false := ⟨rfl, rfl⟩

theorem weight_stand : (stand allowed c ps indent outer).weight
    = ps.length + outer.length + 5 * c.rest.length := rfl

theorem weight_standWith : (standWith cands allowed c ps indent outer).weight
    = ps.length + outer.length + 5 * c.rest.length := rfl

theorem standingWith : (standWith cands allowed c ps indent outer).behind = none ∧
    (standWith cands allowed c ps indent outer).done = false := ⟨rfl, rfl⟩

theorem length_rest_advance_le (c : Cursor) (n : Nat) :
    (c.advance n).rest.length ≤ c.rest.length := by
  rw [rest_advance, List.length_drop]
  exact Nat.sub_le _ _

theorem runs_of_spaces (hc : c.rest = List.replicate k ' ' ++ rest) (h : StartsLexeme rest)
    (hr : Runs (stand allowed (c.advance k) ps indent outer) r) :
    Runs (stand allowed c ps indent outer) r := by
  have hle := length_rest_advance_le c k
  refine hr.congr standing (fetchNext_of_spaces hc h) (Nat.le_refl _) hle ?_
  rw [weight_stand, weight_stand]
  omega

/-- Past the line break after a value no candidate is left. -/
theorem runs_endLine (hc : c.rest = '\n' :: (List.replicate k ' ' ++ rest)) (h : StartsLexeme rest)
    (hl : ∀ e ∈ cands, e.2.required = false ∧ e.2.mark.line ≤ c.mark.line)
    (hr : Runs (stand true (c.advance (1 + k)) ps indent outer) r) :
    Runs (standWith cands allowed c ps indent outer) r := by
  have hle := length_rest_advance_le c (1 + k)
  refine hr.congr standingWith (fetchNext_of_newLine hl hc h) (Nat.le_refl _) hle ?_
  rw [weight_stand, weight_standWith]
  omega

theorem runs_of_newLine (hc : c.rest = '\n' :: (List.replicate k ' ' ++ rest))
    (h : StartsLexeme rest) (hr : Runs (stand true (c.advance (1 + k)) ps indent outer) r) :
    Runs (stand allowed c ps indent outer) r :=
  runs_endLine hc h (fun _ he ↦ absurd he List.not_mem_nil) hr

theorem runs_close {o : Int} (h : StartsLexeme c.rest) (hi : (c.mark.column : Int) < indent)
    (hr : Runs (stand allowed c (ps ++ [.here .blockEnd c.mark]) o outer) r) :
    Runs (stand allowed c ps indent (o :: outer)) r := by
  refine hr.congr standing (fetchNext_close h hi) ?_ (Nat.le_refl _) ?_
  · change ps.length ≤ (ps ++ [Token.here .blockEnd c.mark]).length
    rw [List.length_append]
    exact Nat.le_add_right _ _
  · rw [weight_stand, weight_stand, List.length_append, List.length_cons, List.length_cons,
      List.length_nil]
    omega

/-! ## Which lexeme it is -/

private theorem fetchLexeme_end (hc : t.cursor.rest = []) : t.fetchLexeme = t.fetchEnd := by
  have hpeek : t.cursor.peek = eos := by rw [peek, hc]; rfl
  rw [fetchLexeme, hpeek]
  exact if_pos rfl

theorem fetchLexeme_single (hc : t.cursor.rest = '\x27' :: rest) :
    t.fetchLexeme = t.fetchQuoted false := by
  rw [fetchLexeme, peek_of_cons hc]
  cases decide (t.mark.column = 0) <;> rfl

theorem fetchLexeme_double (hc : t.cursor.rest = '"' :: rest) :
    t.fetchLexeme = t.fetchQuoted true := by
  rw [fetchLexeme, peek_of_cons hc]
  cases decide (t.mark.column = 0) <;> rfl

theorem fetchLexeme_openSeq (hc : t.cursor.rest = '[' :: rest) :
    t.fetchLexeme = t.fetchFlowStart .flowSequenceStart := by
  rw [fetchLexeme, peek_of_cons hc]
  cases decide (t.mark.column = 0) <;> rfl

theorem fetchLexeme_closeSeq (hc : t.cursor.rest = ']' :: rest) :
    t.fetchLexeme = t.fetchFlowEnd .flowSequenceEnd := by
  rw [fetchLexeme, peek_of_cons hc]
  cases decide (t.mark.column = 0) <;> rfl

theorem fetchLexeme_openMap (hc : t.cursor.rest = '\x7b' :: rest) :
    t.fetchLexeme = t.fetchFlowStart .flowMappingStart := by
  rw [fetchLexeme, peek_of_cons hc]
  cases decide (t.mark.column = 0) <;> rfl

theorem fetchLexeme_closeMap (hc : t.cursor.rest = '\x7d' :: rest) :
    t.fetchLexeme = t.fetchFlowEnd .flowMappingEnd := by
  rw [fetchLexeme, peek_of_cons hc]
  cases decide (t.mark.column = 0) <;> rfl

private theorem fetchLexeme_dash (hc : t.cursor.rest = '-' :: ' ' :: rest) :
    t.fetchLexeme = t.fetchBlockEntry := by
  have hmarker : t.cursor.atMarker = false := by
    have h3 : t.cursor.ahead 3 = '-' :: ' ' :: rest.take 1 := by rw [ahead, hc]; rfl
    rw [atMarker, h3]
    simp
  rw [fetchLexeme, peek_of_cons hc, peekAt_one_of_cons hc, hmarker]
  cases decide (t.mark.column = 0) <;> rfl

private theorem fetchLexeme_question (hc : t.cursor.rest = '?' :: ' ' :: rest) (hf : t.flow = 0) :
    t.fetchLexeme = t.fetchKey := by
  rw [fetchLexeme, peek_of_cons hc, peekAt_one_of_cons hc, hf]
  cases decide (t.mark.column = 0) <;> rfl

theorem fetchLexeme_colon (hc : t.cursor.rest = ':' :: x :: rest) (hx : endsWord x = true)
    (hf : t.flow = 0) : t.fetchLexeme = t.fetchValue := by
  have hspaced : endsWord ((x :: rest).headD eos) = true := hx
  rw [fetchLexeme, peek_of_cons hc, peekAt_one_of_cons hc, hspaced, hf]
  cases decide (t.mark.column = 0) <;> rfl

theorem startsPlain_of_ne (hc : t.cursor.rest = x :: rest) (hf : t.flow = 0)
    (hx : "#,[]\x7b\x7d&*!|>'\"%@\x60".toList.contains x = false) (hend : endsWord x = false)
    (hnext : x = '?' ∨ x = ':' ∨ x = '-' → endsWord (rest.headD eos) = false) :
    t.startsPlain = true := by
  rw [startsPlain, peek_of_cons hc, peekAt_one_of_cons hc, hf]
  by_cases hspecial : x = '?' ∨ x = ':' ∨ x = '-'
  · rw [hnext hspecial]
    rcases hspecial with rfl | rfl | rfl <;> rfl
  · have hind : isIndicator x = false := by
      rw [not_or, not_or] at hspecial
      rw [isIndicator, hend, Bool.false_or]
      simp at hx
      simp [hspecial, hx]
    rw [hind]
    rfl

/-- What opens with no indicator, or with one that is followed by a word, is a plain scalar. -/
theorem fetchLexeme_plain (hc : t.cursor.rest = x :: rest) (hf : t.flow = 0)
    (hx : "#,[]\x7b\x7d&*!|>'\"%@\x60".toList.contains x = false) (hend : endsWord x = false)
    (hnext : x = '?' ∨ x = ':' ∨ x = '-' → endsWord (rest.headD eos) = false)
    (hmarker : t.cursor.atMarker = false) : t.fetchLexeme = t.fetchPlain := by
  have hne : ∀ y : Char,
      "#,[]\x7b\x7d&*!|>'\"%@\x60".toList.contains y = true ∨ y = eos → x ≠ y := by
    rintro y (hy | rfl) rfl
    · rw [hx] at hy
      cases hy
    · exact absurd hend (by decide)
  -- An indicator of blocks counts only before a blank.
  have hblank : ∀ y : Char, y = '?' ∨ y = ':' ∨ y = '-' →
      (decide (x = y) && endsWord (rest.headD eos)) = false := by
    intro y hy
    by_cases hxy : x = y
    · rw [hnext (hxy ▸ hy), Bool.and_false]
    · rw [decide_eq_false hxy, Bool.false_and]
  have hdash := hblank '-' (.inr (.inr rfl))
  have hquestion : (x = '?' && (0 < 0 || endsWord (rest.headD eos))) = false :=
    hblank '?' (.inl rfl)
  have hcolon : (x = ':' && (0 < 0 || endsWord (rest.headD eos))) = false :=
    hblank ':' (.inr (.inl rfl))
  rw [fetchLexeme, peek_of_cons hc, peekAt_one_of_cons hc, hmarker, hf,
    startsPlain_of_ne hc hf hx hend hnext, if_neg (hne eos (.inr rfl)), hdash, hquestion, hcolon,
    decide_eq_false (hne '%' (.inl rfl)), decide_eq_false (hne '|' (.inl rfl)),
    decide_eq_false (hne '>' (.inl rfl)), if_neg (hne '[' (.inl rfl)),
    if_neg (hne '\x7b' (.inl rfl)), if_neg (hne ']' (.inl rfl)), if_neg (hne '\x7d' (.inl rfl)),
    if_neg (hne ',' (.inl rfl)), if_neg (hne '*' (.inl rfl)), if_neg (hne '&' (.inl rfl)),
    if_neg (hne '!' (.inl rfl)), if_neg (hne '\x27' (.inl rfl)), if_neg (hne '"' (.inl rfl))]
  simp only [Bool.and_false, Bool.false_and, Bool.false_eq_true, if_false, if_true]

/-! ## Indicators of blocks -/

/-- The token that opens a block at column `n`, if it is indented by more than the present one. -/
def opening (kind : Token.Kind) (indent : Int) (n : Nat) (m : Mark) : List Token :=
  if indent < n then [.here kind m] else []

/-- The blocks around a block at column `n`. -/
def around (indent : Int) (n : Nat) (outer : List Int) : List Int :=
  if indent < n then indent :: outer else outer

theorem length_opening_le (kind : Token.Kind) (indent : Int) (n : Nat) (m : Mark) :
    (opening kind indent n m).length ≤ 1 := by
  rw [opening]
  split
  · exact Nat.le_refl _
  · exact Nat.zero_le _

theorem length_around_le (indent : Int) (n : Nat) (outer : List Int) :
    (around indent n outer).length ≤ outer.length + 1 := by
  rw [around]
  split
  · exact Nat.le_refl _
  · exact Nat.le_succ _

theorem openBlock_stand {kind : Token.Kind} (hn : c.mark.column = n) (hi : indent ≤ n) :
    (stand allowed c ps indent outer).openBlock kind
      = stand allowed c (ps ++ opening kind indent n c.mark) n (around indent n outer) := by
  have hto : (stand allowed c ps indent outer).indentTo?
      (stand allowed c ps indent outer).mark.column = if indent < n then
          some { stand allowed c ps indent outer with indent := n, outer := indent :: outer }
        else none := by
    change (stand allowed c ps indent outer).indentTo? c.mark.column = _
    rw [hn]
    rfl
  rw [openBlock, hto, opening, around]
  by_cases h : indent < n
  · rw [if_pos h, if_pos h, if_pos h]
    rfl
  · rw [if_neg h, if_neg h, if_neg h, List.append_nil, Int.le_antisymm hi (Int.not_lt.mp h)]

private theorem fetchBlockEntry_stand (hn : c.mark.column = n) (hi : indent ≤ n) :
    (stand true c ps indent outer).fetchBlockEntry = .ok (stand true (c.advance 1)
      (ps ++ opening .blockSequenceStart indent n c.mark ++
        [⟨.blockEntry, c.mark, (c.advance 1).mark⟩])
      n (around indent n outer)) := by
  rw [fetchBlockEntry]
  change ({ (stand true c ps indent outer).openBlock .blockSequenceStart with
    keyAllowed := true }.dropCandidate >>= fun s ↦ .ok (s.pushNext .blockEntry 1)) = _
  rw [openBlock_stand hn hi]
  rfl

private theorem fetchKey_stand (hn : c.mark.column = n) (hi : indent ≤ n) :
    (stand true c ps indent outer).fetchKey = .ok (stand true (c.advance 1)
      (ps ++ opening .blockMappingStart indent n c.mark ++ [⟨.key, c.mark, (c.advance 1).mark⟩])
      n (around indent n outer)) := by
  rw [fetchKey]
  change ({ (stand true c ps indent outer).openBlock .blockMappingStart with
    keyAllowed := ((stand true c ps indent outer).openBlock .blockMappingStart).flow == 0
    }.dropCandidate >>= fun s ↦ .ok (s.pushNext .key 1)) = _
  rw [openBlock_stand hn hi]
  rfl

private theorem fetchValue_stand (hn : c.mark.column = n) :
    (stand true c ps n outer).fetchValue = .ok (stand true (c.advance 1)
      (ps ++ [⟨.value, c.mark, (c.advance 1).mark⟩]) n outer) := by
  rw [fetchValue]
  change ({ (stand true c ps n outer).openBlock .blockMappingStart with
    keyAllowed := ((stand true c ps n outer).openBlock .blockMappingStart).flow == 0
    }.dropCandidate >>= fun s ↦ .ok (s.pushNext .value 1)) = _
  rw [openBlock_stand hn (Int.le_refl _), opening, if_neg (Int.lt_irrefl _), around,
    if_neg (Int.lt_irrefl _), List.append_nil]
  rfl

/-- A step to another place of the same kind. -/
theorem runs_of_fetchLexeme {allowed' : Bool} {m : Nat} {ps' : List Token} {indent' : Int}
    {outer' : List Int} (hstart : StartsLexeme c.rest) (hi : indent ≤ c.mark.column)
    (h : (stand allowed c ps indent outer).fetchLexeme
      = .ok (stand allowed' (c.advance m) ps' indent' outer'))
    (hm : 0 < m) (hne : c.rest ≠ []) (hp : ps.length < ps'.length)
    (hw : ps'.length + outer'.length ≤ ps.length + outer.length + 5)
    (hr : Runs (stand allowed' (c.advance m) ps' indent' outer') r) :
    Runs (stand allowed c ps indent outer) r := by
  have hpos := List.length_pos_iff.mpr hne
  have hlen : (c.advance m).rest.length < c.rest.length := by
    rw [rest_advance, List.length_drop]
    omega
  refine .step standing ((fetchNext_of_starts hstart (dropLapsed_of_nil rfl) hi).trans h) rfl hp
    hlen ?_ (dropLapsed_of_nil rfl) hr
  rw [weight_stand, weight_stand]
  omega

theorem startsLexeme_cons (h : x ≠ ' ' ∧ x ≠ '#' ∧ x ≠ '\ufeff' ∧ isBreak x = false) :
    StartsLexeme (x :: rest) := by
  intro y hy
  cases hy
  exact h

theorem runs_dash (hc : c.rest = '-' :: ' ' :: rest) (hn : c.mark.column = n) (hi : indent ≤ n)
    (hr : Runs (stand true (c.advance 1) (ps ++ opening .blockSequenceStart indent n c.mark ++
      [⟨.blockEntry, c.mark, (c.advance 1).mark⟩]) n (around indent n outer)) r) :
    Runs (stand true c ps indent outer) r := by
  have ho := length_opening_le .blockSequenceStart indent n c.mark
  have ha := length_around_le indent n outer
  refine runs_of_fetchLexeme (by rw [hc]; exact startsLexeme_cons (by decide))
    (by rw [hn]; exact hi) ((fetchLexeme_dash hc).trans (fetchBlockEntry_stand hn hi))
    Nat.zero_lt_one (by rw [hc]; exact List.cons_ne_nil _ _) ?_ ?_ hr
  · simp only [List.length_append, List.length_cons, List.length_nil]
    omega
  · simp only [List.length_append, List.length_cons, List.length_nil]
    omega

/-- The question mark of a key that takes lines of its own. -/
theorem runs_question (hc : c.rest = '?' :: ' ' :: rest) (hn : c.mark.column = n) (hi : indent ≤ n)
    (hr : Runs (stand true (c.advance 1) (ps ++ opening .blockMappingStart indent n c.mark ++
      [⟨.key, c.mark, (c.advance 1).mark⟩]) n (around indent n outer)) r) :
    Runs (stand true c ps indent outer) r := by
  have ho := length_opening_le .blockMappingStart indent n c.mark
  have ha := length_around_le indent n outer
  refine runs_of_fetchLexeme (by rw [hc]; exact startsLexeme_cons (by decide))
    (by rw [hn]; exact hi) ((fetchLexeme_question hc rfl).trans (fetchKey_stand hn hi))
    Nat.zero_lt_one (by rw [hc]; exact List.cons_ne_nil _ _) ?_ ?_ hr
  · simp only [List.length_append, List.length_cons, List.length_nil]
    omega
  · simp only [List.length_append, List.length_cons, List.length_nil]
    omega

theorem runs_colon (hc : c.rest = ':' :: ' ' :: rest) (hn : c.mark.column = n)
    (hr : Runs (stand true (c.advance 1) (ps ++ [⟨.value, c.mark, (c.advance 1).mark⟩])
      n outer) r) :
    Runs (stand true c ps n outer) r := by
  refine runs_of_fetchLexeme (by rw [hc]; exact startsLexeme_cons (by decide))
    (Int.ofNat_le.mpr (Nat.le_of_eq hn.symm))
    ((fetchLexeme_colon hc (by decide) rfl).trans (fetchValue_stand hn))
    Nat.zero_lt_one (by rw [hc]; exact List.cons_ne_nil _ _) ?_ ?_ hr
  · simp only [List.length_append, List.length_cons, List.length_nil]
    omega
  · simp only [List.length_append, List.length_cons, List.length_nil]
    omega

theorem runs_end (hc : c.rest = []) : Runs (stand true c ps 0 [-1])
      (some (ps ++ [.here .blockEnd c.mark] ++ [.here .streamEnd c.mark])) := by
  have hstart : StartsLexeme c.rest := by
    rw [hc]
    exact fun x hx ↦ nomatch hx
  have hunwind : (stand true c ps 0 [-1]).unwindTo (-1)
      = stand true c (ps ++ [.here .blockEnd c.mark]) (-1) [] := by
    rw [unwindTo_of_flow rfl]
    rfl
  have hend : (stand true c ps 0 [-1]).fetchEnd = .ok { stand true c
      (ps ++ [.here .blockEnd c.mark] ++ [.here .streamEnd c.mark]) (-1) [] with
      keyAllowed := false, done := true } := by
    rw [fetchEnd, hunwind]
    rfl
  have hnext : (stand true c ps 0 [-1]).fetchNext = _ :=
    (fetchNext_of_starts hstart (dropLapsed_of_nil rfl) (Int.natCast_nonneg _)).trans
      ((fetchLexeme_end hc).trans hend)
  refine .last (t := { stand true c (ps ++ [.here .blockEnd c.mark] ++ [.here .streamEnd c.mark])
    (-1) [] with keyAllowed := false, done := true }) standing hnext rfl ?_ (Nat.le_refl _)
  rw [weight_stand]
  simp [stand]

end Scanner

end GatewayPrint.Yaml
