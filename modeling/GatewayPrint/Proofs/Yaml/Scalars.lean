import GatewayPrint.Proofs.Yaml.Lexemes

/-!
# Scalars in a run

What the scanner does with a scalar (`ScalarBody`), with an empty pair of brackets, and with a key
on one line with its colon. A value is one token, or two for brackets (`runs_scalar`,
`runs_brackets`). A key of at most 1024 characters puts the tokens of a mapping around it
(`runs_simpleKey`); a longer one ends the run with a fault (`runs_longKey`).
-/

namespace GatewayPrint.Yaml

open Cursor Outcome Scanner

variable {c c' : Cursor} {rest w s b : List Char} {x y : Char} {k n : Nat} {plain : Bool}
  {r : Option (List Token)}

/-! ## Written scalars -/

/-- How a plain scalar begins: neither with an indicator nor like a document marker. -/
structure OpensPlain (w : List Char) : Prop where
  first : ∀ x ∈ w.head?, "#,[]\x7b\x7d&*!|>'\"%@\x60".toList.contains x = false ∧ x ≠ '\ufeff'
  second : ∀ x r, w = x :: r → x = '?' ∨ x = ':' ∨ x = '-' →
    ∃ y r', r = y :: r' ∧ endsWord y = false
  marker : w.take 3 ≠ ['-', '-', '-'] ∧ w.take 3 ≠ ['.', '.', '.']

/-- A written scalar `w` that is read as the text `s`, inside a block at column `k`. -/
inductive ScalarBody (k : Nat) : (plain : Bool) → (s w : List Char) → Prop where
  | plain {s w : List Char} (h : PlainBody (k + 2) s w) (ho : OpensPlain w) : ScalarBody k true s w
  | single {s b : List Char} (h : SingleBody (k + 2) s b) :
      ScalarBody k false s ('\x27' :: (b ++ ['\x27']))
  | double {s b : List Char} (h : DoubleBody (k + 2) s b) :
      ScalarBody k false s ('"' :: (b ++ ['"']))

theorem ScalarBody.ne_nil (h : ScalarBody k plain s w) : w ≠ [] := by
  cases h with
  | plain h _ =>
    obtain ⟨x, r, hw, _⟩ := h.head
    rw [hw]
    exact List.cons_ne_nil _ _
  | single h => exact List.cons_ne_nil _ _
  | double h => exact List.cons_ne_nil _ _

theorem OpensPlain.head_ne (h : OpensPlain w) (hw : w.head? = some x) : x ≠ '#' := by
  have hx := (h.first x (by rw [hw]; rfl)).1
  rintro rfl
  exact absurd hx (by decide)

theorem ScalarBody.starts (h : ScalarBody k plain s w) : StartsLexeme (w ++ rest) := by
  cases h with
  | plain h ho =>
    obtain ⟨x, r, hw, hx⟩ := h.head
    have hhead : w.head? = some x := by rw [hw]; rfl
    rw [hw]
    exact startsLexeme_cons ⟨ne_of_endsWord hx (by decide), ho.head_ne hhead,
      (ho.first x hhead).2, isBreak_of_endsWord hx⟩
  | single h => exact startsLexeme_cons (by decide)
  | double h => exact startsLexeme_cons (by decide)

/-- What begins with a plain scalar does not begin with a document marker. -/
theorem OpensPlain.take_ne (h : OpensPlain w) (hy : y ≠ '-' ∧ y ≠ '.') (rest : List Char) :
    (w ++ y :: rest).take 3 ≠ ['-', '-', '-'] ∧ (w ++ y :: rest).take 3 ≠ ['.', '.', '.'] := by
  have htake : ∀ z : Char, y ≠ z → w.take 3 ≠ [z, z, z] → (w ++ y :: rest).take 3 ≠ [z, z, z] := by
    intro z hz hne heq
    -- With fewer than three characters, the one behind the scalar is among the first three.
    rcases Nat.lt_or_ge w.length 3 with hlt | hge
    · have hget := congrArg (·[w.length]?) heq
      simp only [List.getElem?_take, hlt, if_true, List.getElem?_append_right (Nat.le_refl _),
        Nat.sub_self, List.getElem?_cons_zero] at hget
      have hmem : y ∈ [z, z, z] := List.mem_of_getElem? hget.symm
      rw [List.mem_cons, List.mem_cons, List.mem_singleton, or_self, or_self] at hmem
      exact hz hmem
    · rw [List.take_append_of_le_length hge] at heq
      exact hne heq
  exact ⟨htake '-' hy.1 h.marker.1, htake '.' hy.2 h.marker.2⟩

theorem OpensPlain.atMarker (h : OpensPlain w) (hc : c.rest = w ++ y :: rest)
    (hy : y ≠ '-' ∧ y ≠ '.') : c.atMarker = false := by
  obtain ⟨hdash, hdot⟩ := h.take_ne hy rest
  rw [Cursor.atMarker, ahead, hc]
  simp [hdash, hdot]

/-- A line that begins with another character than those of document markers. -/
theorem follows_cons (h : StartsLexeme (x :: rest)) (hx : x ≠ '-' ∧ x ≠ '.') (k : Nat) :
    Follows k (x :: rest) where
  starts := h
  marker := fun _ ↦ ⟨fun heq ↦ hx.1 (List.cons.inj heq).1, fun heq ↦ hx.2 (List.cons.inj heq).1⟩

theorem ScalarBody.follows (h : ScalarBody k plain s w) (hy : y ≠ '-' ∧ y ≠ '.') (n : Nat)
    (rest : List Char) : Follows n (w ++ y :: rest) := by
  have hstarts : StartsLexeme (w ++ y :: rest) := h.starts
  cases h with
  | plain h ho => exact ⟨hstarts, fun _ ↦ ho.take_ne hy rest⟩
  | single h => exact follows_cons hstarts (by decide) n
  | double h => exact follows_cons hstarts (by decide) n

/-! ## A scanner with candidates -/

namespace Scanner

variable {allowed : Bool} {ps : List Token} {indent : Int} {outer : List Int} {t u : Scanner}
  {cands : List (Nat × KeyCandidate)}

/-- The candidate that a scalar is where a key is allowed. -/
def noted (allowed : Bool) (c : Cursor) (ps : List Token) (indent : Int) :
    List (Nat × KeyCandidate) :=
  if allowed then [(0, ⟨ps.length, indent == c.mark.column, c.mark⟩)] else []

theorem noteCandidate_stand : (stand allowed c ps indent outer).noteCandidate
    = .ok (standWith (noted allowed c ps indent) allowed c ps indent outer) := by
  cases allowed with
  | false => rfl
  | true =>
    change (Except.ok { stand true c ps indent outer with candidates := [] ++ [(0,
      (⟨0 + ps.length, indent == c.mark.column, c.mark⟩ : KeyCandidate))] }
      : Except Fault Scanner) = _
    rw [Nat.zero_add]
    rfl

theorem mem_noted {e : Nat × KeyCandidate} (h : e ∈ noted allowed c ps indent) :
    e = (0, ⟨ps.length, indent == c.mark.column, c.mark⟩) := by
  rw [noted] at h
  cases allowed with
  | false => cases h
  | true => exact List.mem_singleton.mp h

/-- Where indentation is more than that of the block, nothing has to be a key. -/
theorem noted_optional (hi : indent < c.mark.column) :
    ∀ e ∈ noted allowed c ps indent, e.2.required = false ∧ e.2.mark = c.mark := by
  intro e he
  rw [mem_noted he]
  exact ⟨beq_false_of_ne (Int.ne_of_lt hi), rfl⟩

theorem dropLapsed_standWith (allowed : Bool) (c : Cursor) (ps : List Token) (indent : Int)
    (outer : List Int) (h : ∀ e ∈ cands, e.2.required = false) :
    (standWith cands allowed c ps indent outer).dropLapsed = .ok (standWith
      (cands.filter fun e ↦ !(stand allowed c ps indent outer).lapsed e.2)
      allowed c ps indent outer) := dropLapsed_of_optional h

private theorem runs_lapsed (h : StartsLexeme c.rest)
    (hl : ∀ e ∈ cands, e.2.required = false ∧ e.2.mark.line < c.mark.line)
    (hr : Runs (stand allowed c ps indent outer) r) :
    Runs (standWith cands allowed c ps indent outer) r := by
  have hlapsed : ∀ e ∈ cands, (standWith cands allowed c ps indent outer).lapsed e.2 = true := by
    intro e he
    change (e.2.mark.line != c.mark.line || _) = true
    rw [bne_iff_ne.mpr (Nat.ne_of_lt (hl e he).2), Bool.true_or]
  have hdrop : (standWith cands allowed c ps indent outer).dropLapsed
      = .ok (stand allowed c ps indent outer) :=
    dropLapsed_of_lapsed fun e he ↦ ⟨(hl e he).1, hlapsed e he⟩
  have hwith : (standWith cands allowed c ps indent outer).skipToLexeme
      = standWith cands allowed c ps indent outer := skipToLexeme_of_starts h
  have hstand : (stand allowed c ps indent outer).skipToLexeme
      = stand allowed c ps indent outer := skipToLexeme_of_starts h
  refine hr.congr standingWith ?_ (Nat.le_refl _) (Nat.le_refl _) (Nat.le_refl _)
  rw [fetchNext, fetchNext, hwith, hstand, hdrop, dropLapsed_of_nil rfl]

/-- A step that leaves candidates which need not be keys. -/
theorem runs_of_fetchLexeme_with {allowed' : Bool} {ps' : List Token} {m : Nat}
    (hstart : StartsLexeme c.rest) (hi : indent ≤ c.mark.column)
    (h : (stand allowed c ps indent outer).fetchLexeme
      = .ok (standWith cands allowed' (c.advance m) ps' indent outer))
    (hm : 0 < m) (hne : c.rest ≠ []) (hp : ps'.length = ps.length + 1)
    (hl : ∀ e ∈ cands, e.2.required = false)
    (hr : ∀ cands' : List (Nat × KeyCandidate), cands' ⊆ cands →
      Runs (standWith cands' allowed' (c.advance m) ps' indent outer) r) :
    Runs (stand allowed c ps indent outer) r := by
  have hpos := List.length_pos_iff.mpr hne
  have hlen : (c.advance m).rest.length < c.rest.length := by
    rw [rest_advance, List.length_drop]
    omega
  refine .step standing ((fetchNext_of_starts hstart (dropLapsed_of_nil rfl) hi).trans h) rfl ?_
    hlen ?_ (dropLapsed_standWith _ _ _ _ _ hl) (hr _ fun e he ↦ (List.mem_filter.mp he).1)
  · change ps.length < ps'.length
    omega
  · rw [weight_stand, weight_standWith]
    omega

/-! ## Scalars as values -/

def scalarToken (plain : Bool) (s w : List Char) (c : Cursor) : Token :=
  ⟨.scalar (String.ofList s) plain, c.mark, (c.advance w.length).mark⟩

theorem fetchQuoted_stand {double : Bool} (h : readQuoted double c = .ok (s, c.advance n)) :
    (stand allowed c ps indent outer).fetchQuoted double = .ok (standWith
      (noted allowed c ps indent) false (c.advance n)
      (ps ++ [⟨.scalar (String.ofList s) false, c.mark, (c.advance n).mark⟩]) indent outer) := by
  rw [fetchQuoted, noteCandidate_stand, ok_bind]
  change readQuoted double c >>= _ = _
  rw [h, ok_bind]
  rfl

theorem fetchLexeme_quoted (h : ScalarBody k false s w) (hc : c.rest = w ++ y :: rest)
    (hy : y ≠ '\x27') : (stand allowed c ps indent outer).fetchLexeme = .ok (standWith
      (noted allowed c ps indent) false (c.advance w.length) (ps ++ [scalarToken false s w c])
      indent outer) := by
  cases h with
  | @single _ b h =>
    have hc' : c.rest = '\x27' :: (b ++ '\x27' :: y :: rest) := by
      rw [hc, List.cons_append, List.append_assoc]
      rfl
    have hlen : ('\x27' :: (b ++ ['\x27'])).length = b.length + 2 := by
      rw [List.length_cons, List.length_append]
      rfl
    rw [fetchLexeme_single hc', fetchQuoted_stand (readQuoted_single h hc' hy), scalarToken, hlen]
  | @double _ b h =>
    have hc' : c.rest = '"' :: (b ++ '"' :: y :: rest) := by
      rw [hc, List.cons_append, List.append_assoc]
      rfl
    have hlen : ('"' :: (b ++ ['"'])).length = b.length + 2 := by
      rw [List.length_cons, List.length_append]
      rfl
    rw [fetchLexeme_double hc', fetchQuoted_stand (readQuoted_double h hc'), scalarToken, hlen]

/-- A plain scalar is taken as far as its words go. -/
theorem fetchLexeme_plainBody {fresh : Bool} {m : Nat} (h : PlainBody (k + 2) s w)
    (ho : OpensPlain w) (hc : c.rest = w ++ y :: rest) (hy : y ≠ '-' ∧ y ≠ '.')
    (hread : readPlain false (indent + 1) c
      = (⟨s, (c.advance w.length).mark, fresh⟩, c.advance m)) :
    (stand allowed c ps indent outer).fetchLexeme = .ok (standWith
      (noted allowed c ps indent) fresh (c.advance m) (ps ++ [scalarToken true s w c])
      indent outer) := by
  obtain ⟨x, v, hw, hx⟩ := h.head
  have hcx : (stand allowed c ps indent outer).cursor.rest = x :: (v ++ y :: rest) := by
    change c.rest = _
    rw [hc, hw]
    rfl
  rw [fetchLexeme_plain hcx rfl (ho.first x (by rw [hw]; rfl)).1 hx ?_ (ho.atMarker hc hy),
    fetchPlain, noteCandidate_stand, ok_bind]
  · have hread' : readPlain
        (0 < (standWith (noted allowed c ps indent) allowed c ps indent outer).flow)
        ((standWith (noted allowed c ps indent) allowed c ps indent outer).indent + 1)
        (standWith (noted allowed c ps indent) allowed c ps indent outer).cursor
        = (⟨s, (c.advance w.length).mark, fresh⟩, c.advance m) := hread
    rw [hread']
    rfl
  · intro hspecial
    obtain ⟨z, v', hv, hz⟩ := ho.second x v hw hspecial
    rw [hv]
    exact hz

/-- A quoted scalar that ends its line. The candidate it is noted as lapses with the line. -/
theorem runs_quoted {j : Nat} (h : ScalarBody k false s w)
    (hc : c.rest = w ++ '\n' :: (List.replicate j ' ' ++ rest)) (hf : StartsLexeme rest)
    (hi : indent < c.mark.column)
    (hr : Runs (stand true (c.advance (w.length + (1 + j))) (ps ++ [scalarToken false s w c])
      indent outer) r) :
    Runs (stand allowed c ps indent outer) r := by
  have hstart : StartsLexeme c.rest := by
    rw [hc]
    exact h.starts
  have hne : c.rest ≠ [] := by
    rw [hc]
    exact List.append_ne_nil_of_left_ne_nil h.ne_nil _
  refine runs_of_fetchLexeme_with hstart (Int.le_of_lt hi) (fetchLexeme_quoted h hc (by decide))
    (List.length_pos_iff.mpr h.ne_nil) hne (List.length_append ..)
    (fun e he ↦ (noted_optional hi e he).1) fun cands hsub ↦ ?_
  refine runs_endLine (rest_advance_of_append hc) hf (fun e he ↦ ?_) ?_
  · obtain ⟨hreq, hmark⟩ := noted_optional hi e (hsub he)
    exact ⟨hreq, hmark ▸ line_le_advance c w.length⟩
  · rw [advance_advance]
    exact hr

/-- A plain scalar is read with the line break after it, so nothing is left of its line. -/
theorem runs_plain {j : Nat} (h : PlainBody (k + 2) s w) (ho : OpensPlain w)
    (hc : c.rest = w ++ '\n' :: (List.replicate j ' ' ++ rest)) (hf : Follows j rest)
    (hk : indent ≤ k) (hi : indent < c.mark.column) (hj : j ≤ indent)
    (hr : Runs (stand true (c.advance (w.length + (1 + j))) (ps ++ [scalarToken true s w c])
      indent outer) r) :
    Runs (stand allowed c ps indent outer) r := by
  have hbody : ScalarBody k true s w := .plain h ho
  have hstart : StartsLexeme c.rest := by
    rw [hc]
    exact hbody.starts
  have hne : c.rest ≠ [] := by
    rw [hc]
    exact List.append_ne_nil_of_left_ne_nil hbody.ne_nil _
  have hafter : (c.advance w.length).rest = '\n' :: (List.replicate j ' ' ++ rest) :=
    rest_advance_of_append hc
  have hbelow : (c.advance (w.length + 1)).rest = List.replicate j ' ' ++ rest := by
    rw [← advance_advance]
    exact rest_advance_one hafter
  -- The reader looks below the scalar for a marker, which no lexeme that follows begins with.
  have hmarker : (c.advance (w.length + 1)).atMarker = false := by
    rw [Cursor.atMarker, ahead, hbelow]
    cases j with
    | zero =>
      obtain ⟨hdash, hdot⟩ := hf.marker rfl
      simp [hdash, hdot]
    | succ j => rfl
  have hread : readPlain false (indent + 1) c = (⟨s, (c.advance w.length).mark, true⟩,
      c.advance (w.length + (1 + j))) := readPlain_line h hc
    (fun x hx ↦ ⟨(hf.starts x hx).1, (hf.starts x hx).2.2.2⟩) hmarker (by omega)
    (fun heq ↦ ho.head_ne heq rfl) (by omega) (by omega)
  have hrest : (c.advance (w.length + (1 + j))).rest = rest := by
    rw [← advance_advance]
    exact rest_advance_newLine hafter
  have hline := mark_advance_newLine hafter
  rw [advance_advance] at hline
  refine runs_of_fetchLexeme_with hstart (Int.le_of_lt hi)
    (fetchLexeme_plainBody h ho hc (by decide) hread) (by omega) hne (List.length_append ..)
    (fun e he ↦ (noted_optional hi e he).1) fun cands hsub ↦
      runs_lapsed (by rw [hrest]; exact hf.starts) (fun e he ↦ ?_) hr
  obtain ⟨hreq, hmark⟩ := noted_optional hi e (hsub he)
  refine ⟨hreq, ?_⟩
  rw [hmark, hline]
  exact Nat.lt_succ_of_le (line_le_advance c w.length)

/-- **A scalar as a value** is one token. -/
theorem runs_scalar {j : Nat} (h : ScalarBody k plain s w)
    (hc : c.rest = w ++ '\n' :: (List.replicate j ' ' ++ rest)) (hf : Follows j rest)
    (hk : indent ≤ k) (hi : indent < c.mark.column) (hj : j ≤ indent)
    (hr : Runs (stand true (c.advance (w.length + (1 + j))) (ps ++ [scalarToken plain s w c])
      indent outer) r) :
    Runs (stand allowed c ps indent outer) r := by
  cases h with
  | plain h ho => exact runs_plain h ho hc hf hk hi hj hr
  | single h => exact runs_quoted (k := k) (.single h) hc hf.starts hi hr
  | double h => exact runs_quoted (k := k) (.double h) hc hf.starts hi hr

/-! ## Empty brackets -/

/-- The scanner after an opening bracket. -/
def bracketed (cands : List (Nat × KeyCandidate)) (c : Cursor) (ps : List Token) (indent : Int)
    (outer : List Int) : Scanner :=
  { standWith cands true c ps indent outer with flow := 1 }

private theorem fetchFlowStart_stand (kind : Token.Kind) :
    (stand allowed c ps indent outer).fetchFlowStart kind = .ok (bracketed
      (noted allowed c ps indent) (c.advance 1) (ps ++ [⟨kind, c.mark, (c.advance 1).mark⟩])
      indent outer) := by
  rw [fetchFlowStart, noteCandidate_stand, ok_bind]
  rfl

private theorem fetchFlowEnd_bracketed (kind : Token.Kind) (h : ∀ e ∈ cands, e.1 = 0) :
    (bracketed cands c ps indent outer).fetchFlowEnd kind = .ok (standWith cands false (c.advance 1)
      (ps ++ [⟨kind, c.mark, (c.advance 1).mark⟩]) indent outer) := by
  have hnone : (bracketed cands c ps indent outer).candidate? = none := by
    change cands.lookup 1 = none
    refine List.lookup_eq_none_iff.mpr fun e he ↦ ?_
    rw [h e he]
    decide
  rw [fetchFlowEnd, dropCandidate, hnone, ok_bind]
  rfl

theorem dropLapsed_bracketed (h : ∀ e ∈ cands, e.2.required = false) :
    (bracketed cands c ps indent outer).dropLapsed = .ok (bracketed
      (cands.filter fun e ↦ !(bracketed cands c ps indent outer).lapsed e.2)
      c ps indent outer) := dropLapsed_of_optional h

theorem length_rest_lt_of_cons (h : c.rest = x :: rest) :
    (c.advance 1).rest.length < c.rest.length := by
  rw [rest_advance_one h, h]
  exact Nat.lt_succ_self _

private theorem runs_closeBracket {closer : Token.Kind} (hc : c.rest = y :: rest)
    (hy : y = ']' ∧ closer = .flowSequenceEnd ∨ y = '\x7d' ∧ closer = .flowMappingEnd)
    (hl : ∀ e ∈ cands, e.1 = 0 ∧ e.2.required = false)
    (hr : ∀ cands', cands' ⊆ cands → Runs (standWith cands' false (c.advance 1)
      (ps ++ [⟨closer, c.mark, (c.advance 1).mark⟩]) indent outer) r) :
    Runs (bracketed cands c ps indent outer) r := by
  have hstart : StartsLexeme c.rest := by
    rw [hc]
    rcases hy with ⟨rfl, -⟩ | ⟨rfl, -⟩ <;> exact startsLexeme_cons (by decide)
  have hskip : (bracketed cands c ps indent outer).skipToLexeme
      = bracketed cands c ps indent outer := skipToLexeme_of_starts hstart
  have hclose : ∀ t : Scanner, t.cursor = c → t.fetchLexeme = t.fetchFlowEnd closer := by
    intro t ht
    rcases hy with ⟨rfl, rfl⟩ | ⟨rfl, rfl⟩
    · exact fetchLexeme_closeSeq (by rw [ht]; exact hc)
    · exact fetchLexeme_closeMap (by rw [ht]; exact hc)
  -- Candidates may lapse before the bracket is read; those that stay are among the given ones.
  have hsub : ∀ e ∈ cands.filter fun e ↦ !(bracketed cands c ps indent outer).lapsed e.2,
      e ∈ cands := fun e he ↦ (List.mem_filter.mp he).1
  have hnext : (bracketed cands c ps indent outer).fetchNext = .ok (standWith
      (cands.filter fun e ↦ !(bracketed cands c ps indent outer).lapsed e.2) false (c.advance 1)
      (ps ++ [⟨closer, c.mark, (c.advance 1).mark⟩]) indent outer) := by
    rw [fetchNext, hskip, dropLapsed_bracketed fun e he ↦ (hl e he).2, ok_bind]
    exact (hclose _ rfl).trans (fetchFlowEnd_bracketed closer fun e he ↦ (hl e (hsub e he)).1)
  have hlen := length_rest_lt_of_cons hc
  refine .step ⟨rfl, rfl⟩ hnext rfl ?_ hlen ?_
    (dropLapsed_standWith _ _ _ _ _ fun e he ↦ (hl e (hsub e he)).2) (hr _ fun e he ↦ ?_)
  · change ps.length < (ps ++ [_]).length
    rw [List.length_append]
    exact Nat.lt_succ_self _
  · change (ps ++ [_]).length + outer.length + 5 * (c.advance 1).rest.length
      ≤ ps.length + outer.length + 5 * c.rest.length
    rw [List.length_append, List.length_singleton]
    omega
  · exact hsub e (List.mem_filter.mp he).1

/-- **An empty pair of brackets** is two tokens. -/
theorem runs_brackets {opener closer : Token.Kind} {j : Nat}
    (hc : c.rest = x :: y :: '\n' :: (List.replicate j ' ' ++ rest)) (hf : StartsLexeme rest)
    (hxy : x = '[' ∧ y = ']' ∧ opener = .flowSequenceStart ∧ closer = .flowSequenceEnd ∨
      x = '\x7b' ∧ y = '\x7d' ∧ opener = .flowMappingStart ∧ closer = .flowMappingEnd)
    (hi : indent < c.mark.column)
    (hr : Runs (stand true (c.advance (2 + (1 + j))) (ps ++ [⟨opener, c.mark, (c.advance 1).mark⟩]
      ++ [⟨closer, (c.advance 1).mark, (c.advance 2).mark⟩]) indent outer) r) :
    Runs (stand allowed c ps indent outer) r := by
  have hafter₁ : (c.advance 1).rest = y :: '\n' :: (List.replicate j ' ' ++ rest) :=
    rest_advance_one hc
  have hafter₂ : ((c.advance 1).advance 1).rest = '\n' :: (List.replicate j ' ' ++ rest) :=
    rest_advance_one hafter₁
  have hstart : StartsLexeme c.rest := by
    rw [hc]
    rcases hxy with ⟨rfl, -⟩ | ⟨rfl, -⟩ <;> exact startsLexeme_cons (by decide)
  have hopen : (stand allowed c ps indent outer).fetchLexeme
      = (stand allowed c ps indent outer).fetchFlowStart opener := by
    rcases hxy with ⟨rfl, -, rfl, -⟩ | ⟨rfl, -, rfl, -⟩
    · exact fetchLexeme_openSeq hc
    · exact fetchLexeme_openMap hc
  have hclose : y = ']' ∧ closer = .flowSequenceEnd ∨ y = '\x7d' ∧ closer = .flowMappingEnd := by
    rcases hxy with ⟨-, hy, -, hk⟩ | ⟨-, hy, -, hk⟩
    · exact .inl ⟨hy, hk⟩
    · exact .inr ⟨hy, hk⟩
  have hnoted : ∀ e ∈ noted allowed c ps indent,
      e.1 = 0 ∧ e.2.required = false ∧ e.2.mark = c.mark :=
    fun e he ↦ ⟨by rw [mem_noted he], noted_optional hi e he⟩
  have hlen := length_rest_lt_of_cons hc
  -- The opening bracket is one step. The candidate that it is noted as stands on this line, so it
  -- lapses with the line break behind the closing bracket.
  refine .step standing ((fetchNext_of_starts hstart (dropLapsed_of_nil rfl)
    (Int.le_of_lt hi)).trans (hopen.trans (fetchFlowStart_stand opener))) rfl ?_ hlen ?_
    (dropLapsed_bracketed fun e he ↦ (hnoted e he).2.1)
    (runs_closeBracket hafter₁ hclose (fun e he ↦ ?_) fun cands hsub ↦ ?_)
  · change ps.length < (ps ++ [_]).length
    rw [List.length_append]
    exact Nat.lt_succ_self _
  · change (ps ++ [_]).length + outer.length + 5 * (c.advance 1).rest.length
      ≤ ps.length + outer.length + 5 * c.rest.length
    rw [List.length_append, List.length_singleton]
    omega
  · obtain ⟨hzero, hreq, -⟩ := hnoted e (List.mem_filter.mp he).1
    exact ⟨hzero, hreq⟩
  · refine runs_endLine hafter₂ hf (fun e he ↦ ?_) ?_
    · obtain ⟨-, hreq, hmark⟩ := hnoted e (List.mem_filter.mp (hsub he)).1
      refine ⟨hreq, ?_⟩
      rw [hmark, advance_advance]
      exact line_le_advance c 2
    · have htwo : (c.advance 1).advance 1 = c.advance 2 := advance_advance c 1 1
      rw [htwo, advance_advance]
      exact hr

/-! ## Keys on one line with their colon -/

/-- The candidate that a key is. -/
def keyCandidate (c : Cursor) (ps : List Token) (indent : Int) : KeyCandidate :=
  ⟨ps.length, indent == c.mark.column, c.mark⟩

/-- The tokens of a key on one line: the mapping it opens, the key and its text. -/
def keyTokensAt (c : Cursor) (indent : Int) (n : Nat) (x : Token) : List Token :=
  opening .blockMappingStart indent n c.mark ++ [.here .key c.mark, x]

theorem length_keyTokensAt_le (c : Cursor) (indent : Int) (n : Nat) (x : Token) :
    2 ≤ (keyTokensAt c indent n x).length ∧ (keyTokensAt c indent n x).length ≤ 3 := by
  have h := length_opening_le .blockMappingStart indent n c.mark
  rw [keyTokensAt, List.length_append]
  exact ⟨Nat.le_add_left _ _, Nat.add_le_add_right h 2⟩

private theorem afterColon_standWith {x : Token} (hn : c.mark.column = n) (hi : indent ≤ n) :
    (standWith (noted true c ps indent) false c' (ps ++ [x]) indent outer).afterColon
      (keyCandidate c ps indent) = stand false (c'.advance 1)
      (ps ++ keyTokensAt c indent n x ++ [⟨.value, c'.mark, (c'.advance 1).mark⟩])
      n (around indent n outer) := by
  have hflow : (standWith (noted true c ps indent) false c' (ps ++ [x]) indent outer).flow
      = 0 := rfl
  have hindent : (standWith (noted true c ps indent) false c' (ps ++ [x]) indent outer).indent
      = indent := rfl
  have hcolumn : ((keyCandidate c ps indent).mark.column : Int) = n := congrArg Nat.cast hn
  have hplace : (keyCandidate c ps indent).token
      - (standWith (noted true c ps indent) false c' (ps ++ [x]) indent outer).taken
      = ps.length := rfl
  rw [afterColon, keyTokens, hplace, hcolumn, hflow, hindent, keyTokensAt, opening, around]
  change Scanner.mk _ _ ((if 0 = 0 ∧ indent < n then insertAt ps.length _ (insertAt ps.length _
    (ps ++ [x])) else insertAt ps.length _ (ps ++ [x])) ++ _) _ _ _ _ _ _ _ = _
  rw [insertAt_length, insertAt_length]
  -- A key beyond the indentation opens a block, whose token goes before that of the key.
  by_cases h : indent < n
  · have h' : 0 = 0 ∧ indent < n := ⟨rfl, h⟩
    rw [if_pos h', if_pos h', if_pos h', if_pos h, if_pos h]
    simp [stand, standWith, noted, Token.here, keyCandidate, Scanner.mark]
  · have h' : ¬(0 = 0 ∧ indent < n) := fun hand ↦ h hand.2
    rw [if_neg h', if_neg h', if_neg h', if_neg h, if_neg h]
    have heq : indent = n := Int.le_antisymm hi (Int.not_lt.mp h)
    simp [stand, standWith, noted, Token.here, keyCandidate, heq, Scanner.mark]

private theorem fetchLexeme_key (h : ScalarBody k plain s w) (hc : c.rest = w ++ ':' :: y :: rest)
    (hy : endsWord y = true) (hi : indent ≤ c.mark.column) (hk : indent ≤ k) :
    (stand allowed c ps indent outer).fetchLexeme = .ok (standWith
      (noted allowed c ps indent) false (c.advance w.length) (ps ++ [scalarToken plain s w c])
      indent outer) := by
  cases hp : plain with
  | false =>
    rw [hp] at h
    exact fetchLexeme_quoted h hc (by decide)
  | true =>
    rw [hp] at h
    cases h with
    | plain h ho =>
      exact fetchLexeme_plainBody h ho hc (by decide)
        (readPlain_key h hc hy (fun heq ↦ ho.head_ne heq rfl) (by omega) (by omega))

/-- The scanner between a key and its colon. -/
def atColon (c : Cursor) (ps : List Token) (indent : Int) (outer : List Int) (x : Token) (m : Nat) :
    Scanner :=
  standWith [(0, keyCandidate c ps indent)] false (c.advance m) (ps ++ [x]) indent outer

theorem lapsed_keyCandidate (hc : c.rest = w ++ rest) (hw : ∀ x ∈ w, isBreak x = false)
    (x : Token) (ps : List Token) (indent : Int) (outer : List Int) :
    (atColon c ps indent outer x w.length).lapsed (keyCandidate c ps indent)
      = decide (1024 < w.length) := by
  have hindex : (c.advance w.length).mark.index - c.mark.index = w.length := by
    rw [index_advance (by rw [hc, List.length_append]; exact Nat.le_add_right _ _)]
    exact Nat.add_sub_cancel_left _ _
  change (c.mark.line != (c.advance w.length).mark.line ||
    decide (1024 < (c.advance w.length).mark.index - c.mark.index)) = _
  rw [line_advance_of_append hc hw, bne_self_eq_false, Bool.false_or, hindex]

theorem dropLapsed_atColon {x : Token} (hc : c.rest = w ++ rest) (hw : ∀ x ∈ w, isBreak x = false)
    (hlen : w.length ≤ 1024) : (atColon c ps indent outer x w.length).dropLapsed
      = .ok (atColon c ps indent outer x w.length) := by
  refine clean_of_live fun e he ↦ ?_
  rw [List.mem_singleton.mp he, lapsed_keyCandidate hc hw]
  exact decide_eq_false (Nat.not_lt.mpr hlen)

private theorem fetchNext_atColon {x : Token} (hc : c.rest = w ++ ':' :: y :: rest)
    (hw : ∀ x ∈ w, isBreak x = false) (hlen : w.length ≤ 1024) (hy : endsWord y = true)
    (hn : c.mark.column = n) (hi : indent ≤ n) :
    (atColon c ps indent outer x w.length).fetchNext = .ok (stand false (c.advance (w.length + 1))
      (ps ++ keyTokensAt c indent n x ++
        [⟨.value, (c.advance w.length).mark, (c.advance (w.length + 1)).mark⟩])
      n (around indent n outer)) := by
  have hcolon : (c.advance w.length).rest = ':' :: y :: rest := rest_advance_of_append hc
  have hstart : StartsLexeme (atColon c ps indent outer x w.length).cursor.rest := by
    change StartsLexeme (c.advance w.length).rest
    rw [hcolon]
    exact startsLexeme_cons (by decide)
  have hcolumn : c.mark.column ≤ (c.advance w.length).mark.column :=
    column_le_advance_of_append hc hw
  have hindent : (atColon c ps indent outer x w.length).indent
      ≤ (atColon c ps indent outer x w.length).mark.column := by
    change indent ≤ (c.advance w.length).mark.column
    omega
  rw [fetchNext_of_starts hstart (dropLapsed_atColon hc hw hlen) hindent,
    fetchLexeme_colon hcolon hy rfl, fetchValue_of_candidate (k := keyCandidate c ps indent) rfl,
    atColon, ← advance_advance c w.length 1]
  exact congrArg Except.ok (afterColon_standWith hn hi)

theorem fetchNext_key (h : ScalarBody k plain s w) (hc : c.rest = w ++ ':' :: y :: rest)
    (hy : endsWord y = true) (hi : indent ≤ c.mark.column) (hk : indent ≤ k) :
    (stand true c ps indent outer).fetchNext
      = .ok (atColon c ps indent outer (scalarToken plain s w c) w.length) := by
  have hstart : StartsLexeme c.rest := by
    rw [hc]
    exact h.starts
  exact (fetchNext_of_starts hstart (dropLapsed_of_nil rfl) hi).trans
    (fetchLexeme_key h hc hy hi hk)

theorem length_append_singleton (ps : List Token) (x : Token) :
    (ps ++ [x]).length = ps.length + 1 := by
  rw [List.length_append, List.length_singleton]

theorem length_rest_advance_of_append (hc : c.rest = w ++ rest) :
    (c.advance w.length).rest.length + w.length = c.rest.length := by
  rw [rest_advance_of_append hc, hc, List.length_append]
  exact Nat.add_comm _ _

/-- **A key of at most 1024 characters** is the key of a mapping. -/
theorem runs_simpleKey (h : ScalarBody k plain s w) (hw : ∀ x ∈ w, isBreak x = false)
    (hlen : w.length ≤ 1024) (hc : c.rest = w ++ ':' :: y :: rest) (hy : endsWord y = true)
    (hn : c.mark.column = n) (hi : indent ≤ n) (hk : indent ≤ k)
    (hr : Runs (stand false (c.advance (w.length + 1)) (ps ++
      keyTokensAt c indent n (scalarToken plain s w c) ++
      [⟨.value, (c.advance w.length).mark, (c.advance (w.length + 1)).mark⟩])
      n (around indent n outer)) r) :
    Runs (stand true c ps indent outer) r := by
  have hcolumn : indent ≤ c.mark.column := by rw [hn]; exact hi
  have hcolon : (c.advance w.length).rest = ':' :: y :: rest := rest_advance_of_append hc
  have hpos : 0 < w.length := List.length_pos_iff.mpr h.ne_nil
  have hlen₁ := length_rest_advance_of_append hc
  have hlen₂ : (c.advance (w.length + 1)).rest.length + 1 = (c.advance w.length).rest.length := by
    rw [← advance_advance, rest_advance_one hcolon, hcolon]
    rfl
  have hkey := length_keyTokensAt_le c indent n (scalarToken plain s w c)
  have haround := length_around_le indent n outer
  have hps := length_append_singleton ps (scalarToken plain s w c)
  have hqs := length_append_singleton (ps ++ keyTokensAt c indent n (scalarToken plain s w c))
    ⟨.value, (c.advance w.length).mark, (c.advance (w.length + 1)).mark⟩
  have hks : (ps ++ keyTokensAt c indent n (scalarToken plain s w c)).length
      = ps.length + (keyTokensAt c indent n (scalarToken plain s w c)).length := List.length_append
  -- One step to the colon, where the key is still a candidate, and one over it.
  refine .step standing (fetchNext_key h hc hy hcolumn hk) rfl ?_ ?_ ?_
    (dropLapsed_atColon hc hw hlen) (.step standingWith
      (fetchNext_atColon hc hw hlen hy hn hi) rfl ?_ ?_ ?_ (dropLapsed_of_nil rfl) hr)
  · change ps.length < (ps ++ [scalarToken plain s w c]).length
    rw [hps]
    exact Nat.lt_succ_self _
  · change (c.advance w.length).rest.length < c.rest.length
    omega
  · rw [weight_stand, atColon, weight_standWith, hps]
    omega
  · change (ps ++ [scalarToken plain s w c]).length < (ps ++ keyTokensAt c indent n
      (scalarToken plain s w c) ++ [_]).length
    rw [hps, hqs, hks]
    omega
  · change (c.advance (w.length + 1)).rest.length < (c.advance w.length).rest.length
    omega
  · rw [weight_stand, atColon, weight_standWith, hps, hqs, hks]
    omega

private theorem runs_longKey_required (h : ScalarBody k plain s w) (hw : ∀ x ∈ w, isBreak x = false)
    (hlen : 1024 < w.length) (hc : c.rest = w ++ ':' :: y :: rest) (hy : endsWord y = true)
    (hn : c.mark.column = n) (hi : indent = n) (hk : indent ≤ k) :
    Runs (stand true c ps indent outer) none := by
  have hlen₁ := length_rest_advance_of_append hc
  have hlapsed := lapsed_keyCandidate hc hw (scalarToken plain s w c) ps indent outer
  rw [decide_eq_true hlen] at hlapsed
  -- In the column of its block the candidate has to be a key, so its lapse is a fault.
  have hrequired : (keyCandidate c ps indent).required = true := by
    change (indent == (c.mark.column : Int)) = true
    rw [hn, hi, beq_self_eq_true]
  have hfind : ([(0, keyCandidate c ps indent)].find? fun e ↦ (atColon c ps indent outer
      (scalarToken plain s w c) w.length).lapsed e.2 && e.2.required)
      = some (0, keyCandidate c ps indent) :=
    List.find?_cons_of_pos (by rw [hlapsed, hrequired]; rfl)
  have hcolumn : indent ≤ c.mark.column := by omega
  refine .late standing (fetchNext_key h hc hy hcolumn hk) rfl ?_ ?_
    (dropLapsed_of_some hfind)
  · change ps.length < (ps ++ [scalarToken plain s w c]).length
    rw [length_append_singleton]
    exact Nat.lt_succ_self _
  · change (c.advance w.length).rest.length < c.rest.length
    omega

/-- A longer key that need not be one is a value, and no value is allowed at its colon. -/
theorem runs_longKey_optional (h : ScalarBody k plain s w) (hw : ∀ x ∈ w, isBreak x = false)
    (hlen : 1024 < w.length) (hc : c.rest = w ++ ':' :: y :: rest) (hy : endsWord y = true)
    (hi : indent < c.mark.column) (hk : indent ≤ k) :
    Runs (stand true c ps indent outer) none := by
  have hcolon : (c.advance w.length).rest = ':' :: y :: rest := rest_advance_of_append hc
  have hlen₁ := length_rest_advance_of_append hc
  have hps := length_append_singleton ps (scalarToken plain s w c)
  have hcolumn : c.mark.column ≤ (c.advance w.length).mark.column :=
    column_le_advance_of_append hc hw
  -- The candidate lapses before the colon, which is then one without a key.
  have hlapsed := lapsed_keyCandidate hc hw (scalarToken plain s w c) ps indent outer
  rw [decide_eq_true hlen] at hlapsed
  have hdrop : (atColon c ps indent outer (scalarToken plain s w c) w.length).dropLapsed
      = .ok (stand false (c.advance w.length) (ps ++ [scalarToken plain s w c]) indent outer) := by
    refine dropLapsed_of_lapsed fun e he ↦ ?_
    rw [List.mem_singleton.mp he]
    exact ⟨beq_false_of_ne (Int.ne_of_lt hi), hlapsed⟩
  refine .step standing (fetchNext_key h hc hy (Int.le_of_lt hi) hk) rfl ?_ ?_ ?_ hdrop
    (.fault (f := misplaced (stand false (c.advance w.length) (ps ++ [scalarToken plain s w c])
      indent outer) .valueNotAllowed) ⟨rfl, rfl⟩ ?_)
  · change ps.length < (ps ++ [scalarToken plain s w c]).length
    omega
  · change (c.advance w.length).rest.length < c.rest.length
    omega
  · rw [weight_stand, atColon, weight_standWith, hps]
    omega
  · have hstart : StartsLexeme (c.advance w.length).rest := by
      rw [hcolon]
      exact startsLexeme_cons (by decide)
    have hbelow : indent ≤ (c.advance w.length).mark.column := by omega
    rw [fetchNext_of_starts hstart (dropLapsed_of_nil rfl) hbelow, fetchLexeme_colon hcolon hy rfl]
    rfl

/-- **A longer key** ends the run: either it has to be a key and has lapsed, or its colon stands
where no value is allowed. -/
theorem runs_longKey (h : ScalarBody k plain s w) (hw : ∀ x ∈ w, isBreak x = false)
    (hlen : 1024 < w.length) (hc : c.rest = w ++ ':' :: y :: rest) (hy : endsWord y = true)
    (hn : c.mark.column = n) (hi : indent ≤ n) (hk : indent ≤ k) :
    Runs (stand true c ps indent outer) none := by
  by_cases hrequired : indent = n
  · exact runs_longKey_required h hw hlen hc hy hn hrequired hk
  · exact runs_longKey_optional h hw hlen hc hy (by omega) hk

end Scanner

end GatewayPrint.Yaml
