import GatewayPrint.Proofs.Association
import GatewayPrint.Proofs.Outcome
import GatewayPrint.Yaml.TokenStream

/-!
# Tokens that are settled

A scanner hands a token over once no candidate for a key stands at it or before it. From then on the
token does not matter: a step of the scanner does the same whether the settled tokens are still
pending or not (`Scanner.blind_fetchNext`). So the tokens of a stream can be described as if they
all stayed pending to the end.

The end of the stream is a token that only the last step brings.
-/

namespace GatewayPrint.Yaml.Scanner

open Outcome

variable {s t : Scanner} {j : Nat}

/-- The scanner after its first `j` pending tokens are handed over. -/
def shift (j : Nat) (s : Scanner) : Scanner :=
  { s with pending := s.pending.drop j, taken := s.taken + j }

/-- No candidate for a key stands at one of the first `j` pending tokens. -/
def Settled (j : Nat) (s : Scanner) : Prop :=
  j ≤ s.pending.length ∧ ∀ e ∈ s.candidates, s.taken + j ≤ e.2.token

/-- The end of the stream is not among the tokens before the last step. -/
def NotEnded (s : Scanner) : Prop :=
  s.done = false → ∀ t ∈ s.pending, t.kind ≠ .streamEnd

/-- A step that does not depend on settled tokens, leaves them as they are, and brings the end of
the stream only when it is the last one. -/
structure Blind (f : Scanner → Except Fault Scanner) : Prop where
  shift : ∀ {j s}, Settled j s → f (s.shift j) = (f s).map (Scanner.shift j)
  settled : ∀ {j s t}, Settled j s → f s = .ok t →
    Settled j t ∧ t.pending.take j = s.pending.take j
  taken : ∀ {s t}, f s = .ok t → t.taken = s.taken
  notEnded : ∀ {s t}, f s = .ok t → s.NotEnded → t.NotEnded

namespace Blind

variable {α : Type} {f g : Scanner → Except Fault Scanner}

/-- Steps that append tokens. A candidate that is added stands at the first of them. -/
theorem append {g : Scanner → Scanner} (ts : Scanner → List Token)
    (hpending : ∀ s, (g s).pending = s.pending ++ ts s) (htaken : ∀ s, (g s).taken = s.taken)
    (hcandidates : ∀ s, ∀ e ∈ (g s).candidates,
      e ∈ s.candidates ∨ e.2.token = s.taken + s.pending.length)
    (hdone : ∀ s, (g s).done = true ∨ (g s).done = s.done ∧ ∀ t ∈ ts s, t.kind ≠ .streamEnd)
    (hshift : ∀ s j, j ≤ s.pending.length → g (s.shift j) = (g s).shift j) :
    Blind fun s ↦ .ok (g s) where
  shift := by
    intro j s h
    exact congrArg Except.ok (hshift s j h.1)
  settled := by
    intro j s t h ht
    cases ht
    refine ⟨⟨?_, ?_⟩, ?_⟩
    · rw [hpending, List.length_append]
      exact Nat.le_trans h.1 (Nat.le_add_right _ _)
    · intro e he
      rw [htaken]
      -- A new candidate stands behind all pending tokens, and the settled ones are among these.
      rcases hcandidates s e he with he | he
      · exact h.2 e he
      · rw [he]
        exact Nat.add_le_add_left h.1 _
    · rw [hpending, List.take_append_of_le_length h.1]
  taken := by
    intro s t ht
    cases ht
    exact htaken s
  notEnded := by
    intro s t ht h hdone'
    cases ht
    rcases hdone s with hd | ⟨hd, hts⟩
    · rw [hd] at hdone'
      cases hdone'
    · intro t ht
      rw [hpending] at ht
      rcases List.mem_append.mp ht with ht | ht
      · exact h (hd ▸ hdone') t ht
      · exact hts t ht

/-- Steps that append no tokens and no candidates. -/
theorem quiet {g : Scanner → Scanner} (hpending : ∀ s, (g s).pending = s.pending)
    (htaken : ∀ s, (g s).taken = s.taken) (hcandidates : ∀ s, (g s).candidates ⊆ s.candidates)
    (hdone : ∀ s, (g s).done = s.done) (hshift : ∀ s j, g (s.shift j) = (g s).shift j) :
    Blind fun s ↦ .ok (g s) :=
  append (fun _ ↦ []) (fun s ↦ by rw [hpending, List.append_nil]) htaken
    (fun s _ he ↦ .inl (hcandidates s he))
    (fun s ↦ .inr ⟨hdone s, fun _ ht ↦ absurd ht List.not_mem_nil⟩) fun s j _ ↦ hshift s j

theorem comp (hf : Blind f) (hg : Blind g) : Blind fun s ↦ f s >>= g where
  shift := by
    intro j s h
    have hs := hf.shift h
    cases hfs : f s with
    | error e =>
      rw [hfs] at hs
      exact congrArg (· >>= g) hs
    | ok t =>
      rw [hfs] at hs
      -- The first step leaves the tokens settled, which is what the second one asks for.
      exact (congrArg (· >>= g) hs).trans (hg.shift (hf.settled h hfs).1)
  settled := by
    intro j s t h ht
    obtain ⟨u, hu, ht⟩ := bind_eq_ok.mp ht
    obtain ⟨hsu, hpu⟩ := hf.settled h hu
    obtain ⟨hst, hpt⟩ := hg.settled hsu ht
    exact ⟨hst, hpt.trans hpu⟩
  taken := by
    intro s t ht
    obtain ⟨u, hu, ht⟩ := bind_eq_ok.mp ht
    exact (hg.taken ht).trans (hf.taken hu)
  notEnded := by
    intro s t ht h
    obtain ⟨u, hu, ht⟩ := bind_eq_ok.mp ht
    exact hg.notEnded ht (hf.notEnded hu h)

theorem choose {v : Scanner → α} {f : α → Scanner → Except Fault Scanner}
    (hview : ∀ s j, v (s.shift j) = v s) (hf : ∀ a, Blind (f a)) :
    Blind fun s ↦ f (v s) s where
  shift := by
    intro j s h
    rw [hview]
    exact (hf _).shift h
  settled := fun {_ s _} h ht ↦ (hf (v s)).settled h ht
  taken := fun {s _} ht ↦ (hf (v s)).taken ht
  notEnded := fun {s _} ht h ↦ (hf (v s)).notEnded ht h

theorem fail {e : Scanner → Fault} (he : ∀ s j, e (s.shift j) = e s) :
    Blind fun s ↦ .error (e s) where
  shift := by
    intro j s _
    exact congrArg Except.error (he s j)
  settled := fun _ ht ↦ nomatch ht
  taken := fun ht ↦ nomatch ht
  notEnded := fun ht ↦ nomatch ht

theorem read {v : Scanner → Except Fault α} {f : α → Scanner → Except Fault Scanner}
    (hview : ∀ s j, v (s.shift j) = v s) (hf : ∀ a, Blind (f a)) :
    Blind fun s ↦ v s >>= fun a ↦ f a s := by
  refine choose (f := fun x s ↦ x >>= fun a ↦ f a s) hview fun x ↦ ?_
  cases x with
  | error e => exact fail fun _ _ ↦ rfl
  | ok a => exact hf a

theorem ite {p : Scanner → Prop} [∀ s, Decidable (p s)] (hp : ∀ s j, p (s.shift j) ↔ p s)
    (hf : Blind f) (hg : Blind g) : Blind fun s ↦ if p s then f s else g s := by
  have hchoose := choose (v := fun s ↦ decide (p s))
    (f := fun b s ↦ if b = true then f s else g s)
    (fun s j ↦ decide_eq_decide.mpr (hp s j)) fun b ↦ by
      cases b with
      | true => exact hf
      | false => exact hg
  simpa only [decide_eq_true_eq] using hchoose

end Blind

/-! ## Parts of a step -/

/-- What a scanner does when a candidate is found that must not lapse. -/
def lapse (found : Option (Nat × KeyCandidate)) (s : Scanner) : Except Fault Scanner :=
  match found with
  | some (_, k) => .error (s.missingColon k)
  | none => .ok { s with candidates := s.candidates.filter fun e ↦ !s.lapsed e.2 }

theorem blind_dropLapsed : Blind dropLapsed := by
  refine Blind.choose (v := fun s ↦ s.candidates.find? fun e ↦ s.lapsed e.2 && e.2.required)
    (f := lapse) (fun _ _ ↦ rfl) fun found ↦ ?_
  cases found with
  | some e => exact Blind.fail fun _ _ ↦ rfl
  | none =>
    exact Blind.quiet (fun _ ↦ rfl) (fun _ ↦ rfl) (fun _ ↦ List.filter_sublist.subset) (fun _ ↦ rfl)
      fun _ _ ↦ rfl

/-- What a scanner does with the candidate at the present depth. -/
def giveUp (found : Option KeyCandidate) (s : Scanner) : Except Fault Scanner :=
  match found with
  | some k =>
    if k.required then .error (s.missingColon k)
    else .ok { s with candidates := s.candidates.filter fun e ↦ e.1 != s.flow }
  | none => .ok s

theorem blind_dropCandidate : Blind dropCandidate := by
  refine Blind.choose (v := candidate?) (f := giveUp) (fun _ _ ↦ rfl) fun found ↦ ?_
  cases found with
  | some k =>
    refine Blind.ite (fun _ _ ↦ Iff.rfl) (Blind.fail fun _ _ ↦ rfl) ?_
    exact Blind.quiet (fun _ ↦ rfl) (fun _ ↦ rfl) (fun _ ↦ List.filter_sublist.subset) (fun _ ↦ rfl)
      fun _ _ ↦ rfl
  | none =>
    exact Blind.quiet (fun _ ↦ rfl) (fun _ ↦ rfl) (fun _ ↦ List.Subset.refl _) (fun _ ↦ rfl)
      fun _ _ ↦ rfl

/-- A place in the pending tokens is counted from the first token of all. -/
theorem taken_add_length_shift (h : j ≤ s.pending.length) :
    (s.shift j).taken + (s.shift j).pending.length = s.taken + s.pending.length := by
  change s.taken + j + (s.pending.drop j).length = _
  rw [List.length_drop]
  omega

theorem blind_noteCandidate : Blind noteCandidate := by
  refine Blind.choose (v := fun s ↦ (s.keyAllowed, s.flow == 0 && s.indent == s.mark.column))
    (f := fun w s ↦ if !w.1 then .ok s else s.dropCandidate >>= fun s ↦
      .ok { s with candidates :=
        s.candidates ++ [(s.flow, ⟨s.taken + s.pending.length, w.2, s.mark⟩)] })
    (fun _ _ ↦ rfl) fun w ↦ ?_
  refine Blind.ite (fun _ _ ↦ Iff.rfl) ?_ (blind_dropCandidate.comp ?_)
  · exact Blind.quiet (fun _ ↦ rfl) (fun _ ↦ rfl) (fun _ ↦ List.Subset.refl _) (fun _ ↦ rfl)
      fun _ _ ↦ rfl
  · refine Blind.append (fun _ ↦ []) (fun s ↦ (List.append_nil _).symm) (fun _ ↦ rfl) ?_ ?_ ?_
    · intro s e he
      rcases List.mem_append.mp he with he | he
      · exact .inl he
      · rw [List.mem_singleton.mp he]
        exact .inr rfl
    · exact fun s ↦ .inr ⟨rfl, fun _ ht ↦ absurd ht List.not_mem_nil⟩
    · intro s j h
      rw [taken_add_length_shift h]
      rfl

/-- Appending a token that does not end the stream. -/
theorem blind_push {k : Scanner → Token.Kind} {a b : Scanner → Mark}
    (hk : ∀ s j, k (s.shift j) = k s) (ha : ∀ s j, a (s.shift j) = a s)
    (hb : ∀ s j, b (s.shift j) = b s) (hend : ∀ s, k s ≠ .streamEnd) :
    Blind fun s ↦ .ok (s.push (k s) (a s) (b s)) := by
  refine Blind.append (fun s ↦ [⟨k s, a s, b s⟩]) (fun _ ↦ rfl) (fun _ ↦ rfl)
    (fun _ _ ↦ .inl) (fun s ↦ .inr ⟨rfl, fun t ht ↦ ?_⟩) fun s j h ↦ ?_
  · rw [List.mem_singleton.mp ht]
    exact hend s
  · rw [hk, ha, hb]
    exact congrArg (fun ts ↦ { s.shift j with pending := ts })
      (List.drop_append_of_le_length h).symm

theorem blind_pushHere {k : Token.Kind} (h : k ≠ .streamEnd) :
    Blind fun s ↦ .ok (s.pushHere k) :=
  blind_push (fun _ _ ↦ rfl) (fun _ _ ↦ rfl) (fun _ _ ↦ rfl) fun _ ↦ h

theorem blind_moveTo {c : Scanner → Cursor} (h : ∀ s j, c (s.shift j) = c s) :
    Blind fun s ↦ .ok { s with cursor := c s } :=
  Blind.quiet (fun _ ↦ rfl) (fun _ ↦ rfl) (fun _ ↦ List.Subset.refl _) (fun _ ↦ rfl)
    fun s j ↦ congrArg (fun c ↦ { s.shift j with cursor := c }) (h s j)

theorem blind_allow (b : Scanner → Bool) (h : ∀ s j, b (s.shift j) = b s) :
    Blind fun s ↦ .ok { s with keyAllowed := b s } :=
  Blind.quiet (fun _ ↦ rfl) (fun _ ↦ rfl) (fun _ ↦ List.Subset.refl _) (fun _ ↦ rfl)
    fun s j ↦ congrArg (fun b ↦ { s.shift j with keyAllowed := b }) (h s j)

theorem blind_pushNext {kind : Token.Kind} (n : Nat) (h : kind ≠ .streamEnd) :
    Blind fun s ↦ .ok (s.pushNext kind n) :=
  (blind_push (fun _ _ ↦ rfl) (fun _ _ ↦ rfl) (fun _ _ ↦ rfl) fun _ ↦ h).comp
    (blind_moveTo (c := fun s ↦ s.cursor.advance n) fun _ _ ↦ rfl)

theorem blind_id : Blind .ok :=
  Blind.quiet (fun _ ↦ rfl) (fun _ ↦ rfl) (fun _ ↦ List.Subset.refl _) (fun _ ↦ rfl)
    fun _ _ ↦ rfl

private theorem blind_unwind (column : Int) (fuel : Nat) :
    Blind fun s ↦ .ok (unwind column fuel s) := by
  induction fuel with
  | zero => exact blind_id
  | succ fuel ih =>
    refine Eq.mpr (congrArg Blind (funext fun s ↦ (apply_ite Except.ok _ _ _)))
      (Blind.ite (p := fun s ↦ s.indent ≤ column) (fun _ _ ↦ Iff.rfl) blind_id ?_)
    refine (blind_pushHere (k := .blockEnd) (by decide)).comp
      (Blind.comp (f := fun s ↦ .ok { s with indent := s.outer.headD (-1), outer := s.outer.tail })
        ?_ ih)
    exact Blind.quiet (fun _ ↦ rfl) (fun _ ↦ rfl) (fun _ ↦ List.Subset.refl _) (fun _ ↦ rfl)
      fun _ _ ↦ rfl

theorem blind_unwindTo (column : Int) : Blind fun s ↦ .ok (s.unwindTo column) := by
  refine Eq.mpr (congrArg Blind (funext fun s ↦ (apply_ite Except.ok _ _ _)))
    (Blind.ite (p := fun s ↦ 0 < s.flow) (fun _ _ ↦ Iff.rfl) blind_id ?_)
  exact Blind.choose (v := fun s ↦ s.outer.length + 1)
    (f := fun n s ↦ .ok (unwind column n s)) (fun _ _ ↦ rfl) fun n ↦ blind_unwind column n

theorem blind_leave {f : Scanner → Except Fault Scanner} (h : Blind f) :
    Blind fun s ↦ (s.unwindTo (-1)).dropCandidate >>= f :=
  (blind_unwindTo (-1)).comp (blind_dropCandidate.comp h)

private theorem blind_openBlock {k : Token.Kind} (h : k ≠ .streamEnd) :
    Blind fun s ↦ .ok (s.openBlock k) := by
  have heq : (fun s ↦ .ok (s.openBlock k) : Scanner → Except Fault Scanner) = fun s ↦
      if s.indent < s.mark.column then
        .ok ({ s with indent := s.mark.column, outer := s.indent :: s.outer }.pushHere k)
      else .ok s := by
    funext s
    rw [openBlock, indentTo?]
    by_cases hs : s.indent < s.mark.column
    · rw [if_pos hs, if_pos hs]
    · rw [if_neg hs, if_neg hs]
  rw [heq]
  refine Blind.ite (fun _ _ ↦ Iff.rfl) ?_ blind_id
  exact Blind.comp
    (f := fun s ↦ .ok { s with indent := s.mark.column, outer := s.indent :: s.outer })
    (Blind.quiet (fun _ ↦ rfl) (fun _ ↦ rfl) (fun _ ↦ List.Subset.refl _) (fun _ ↦ rfl)
      fun _ _ ↦ rfl) (blind_pushHere h)

private theorem blind_skipBlanks (fuel : Nat) : Blind fun s ↦ .ok (skipBlanks fuel s) := by
  induction fuel with
  | zero => exact blind_id
  | succ fuel ih =>
    refine Eq.mpr (congrArg Blind (funext fun s ↦ (apply_ite Except.ok _ _ _)))
      (Blind.ite (p := fun s ↦ isBreak s.cursor.skipSpaces.skipComment.peek = true)
        (fun _ _ ↦ Iff.rfl) ?_ (blind_moveTo fun _ _ ↦ rfl))
    exact Blind.comp (f := fun s ↦ .ok { s with
        cursor := s.cursor.skipSpaces.skipComment.lineBreak.2
        keyAllowed := s.keyAllowed || s.flow == 0 })
      (Blind.quiet (fun _ ↦ rfl) (fun _ ↦ rfl) (fun _ ↦ List.Subset.refl _) (fun _ ↦ rfl)
        fun _ _ ↦ rfl) ih

private theorem blind_skipToLexeme : Blind fun s ↦ .ok s.skipToLexeme := by
  have hskip : Blind fun s ↦ .ok (skipBlanks (s.cursor.rest.length + 1) s) :=
    Blind.choose (v := fun s ↦ s.cursor.rest.length + 1)
      (f := fun n s ↦ .ok (skipBlanks n s)) (fun _ _ ↦ rfl) blind_skipBlanks
  have hmark : Blind fun s ↦ .ok (if s.mark.index = 0 && s.cursor.peek = '\ufeff' then
      { s with cursor := s.cursor.next } else s) := by
    refine Eq.mpr (congrArg Blind (funext fun s ↦ (apply_ite Except.ok _ _ _)))
      (Blind.ite (fun _ _ ↦ Iff.rfl) ?_ blind_id)
    exact blind_moveTo fun _ _ ↦ rfl
  exact hmark.comp hskip

/-! ## Steps -/

private theorem blind_fetchEnd : Blind fetchEnd := by
  refine blind_leave (Blind.append (fun s ↦ [⟨.streamEnd, s.mark, s.mark⟩]) (fun _ ↦ rfl)
    (fun _ ↦ rfl) (fun _ _ he ↦ absurd he List.not_mem_nil) (fun _ ↦ .inl rfl) ?_)
  intro s j h
  exact congrArg (fun ts ↦ { s.shift j with
    pending := ts, keyAllowed := false, candidates := [], done := true })
    (List.drop_append_of_le_length h).symm

private theorem blind_fetchDirective : Blind fetchDirective := by
  refine blind_leave (Blind.read (v := fun s ↦ readDirective s.cursor) (fun _ _ ↦ rfl) fun r ↦ ?_)
  refine (blind_allow (fun _ ↦ false) fun _ _ ↦ rfl).comp (Blind.comp
    (blind_push (k := fun _ ↦ .directive r.1.1) (fun _ _ ↦ rfl) (a := mark) (fun _ _ ↦ rfl)
      (b := fun _ ↦ r.1.2) (fun _ _ ↦ rfl) fun _ h ↦ nomatch h)
    (blind_moveTo (c := fun _ ↦ r.2) fun _ _ ↦ rfl))

theorem blind_fetchMarker {k : Token.Kind} (h : k ≠ .streamEnd) : Blind (fetchMarker · k) :=
  blind_leave ((blind_allow (fun _ ↦ false) fun _ _ ↦ rfl).comp (blind_pushNext 3 h))

theorem blind_fetchFlowStart {k : Token.Kind} (h : k ≠ .streamEnd) :
    Blind (fetchFlowStart · k) := by
  refine blind_noteCandidate.comp (Blind.comp
    (f := fun s ↦ .ok { s with flow := s.flow + 1, keyAllowed := true }) ?_ (blind_pushNext 1 h))
  exact Blind.quiet (fun _ ↦ rfl) (fun _ ↦ rfl) (fun _ ↦ List.Subset.refl _) (fun _ ↦ rfl)
    fun _ _ ↦ rfl

theorem blind_fetchFlowEnd {k : Token.Kind} (h : k ≠ .streamEnd) :
    Blind (fetchFlowEnd · k) := by
  refine blind_dropCandidate.comp (Blind.comp
    (f := fun s ↦ .ok { s with flow := s.flow - 1, keyAllowed := false }) ?_ (blind_pushNext 1 h))
  exact Blind.quiet (fun _ ↦ rfl) (fun _ ↦ rfl) (fun _ ↦ List.Subset.refl _) (fun _ ↦ rfl)
    fun _ _ ↦ rfl

/-- A token of one character after which a key is allowed or not. -/
theorem blind_indicator {k : Token.Kind} (h : k ≠ .streamEnd) (b : Scanner → Bool)
    (hb : ∀ s j, b (s.shift j) = b s) :
    Blind fun s ↦ { s with keyAllowed := b s }.dropCandidate >>= fun s ↦ .ok (s.pushNext k 1) :=
  (blind_allow b hb).comp (blind_dropCandidate.comp (blind_pushNext 1 h))

/-- The same after opening a block, where an indicator is allowed. -/
theorem blind_blockIndicator {k opening : Token.Kind} (hk : k ≠ .streamEnd)
    (ho : opening ≠ .streamEnd) (problem : Problem) (b : Scanner → Bool)
    (hb : ∀ s j, b (s.shift j) = b s) :
    Blind fun s ↦ if (s.flow == 0 && !s.keyAllowed) = true then .error (s.misplaced problem) else
      { (if (s.flow == 0) = true then s.openBlock opening else s) with
        keyAllowed := b (if (s.flow == 0) = true then s.openBlock opening else s) }.dropCandidate
        >>= fun s ↦ .ok (s.pushNext k 1) := by
  have hopen : Blind fun s ↦ .ok (if (s.flow == 0) = true then s.openBlock opening else s) :=
    Eq.mpr (congrArg Blind (funext fun s ↦ (apply_ite Except.ok _ _ _)))
      (Blind.ite (fun _ _ ↦ Iff.rfl) (blind_openBlock ho) blind_id)
  exact Blind.ite (fun _ _ ↦ Iff.rfl) (Blind.fail fun _ _ ↦ rfl)
    (hopen.comp (blind_indicator hk b hb))

private theorem blind_fetchBlockEntry : Blind fetchBlockEntry :=
  blind_blockIndicator (by decide) (by decide) _ (fun _ ↦ true) fun _ _ ↦ rfl

private theorem blind_fetchKey : Blind fetchKey :=
  blind_blockIndicator (by decide) (by decide) _ (fun s ↦ s.flow == 0) fun _ _ ↦ rfl

theorem blind_fetchAnchor {context : Context} {k : String → Token.Kind}
    (h : ∀ name, k name ≠ .streamEnd) : Blind (fetchAnchor · context k) := by
  refine blind_noteCandidate.comp (Blind.read (v := fun s ↦ readAnchor context s.cursor)
    (fun _ _ ↦ rfl) fun r ↦ ?_)
  exact (blind_push (k := fun _ ↦ k r.1) (fun _ _ ↦ rfl) (a := mark) (fun _ _ ↦ rfl)
      (b := fun _ ↦ r.2.mark) (fun _ _ ↦ rfl) fun _ ↦ h r.1).comp
    ((blind_moveTo (c := fun _ ↦ r.2) fun _ _ ↦ rfl).comp
      (blind_allow (fun _ ↦ false) fun _ _ ↦ rfl))

private theorem blind_fetchTag : Blind fetchTag := by
  refine blind_noteCandidate.comp (Blind.read (v := fun s ↦ readTag s.cursor)
    (fun _ _ ↦ rfl) fun r ↦ ?_)
  exact (blind_push (k := fun _ ↦ .tag r.1.1 r.1.2) (fun _ _ ↦ rfl) (a := mark) (fun _ _ ↦ rfl)
      (b := fun _ ↦ r.2.mark) (fun _ _ ↦ rfl) fun _ h ↦ nomatch h).comp
    ((blind_moveTo (c := fun _ ↦ r.2) fun _ _ ↦ rfl).comp
      (blind_allow (fun _ ↦ false) fun _ _ ↦ rfl))

theorem blind_fetchQuoted (double : Bool) : Blind (fetchQuoted · double) := by
  refine blind_noteCandidate.comp (Blind.read (v := fun s ↦ readQuoted double s.cursor)
    (fun _ _ ↦ rfl) fun r ↦ ?_)
  exact (blind_push (k := fun _ ↦ .scalar (String.ofList r.1) false) (fun _ _ ↦ rfl) (a := mark)
      (fun _ _ ↦ rfl) (b := fun _ ↦ r.2.mark) (fun _ _ ↦ rfl) fun _ h ↦ nomatch h).comp
    ((blind_moveTo (c := fun _ ↦ r.2) fun _ _ ↦ rfl).comp
      (blind_allow (fun _ ↦ false) fun _ _ ↦ rfl))

private theorem blind_fetchPlain : Blind fetchPlain := by
  refine blind_noteCandidate.comp (Blind.choose
    (v := fun s ↦ readPlain (0 < s.flow) (s.indent + 1) s.cursor)
    (f := fun r s ↦ .ok { s.push (.scalar (String.ofList r.1.text) true) s.mark r.1.stop with
      cursor := r.2, keyAllowed := r.1.fresh }) (fun _ _ ↦ rfl) fun r ↦ ?_)
  exact (blind_push (k := fun _ ↦ .scalar (String.ofList r.1.text) true) (fun _ _ ↦ rfl)
      (a := mark) (fun _ _ ↦ rfl) (b := fun _ ↦ r.1.stop) (fun _ _ ↦ rfl) fun _ h ↦ nomatch h).comp
    ((blind_moveTo (c := fun _ ↦ r.2) fun _ _ ↦ rfl).comp
      (blind_allow (fun _ ↦ r.1.fresh) fun _ _ ↦ rfl))

theorem blind_fetchBlockScalar (folded : Bool) : Blind (fetchBlockScalar · folded) := by
  refine (blind_allow (fun _ ↦ true) fun _ _ ↦ rfl).comp (blind_dropCandidate.comp (Blind.read
    (v := fun s ↦ readBlock folded s.indent s.cursor) (fun _ _ ↦ rfl) fun r ↦ ?_))
  exact (blind_push (k := fun _ ↦ .scalar (String.ofList r.1.1) false) (fun _ _ ↦ rfl) (a := mark)
      (fun _ _ ↦ rfl) (b := fun _ ↦ r.1.2) (fun _ _ ↦ rfl) fun _ h ↦ nomatch h).comp
    (blind_moveTo (c := fun _ ↦ r.2) fun _ _ ↦ rfl)

/-! ## The colon after a key -/

section Insert

variable {n : Nat} {x : Token} {ts : List Token}

theorem length_insertAt : (insertAt n x ts).length = ts.length + 1 := by
  rw [insertAt, List.length_append, List.length_cons, ← Nat.add_assoc, ← List.length_append,
    List.take_append_drop]

theorem mem_insertAt {y : Token} (h : y ∈ insertAt n x ts) : y = x ∨ y ∈ ts := by
  rcases List.mem_append.mp h with h | h
  · exact .inr (List.mem_of_mem_take h)
  · rcases List.mem_cons.mp h with h | h
    · exact .inl h
    · exact .inr (List.mem_of_mem_drop h)

theorem take_insertAt (hn : j ≤ n) (hj : j ≤ ts.length) : (insertAt n x ts).take j = ts.take j := by
  have hlen : j ≤ (ts.take n).length := by
    rw [List.length_take]
    exact Nat.le_min.mpr ⟨hn, hj⟩
  rw [insertAt, List.take_append_of_le_length hlen, List.take_take, Nat.min_eq_left hn]

theorem drop_insertAt (hn : j ≤ n) (hj : j ≤ ts.length) :
    (insertAt n x ts).drop j = insertAt (n - j) x (ts.drop j) := by
  have hlen : j ≤ (ts.take n).length := by
    rw [List.length_take]
    exact Nat.le_min.mpr ⟨hn, hj⟩
  rw [insertAt, insertAt, List.drop_append_of_le_length hlen, List.drop_take, List.drop_drop,
    Nat.add_sub_cancel' hn]

theorem insertAt_length (us : List Token) : insertAt ts.length x (ts ++ us) = ts ++ x :: us := by
  rw [insertAt, List.take_left, List.drop_left]

end Insert

/-- The tokens that a colon inserts at a candidate: the key, and before it the beginning of a
mapping that is indented by more than the present block. -/
def keyTokens (s : Scanner) (k : KeyCandidate) (ts : List Token) : List Token :=
  let ts := insertAt (k.token - s.taken) ⟨.key, k.mark, k.mark⟩ ts
  if s.flow = 0 ∧ s.indent < k.mark.column then
    insertAt (k.token - s.taken) ⟨.blockMappingStart, k.mark, k.mark⟩ ts
  else ts

/-- The scanner after the colon of a candidate. -/
def afterColon (s : Scanner) (k : KeyCandidate) : Scanner :=
  { s with
    cursor := s.cursor.advance 1
    pending := s.keyTokens k s.pending ++ [⟨.value, s.mark, (s.cursor.advance 1).mark⟩]
    indent := if s.flow = 0 ∧ s.indent < k.mark.column then k.mark.column else s.indent
    outer := if s.flow = 0 ∧ s.indent < k.mark.column then s.indent :: s.outer else s.outer
    keyAllowed := false
    candidates := s.candidates.filter fun e ↦ e.1 != s.flow }

theorem fetchValue_of_candidate {k : KeyCandidate} (h : s.candidate? = some k) :
    s.fetchValue = .ok (s.afterColon k) := by
  rw [fetchValue, h]
  by_cases hf : s.flow = 0
  · by_cases hi : s.indent < k.mark.column
    · simp [afterColon, keyTokens, indentTo?, hf, hi]
      rfl
    · simp [afterColon, keyTokens, indentTo?, hf, hi]
      rfl
  · simp [afterColon, keyTokens, hf]
    rfl

theorem mem_candidates {k : KeyCandidate} (h : s.candidate? = some k) :
    (s.flow, k) ∈ s.candidates := mem_of_lookup h

section KeyTokens

variable {k : KeyCandidate} {ts : List Token}

theorem length_le_keyTokens : ts.length ≤ (s.keyTokens k ts).length := by
  rw [keyTokens]
  split
  · rw [length_insertAt, length_insertAt]
    omega
  · rw [length_insertAt]
    exact Nat.le_succ _

theorem mem_keyTokens {x : Token} (h : x ∈ s.keyTokens k ts) :
    x.kind ≠ .streamEnd ∨ x ∈ ts := by
  have hkey : ∀ y ∈ insertAt (k.token - s.taken) ⟨.key, k.mark, k.mark⟩ ts,
      y.kind ≠ .streamEnd ∨ y ∈ ts := by
    intro y hy
    rcases mem_insertAt hy with rfl | hy
    · exact .inl fun h ↦ nomatch h
    · exact .inr hy
  rw [keyTokens] at h
  split at h
  · rcases mem_insertAt h with rfl | h
    · exact .inl fun h ↦ nomatch h
    · exact hkey x h
  · exact hkey x h

private theorem take_keyTokens (hk : s.taken + j ≤ k.token) (hj : j ≤ ts.length) :
    (s.keyTokens k ts).take j = ts.take j := by
  have hn : j ≤ k.token - s.taken := Nat.le_sub_of_add_le' hk
  rw [keyTokens]
  split
  · rw [take_insertAt hn (by rw [length_insertAt]; exact Nat.le_succ_of_le hj), take_insertAt hn hj]
  · exact take_insertAt hn hj

private theorem drop_keyTokens (hk : s.taken + j ≤ k.token) (hj : j ≤ ts.length) :
    (s.keyTokens k ts).drop j = (s.shift j).keyTokens k (ts.drop j) := by
  -- The place of a candidate is counted from the first token of all, so it does not move.
  have hn : j ≤ k.token - s.taken := Nat.le_sub_of_add_le' hk
  have hsub : k.token - (s.taken + j) = k.token - s.taken - j := Nat.sub_add_eq ..
  rw [keyTokens, keyTokens]
  change _ = if s.flow = 0 ∧ s.indent < k.mark.column then
    insertAt (k.token - (s.taken + j)) _ (insertAt (k.token - (s.taken + j)) _ _) else
    insertAt (k.token - (s.taken + j)) _ _
  rw [hsub]
  split
  · rw [drop_insertAt hn (by rw [length_insertAt]; exact Nat.le_succ_of_le hj),
      drop_insertAt hn hj]
  · exact drop_insertAt hn hj

end KeyTokens

private theorem shift_afterColon {k : KeyCandidate} (h : Settled j s) (hk : s.taken + j ≤ k.token) :
    (s.shift j).afterColon k = (s.afterColon k).shift j := by
  have hle : j ≤ (s.keyTokens k s.pending).length := Nat.le_trans h.1 length_le_keyTokens
  let colon : Token := ⟨.value, s.mark, (s.cursor.advance 1).mark⟩
  have hp : (s.shift j).keyTokens k (s.shift j).pending ++ [colon]
      = (s.keyTokens k s.pending ++ [colon]).drop j := by
    rw [List.drop_append_of_le_length hle, drop_keyTokens hk h.1]
    rfl
  exact congrArg (fun ts ↦ { (s.shift j).afterColon k with pending := ts }) hp

private theorem settled_afterColon {k : KeyCandidate} (h : Settled j s)
    (hk : s.taken + j ≤ k.token) :
    Settled j (s.afterColon k) ∧ (s.afterColon k).pending.take j = s.pending.take j := by
  have hle : j ≤ (s.keyTokens k s.pending).length := Nat.le_trans h.1 length_le_keyTokens
  refine ⟨⟨?_, fun e he ↦ h.2 e (List.mem_filter.mp he).1⟩, ?_⟩
  · change j ≤ (s.keyTokens k s.pending ++ [_]).length
    rw [List.length_append]
    exact Nat.le_trans hle (Nat.le_add_right _ _)
  · exact (List.take_append_of_le_length hle).trans (take_keyTokens hk h.1)

private theorem notEnded_afterColon {k : KeyCandidate} (h : s.NotEnded) :
    (s.afterColon k).NotEnded := by
  intro hdone x hx
  rcases List.mem_append.mp hx with hx | hx
  · rcases mem_keyTokens hx with hx | hx
    · exact hx
    · exact h hdone x hx
  · rw [List.mem_singleton.mp hx]
    exact fun h ↦ nomatch h

theorem fetchValue_of_none (h : s.candidate? = none) : s.fetchValue =
    if (s.flow == 0 && !s.keyAllowed) = true then .error (s.misplaced .valueNotAllowed) else
    { (if (s.flow == 0) = true then s.openBlock .blockMappingStart else s) with
      keyAllowed := (if (s.flow == 0) = true then s.openBlock .blockMappingStart else s).flow == 0
      }.dropCandidate >>= fun s ↦ .ok (s.pushNext .value 1) := by
  rw [fetchValue, h]
  rfl

private theorem blind_fetchValue : Blind fetchValue := by
  have hplain : Blind fun s ↦ if (s.flow == 0 && !s.keyAllowed) = true then
      .error (s.misplaced .valueNotAllowed) else
      { (if (s.flow == 0) = true then s.openBlock .blockMappingStart else s) with
        keyAllowed := (if (s.flow == 0) = true then s.openBlock .blockMappingStart else s).flow == 0
        }.dropCandidate >>= fun s ↦ .ok (s.pushNext .value 1) :=
    blind_blockIndicator (by decide) (by decide) _ (fun s ↦ s.flow == 0) fun _ _ ↦ rfl
  -- With a candidate, the tokens of a key are put in where it stands, behind the settled ones.
  constructor
  · intro j s h
    cases hk : s.candidate? with
    | none =>
      have hnone := fetchValue_of_none (s := s.shift j) hk
      exact hnone.trans ((hplain.shift h).trans (by rw [fetchValue_of_none hk]))
    | some k =>
      rw [fetchValue_of_candidate hk, fetchValue_of_candidate (s := s.shift j) hk,
        shift_afterColon h (h.2 _ (mem_candidates hk))]
      rfl
  · intro j s t h ht
    cases hk : s.candidate? with
    | none => exact hplain.settled h ((fetchValue_of_none hk).symm.trans ht)
    | some k =>
      rw [fetchValue_of_candidate hk] at ht
      cases ht
      exact settled_afterColon h (h.2 _ (mem_candidates hk))
  · intro s t ht
    cases hk : s.candidate? with
    | none => exact hplain.taken ((fetchValue_of_none hk).symm.trans ht)
    | some k =>
      rw [fetchValue_of_candidate hk] at ht
      cases ht
      rfl
  · intro s t ht h
    cases hk : s.candidate? with
    | none => exact hplain.notEnded ((fetchValue_of_none hk).symm.trans ht) h
    | some k =>
      rw [fetchValue_of_candidate hk] at ht
      cases ht
      exact notEnded_afterColon h

/-! ## The whole step -/

private theorem blind_fetchLexeme : Blind fetchLexeme := by
  unfold fetchLexeme
  refine Blind.ite (fun _ _ ↦ Iff.rfl) blind_fetchEnd ?_
  refine Blind.ite (fun _ _ ↦ Iff.rfl) blind_fetchDirective ?_
  refine Blind.ite (fun _ _ ↦ Iff.rfl) (blind_fetchMarker (by decide)) ?_
  refine Blind.ite (fun _ _ ↦ Iff.rfl) (blind_fetchMarker (by decide)) ?_
  refine Blind.ite (fun _ _ ↦ Iff.rfl) (blind_fetchFlowStart (by decide)) ?_
  refine Blind.ite (fun _ _ ↦ Iff.rfl) (blind_fetchFlowStart (by decide)) ?_
  refine Blind.ite (fun _ _ ↦ Iff.rfl) (blind_fetchFlowEnd (by decide)) ?_
  refine Blind.ite (fun _ _ ↦ Iff.rfl) (blind_fetchFlowEnd (by decide)) ?_
  refine Blind.ite (fun _ _ ↦ Iff.rfl) ?_ ?_
  · exact blind_indicator (by decide) (fun _ ↦ true) fun _ _ ↦ rfl
  refine Blind.ite (fun _ _ ↦ Iff.rfl) blind_fetchBlockEntry ?_
  refine Blind.ite (fun _ _ ↦ Iff.rfl) blind_fetchKey ?_
  refine Blind.ite (fun _ _ ↦ Iff.rfl) blind_fetchValue ?_
  refine Blind.ite (fun _ _ ↦ Iff.rfl) (blind_fetchAnchor fun _ h ↦ nomatch h) ?_
  refine Blind.ite (fun _ _ ↦ Iff.rfl) (blind_fetchAnchor fun _ h ↦ nomatch h) ?_
  refine Blind.ite (fun _ _ ↦ Iff.rfl) blind_fetchTag ?_
  refine Blind.ite (fun _ _ ↦ Iff.rfl) (blind_fetchBlockScalar false) ?_
  refine Blind.ite (fun _ _ ↦ Iff.rfl) (blind_fetchBlockScalar true) ?_
  refine Blind.ite (fun _ _ ↦ Iff.rfl) (blind_fetchQuoted false) ?_
  refine Blind.ite (fun _ _ ↦ Iff.rfl) (blind_fetchQuoted true) ?_
  exact Blind.ite (fun _ _ ↦ Iff.rfl) blind_fetchPlain (Blind.fail fun _ _ ↦ rfl)

/-- **A step does not depend on the tokens that can be handed over.** -/
theorem blind_fetchNext : Blind fetchNext := by
  refine blind_skipToLexeme.comp (blind_dropLapsed.comp ?_)
  refine Blind.comp (f := fun s ↦ .ok (s.unwindTo s.mark.column)) ?_ blind_fetchLexeme
  exact Blind.choose (v := fun s ↦ s.mark.column) (f := fun n s ↦ .ok (s.unwindTo n))
    (fun _ _ ↦ rfl) fun n ↦ blind_unwindTo n

end GatewayPrint.Yaml.Scanner
