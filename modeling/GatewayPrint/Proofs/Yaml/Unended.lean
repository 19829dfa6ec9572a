import GatewayPrint.Proofs.Yaml.Parsing

/-!
# Streams without an end

The parser only takes tokens: what it leaves was ahead of it before (`Takes`). So it cannot find the
end of a stream that is not among the tokens it is given, and there is no document
(`ofTokens_of_unended`).
-/

namespace GatewayPrint.Yaml

open Parse

variable {ts : List Token} {fuel : Nat} {α β : Type}

/-- A step of parsing that leaves some of the tokens ahead of it. -/
def Takes (x : Parse α) : Prop := ∀ st a st', x st = .ok (a, st') → st'.ahead ⊆ st.ahead

theorem exists_of_bind_eq_ok {x : Parse α} {f : α → Parse β} {st st' : ParseState} {b : β}
    (h : (x >>= f) st = .ok (b, st')) :
    ∃ a st₁, x st = .ok (a, st₁) ∧ f a st₁ = .ok (b, st') := by
  change (x st >>= fun p ↦ f p.1 p.2) = _ at h
  cases hxs : x st with
  | error e =>
    rw [hxs] at h
    cases h
  | ok p =>
    rw [hxs] at h
    exact ⟨p.1, p.2, rfl, h⟩

theorem Takes.bind {x : Parse α} {f : α → Parse β} (hx : Takes x) (hf : ∀ a, Takes (f a)) :
    Takes (x >>= f) := by
  intro st b st' h
  obtain ⟨a, st₁, hxs, hfs⟩ := exists_of_bind_eq_ok h
  exact fun t ht ↦ hx st a st₁ hxs (hf a st₁ b st' hfs ht)

theorem takes_peek : Takes peek := by
  intro st a st' h
  obtain ⟨ahead, fault, handles, anchors⟩ := st
  cases ahead with
  | nil => cases h
  | cons t ts =>
    cases h
    exact fun _ ht ↦ ht

theorem takes_modify {g : ParseState → ParseState} (hg : ∀ st, (g st).ahead ⊆ st.ahead) :
    Takes (modify g : Parse Unit) := by
  intro st a st' h
  cases h
  exact hg st

/-- **Every step** of parsing only takes tokens. -/
theorem isClosed_takes : IsClosed fun _ x ↦ Takes x where
  pure a := by
    rintro st b st' h
    cases h
    exact fun _ ht ↦ ht
  bind := Takes.bind
  refuse e := fun _ _ _ h ↦ nomatch h
  peek := takes_peek
  take := takes_peek.bind fun t ↦ (takes_modify fun _ _ ↦ List.mem_of_mem_tail).bind fun _ ↦ by
    rintro st b st' h
    cases h
    exact fun _ ht ↦ ht
  look f _ hf := fun st ↦ hf st st
  note e := takes_modify fun _ _ ht ↦ ht
  setHandles handles := takes_modify fun _ _ ht ↦ ht

/-- A step of parsing that fails where the end of the stream is not among the tokens ahead. -/
def NeedsEnd (x : Parse α) : Prop :=
  ∀ st, (∀ t ∈ st.ahead, t.kind ≠ .streamEnd) → ∀ a st', x st ≠ .ok (a, st')

private theorem needsEnd_throw (f : Fault) :
    NeedsEnd (throw f : Parse α) := fun _ _ _ _ h ↦ nomatch h

theorem Takes.bind_needsEnd {x : Parse α} {f : α → Parse β} (hx : Takes x)
    (hf : ∀ a, NeedsEnd (f a)) : NeedsEnd (x >>= f) := by
  intro st hst b st' h
  obtain ⟨a, st₁, hxs, hfs⟩ := exists_of_bind_eq_ok h
  exact hf a st₁ (fun t ht ↦ hst t (hx st a st₁ hxs ht)) b st' hfs

private theorem needsEnd_ite {c : Prop} [Decidable c] {x y : Parse α} (hx : NeedsEnd x)
    (hy : NeedsEnd y) : NeedsEnd (if c then x else y) := by
  split
  · exact hx
  · exact hy

/-- The next token is among those ahead. -/
theorem mem_of_peek {st st' : ParseState} {t : Token} (h : peek st = .ok (t, st')) :
    t ∈ st.ahead := by
  obtain ⟨ahead, fault, handles, anchors⟩ := st
  cases ahead with
  | nil => cases h
  | cons u us =>
    cases h
    exact List.mem_cons_self

/-- That no document follows is only found at the end of the stream. -/
theorem documentStart_ne_none {st st' : ParseState} (h : ∀ t ∈ st.ahead, t.kind ≠ .streamEnd) :
    documentStart fuel st ≠ .ok (none, st') := by
  intro heq
  rw [documentStart] at heq
  obtain ⟨_, st₁, hskip, heq⟩ := exists_of_bind_eq_ok heq
  obtain ⟨t, st₂, hpeek, heq⟩ := exists_of_bind_eq_ok heq
  -- The token behind skipped document ends was ahead before, so it is not the end of the stream.
  have hkind := h t (isClosed_takes.skipEnds fuel st _ st₁ hskip (mem_of_peek hpeek))
  rw [if_neg hkind] at heq
  obtain ⟨_, st₃, -, heq⟩ := exists_of_bind_eq_ok heq
  obtain ⟨u, st₄, -, heq⟩ := exists_of_bind_eq_ok heq
  split at heq
  · obtain ⟨_, _, hthrow, -⟩ := exists_of_bind_eq_ok heq
    cases hthrow
  · obtain ⟨_, _, -, hpure⟩ := exists_of_bind_eq_ok heq
    cases hpure

theorem needsEnd_documentStart {x : Parse α} {f : Mark → Parse α} (hf : ∀ m, NeedsEnd (f m)) :
    NeedsEnd (documentStart fuel >>= fun o ↦ match o with
      | none => x
      | some m => f m) := by
  intro st hst b st' h
  obtain ⟨o, st₁, hstart, hfs⟩ := exists_of_bind_eq_ok h
  cases o with
  | none => exact documentStart_ne_none hst hstart
  | some m =>
    have hst₁ := fun t ht ↦ hst t (isClosed_takes.documentStart fuel st _ st₁ hstart ht)
    exact hf m st₁ hst₁ b st' hfs

private theorem needsEnd_only (fuel : Nat) (root : Node) : NeedsEnd (only fuel root) := by
  rw [only]
  refine isClosed_takes.kind.bind_needsEnd fun _ ↦
    needsEnd_ite (isClosed_takes.take.bind_needsEnd fun _ ↦ ?_) ?_
  all_goals exact needsEnd_documentStart fun _ ↦ needsEnd_throw _

/-- Whether there is a root or not, parsing succeeds only once it finds that no document follows. -/
private theorem needsEnd_singleDocument (fuel : Nat) : NeedsEnd (singleDocument fuel) := by
  rw [singleDocument]
  refine isClosed_takes.take.bind_needsEnd fun _ ↦ takes_peek.bind_needsEnd fun t ↦ ?_
  split
  case h_4 =>
    refine Takes.bind_needsEnd (takes_modify fun _ _ ht ↦ ht) fun _ ↦ ?_
    exact ((isClosed_takes.allSteps fuel).node .block).bind_needsEnd (needsEnd_only fuel)
  all_goals
    exact needsEnd_documentStart fun _ ↦
      (isClosed_takes.documentContent fuel).bind_needsEnd (needsEnd_only fuel)

/-- **A stream whose end is not among its tokens** holds no document. -/
theorem ofTokens_of_unended (h : ∀ t ∈ ts, t.kind ≠ .streamEnd) (fault : Option Fault) :
    ∃ f, Node.ofTokens ts fault = .error f := by
  cases hrun : singleDocument (4 * ts.length + 8) ⟨ts, fault, defaultHandles, []⟩ with
  | error f =>
    refine ⟨f, ?_⟩
    change (fun p ↦ p.1) <$> singleDocument _ _ = _
    rw [hrun]
    rfl
  | ok p => exact absurd hrun (needsEnd_singleDocument _ _ h _ _)

end GatewayPrint.Yaml
