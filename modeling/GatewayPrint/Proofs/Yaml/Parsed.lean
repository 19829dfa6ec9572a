import GatewayPrint.Yaml.Node

/-!
# Parsing block style

Which tokens spell which node (`Spells`), for the forms that block style is written in. The parser
takes the tokens of a node and leaves what comes after them, wherever the node may stand. A document
of one node is read as its root (`ofTokens_of_spells`).
-/

namespace GatewayPrint.Yaml

open Parse

variable {st : ParseState} {t tk tv e : Token} {ts us kts vts after : List Token} {nd k v : Node}
  {nds : List Node} {es : List (Node × Node)} {inline : Bool} {place : Place} {fuel : Nat}
  {α β : Type}

/-- The state with other tokens ahead. -/
def ParseState.at (st : ParseState) (ts : List Token) : ParseState := { st with ahead := ts }

theorem peek_bind (f : Token → Parse β) : (peek >>= f) (st.at (t :: ts)) = f t (st.at (t :: ts)) :=
  rfl

theorem kind_bind (f : Token.Kind → Parse β) :
    (kind >>= f) (st.at (t :: ts)) = f t.kind (st.at (t :: ts)) := rfl

theorem take_bind (f : Token → Parse β) : (take >>= f) (st.at (t :: ts)) = f t (st.at ts) := rfl

theorem parse_bind {x : Parse α} {a : α} {st' : ParseState} (h : x st = .ok (a, st'))
    (f : α → Parse β) : (x >>= f) st = f a st' := by
  change (x st >>= fun p ↦ f p.1 p.2) = _
  rw [h]
  rfl

private theorem modify_bind (g : ParseState → ParseState) (f : Unit → Parse β) :
    ((modify g : Parse Unit) >>= f) st = f () (g st) := rfl

/-! ## Nodes -/

/-- The kind of a token that a node may begin with; a hyphen begins a sequence that has no
indentation of its own. -/
def BeginsNode (inline : Bool) (k : Token.Kind) : Prop :=
  k ≠ .key ∧ k ≠ .value ∧ k ≠ .blockEnd ∧ (inline = false → k ≠ .blockEntry)

/-- **The tokens of a node**, which the parser takes wherever the node may stand. A sequence without
indentation of its own (`inline`) is the value of an entry, and no hyphen may follow it. -/
structure Spells (inline : Bool) (ts : List Token) (nd : Node) : Prop where
  begins : ∃ t ts', ts = t :: ts' ∧ BeginsNode inline t.kind
  parse : ∀ (place : Place) (fuel : Nat) (st : ParseState) (t : Token) (after : List Token),
    place ≠ .flow → (inline = true → place = .entry ∧ t.kind ≠ .blockEntry) →
    2 * ts.length ≤ fuel → node place fuel (st.at (ts ++ t :: after)) = .ok (nd, st.at (t :: after))

theorem spells_scalar (text : String) (plain : Bool) (m m' : Mark) :
    Spells false [⟨.scalar text plain, m, m'⟩]
      (.scalar (scalarTag none text plain) text m none) where
  begins := ⟨_, _, rfl, nofun, nofun, nofun, fun _ ↦ nofun⟩
  parse := by
    intro place fuel st t after hplace _ hf
    obtain ⟨fuel, rfl⟩ := Nat.exists_eq_add_one_of_ne_zero (Nat.ne_zero_of_lt hf)
    rw [node]
    cases place <;> rfl

theorem exists_two_le (h : 4 ≤ fuel) : ∃ f, fuel = f + 2 := ⟨fuel - 2, by omega⟩

theorem spells_emptySeq (m₁ m₂ m₃ m₄ : Mark) :
    Spells false [⟨.flowSequenceStart, m₁, m₂⟩, ⟨.flowSequenceEnd, m₃, m₄⟩]
      (.seq .seq [] m₁ none) where
  begins := ⟨_, _, rfl, nofun, nofun, nofun, fun _ ↦ nofun⟩
  parse := by
    intro place fuel st t after hplace _ hf
    obtain ⟨fuel, rfl⟩ := exists_two_le hf
    rw [node]
    cases place <;> rfl

theorem spells_emptyMap (m₁ m₂ m₃ m₄ : Mark) :
    Spells false [⟨.flowMappingStart, m₁, m₂⟩, ⟨.flowMappingEnd, m₃, m₄⟩]
      (.map .map [] m₁ none) where
  begins := ⟨_, _, rfl, nofun, nofun, nofun, fun _ ↦ nofun⟩
  parse := by
    intro place fuel st t after hplace _ hf
    obtain ⟨fuel, rfl⟩ := exists_two_le hf
    rw [node]
    cases place <;> rfl

/-! ## Items -/

/-- The tokens of the items of a sequence. -/
inductive SpellsItems : List Token → List Node → Prop where
  | nil : SpellsItems [] []
  | cons {t : Token} {ts us : List Token} {nd : Node} {nds : List Node} (ht : t.kind = .blockEntry)
      (h : Spells false ts nd) (hs : SpellsItems us nds) :
      SpellsItems (t :: (ts ++ us)) (nd :: nds)

theorem SpellsItems.begins (h : SpellsItems ts nds) (hne : ts ≠ []) :
    ∃ t ts', ts = t :: ts' ∧ t.kind = .blockEntry := by
  cases h with
  | nil => exact absurd rfl hne
  | cons ht _ _ => exact ⟨_, _, rfl, ht⟩

theorem SpellsItems.append_eq (h : SpellsItems ts nds) (e : Token) (after : List Token) :
    ∃ t us, ts ++ e :: after = t :: us := by
  cases ts with
  | nil => exact ⟨e, after, rfl⟩
  | cons t ts => exact ⟨t, ts ++ e :: after, rfl⟩

theorem blockItems_eq (h : SpellsItems ts nds) (he : e.kind = .blockEnd) (start : Mark)
    (after : List Token) (hf : 2 * ts.length < fuel) :
    blockItems start fuel (st.at (ts ++ e :: after)) = .ok (nds, st.at after) := by
  induction h generalizing fuel with
  | nil =>
    obtain ⟨fuel, rfl⟩ := Nat.exists_eq_add_one_of_ne_zero (Nat.ne_zero_of_lt hf)
    rw [blockItems, List.nil_append, peek_bind, he]
    rfl
  | @cons t ts us nd nds ht h hs ih =>
    obtain ⟨fuel, rfl⟩ := Nat.exists_eq_add_one_of_ne_zero (Nat.ne_zero_of_lt hf)
    simp only [List.length_cons, List.length_append] at hf
    obtain ⟨u, us', hus⟩ := hs.append_eq e after
    obtain ⟨x, xs, hts, -, -, hend, hentry⟩ := h.begins
    have hitem := h.parse .block fuel st u us' nofun nofun (by omega)
    rw [← hus] at hitem
    -- Two hyphens in a row, or a hyphen at the end, would leave an item out.
    have hnext : (decide (x.kind = .blockEntry) || decide (x.kind = .blockEnd)) = false := by
      rw [decide_eq_false (hentry rfl), decide_eq_false hend]
      rfl
    rw [blockItems, List.cons_append, List.append_assoc, peek_bind, ht]
    dsimp only
    rw [take_bind]
    rw [hts, List.cons_append, kind_bind, hnext, if_neg Bool.false_ne_true, ← List.cons_append,
      ← hts, parse_bind hitem, parse_bind (ih (by omega))]
    rfl

/-- The items of a sequence without indentation of its own, up to a token that is no hyphen. -/
theorem indentlessEntries_eq (h : SpellsItems ts nds) (he : e.kind ≠ .blockEntry)
    (after : List Token) (hpos : 0 < fuel) (hf : 2 * ts.length ≤ fuel + 1) :
    indentlessEntries fuel (st.at (ts ++ e :: after)) = .ok (nds, st.at (e :: after)) := by
  induction h generalizing fuel with
  | nil =>
    obtain ⟨fuel, rfl⟩ := Nat.exists_eq_add_one_of_ne_zero (Nat.ne_of_gt hpos)
    rw [indentlessEntries, List.nil_append, peek_bind, if_neg he]
    rfl
  | @cons t ts us nd nds ht h hs ih =>
    obtain ⟨fuel, rfl⟩ := Nat.exists_eq_add_one_of_ne_zero (Nat.ne_of_gt hpos)
    simp only [List.length_cons, List.length_append] at hf
    obtain ⟨u, us', hus⟩ := hs.append_eq e after
    have hlen : 0 < ts.length := by
      obtain ⟨x, xs, hts, -⟩ := h.begins
      rw [hts]
      exact Nat.succ_pos _
    obtain ⟨x, xs, hts, hkey, hvalue, hend, hentry⟩ := h.begins
    have hitem := h.parse .block fuel st u us' nofun nofun (by omega)
    rw [← hus] at hitem
    -- An item has tokens of its own, so the hyphen before it does not stand for nothing.
    have hnext : (decide (x.kind = .blockEntry) || decide (x.kind = .key) ||
        decide (x.kind = .value) || decide (x.kind = .blockEnd)) = false := by
      rw [decide_eq_false (hentry rfl), decide_eq_false hkey, decide_eq_false hvalue,
        decide_eq_false hend]
      rfl
    rw [indentlessEntries, List.cons_append, List.append_assoc, peek_bind, if_pos ht, take_bind,
      hts, List.cons_append, kind_bind, hnext, if_neg Bool.false_ne_true, ← List.cons_append,
      ← hts, parse_bind hitem]
    dsimp only
    rw [parse_bind (ih (by omega) (by omega))]
    rfl

theorem spells_seq (h : SpellsItems ts nds) (he : e.kind = .blockEnd) (m m' : Mark) :
    Spells false (⟨.blockSequenceStart, m, m'⟩ :: (ts ++ [e])) (.seq .seq nds m none) where
  begins := ⟨_, _, rfl, nofun, nofun, nofun, fun _ ↦ nofun⟩
  parse := by
    intro place fuel st t after hplace _ hf
    simp only [List.length_cons, List.length_append, List.length_nil] at hf
    obtain ⟨fuel, rfl⟩ := Nat.exists_eq_add_one_of_ne_zero (Nat.ne_zero_of_lt hf)
    have hfuel : 2 * ts.length < fuel := by omega
    have hitems : blockItems m fuel (st.at (ts ++ e :: t :: after))
        = .ok (nds, st.at (t :: after)) := blockItems_eq h he m (t :: after) hfuel
    rw [List.cons_append, List.append_assoc, List.singleton_append, node]
    cases place with
    | flow => exact absurd rfl hplace
    | block =>
      change (blockItems m fuel >>= fun nds ↦ pure (Node.seq .seq nds m none))
        (st.at (ts ++ e :: t :: after)) = _
      rw [parse_bind hitems]
      rfl
    | entry =>
      change (blockItems m fuel >>= fun nds ↦ pure (Node.seq .seq nds m none))
        (st.at (ts ++ e :: t :: after)) = _
      rw [parse_bind hitems]
      rfl

theorem spells_indentless (h : SpellsItems (t :: ts) nds) :
    Spells true (t :: ts) (.seq .seq nds t.start none) where
  begins := by
    obtain ⟨u, us, hu, hk⟩ := h.begins (List.cons_ne_nil _ _)
    refine ⟨u, us, hu, ?_⟩
    rw [hk]
    exact ⟨nofun, nofun, nofun, nofun⟩
  parse := by
    intro place fuel st u after _ hinline hf
    obtain ⟨rfl, hu⟩ := hinline rfl
    obtain ⟨fuel, rfl⟩ := Nat.exists_eq_add_one_of_ne_zero (Nat.ne_zero_of_lt hf)
    have hkind : t.kind = .blockEntry := by
      obtain ⟨t', ts', heq, hk⟩ := h.begins (List.cons_ne_nil _ _)
      rw [(List.cons.inj heq).1]
      exact hk
    have hpos : 0 < fuel := by
      rw [List.length_cons] at hf
      omega
    have hitems : indentlessEntries fuel (st.at (t :: ts ++ u :: after))
        = .ok (nds, st.at (u :: after)) := indentlessEntries_eq h hu after hpos hf
    obtain ⟨kind, m, m'⟩ := t
    cases hkind
    rw [List.cons_append] at hitems ⊢
    rw [node]
    change (indentlessEntries fuel >>= fun nds ↦ pure (Node.seq .seq nds m none))
      (st.at (⟨.blockEntry, m, m'⟩ :: (ts ++ u :: after))) = _
    rw [parse_bind hitems]
    rfl

/-! ## Entries -/

/-- The tokens of the entries of a mapping. -/
inductive SpellsEntries : List Token → List (Node × Node) → Prop where
  | nil : SpellsEntries [] []
  | cons {inline : Bool} {tk tv : Token} {kts vts us : List Token} {k v : Node}
      {es : List (Node × Node)} (hk : tk.kind = .key) (h : Spells false kts k)
      (hv : tv.kind = .value) (h' : Spells inline vts v) (hs : SpellsEntries us es) :
      SpellsEntries (tk :: (kts ++ tv :: (vts ++ us))) ((k, v) :: es)

/-- After an entry comes another one or the end of the mapping, and no hyphen. -/
theorem SpellsEntries.append_eq (h : SpellsEntries ts es) (he : e.kind = .blockEnd)
    (after : List Token) : ∃ t us, ts ++ e :: after = t :: us ∧ t.kind ≠ .blockEntry := by
  cases h with
  | nil => exact ⟨e, after, rfl, by rw [he]; nofun⟩
  | cons hk _ _ _ _ => exact ⟨_, _, rfl, by rw [hk]; nofun⟩

/-- A token that begins a node stands for no missing key or value. -/
theorem not_absent {x : Token} (h : BeginsNode inline x.kind) :
    (decide (x.kind = .key) || decide (x.kind = .value) || decide (x.kind = .blockEnd))
      = false := by
  obtain ⟨hkey, hvalue, hend, -⟩ := h
  rw [decide_eq_false hkey, decide_eq_false hvalue, decide_eq_false hend]
  rfl

theorem blockValue_eq (hv : tv.kind = .value) (h : Spells inline vts v) (hu : t.kind ≠ .blockEntry)
    (after : List Token) (hf : 2 * vts.length < fuel) :
    blockValue fuel (st.at (tv :: (vts ++ t :: after))) = .ok (v, st.at (t :: after)) := by
  obtain ⟨fuel, rfl⟩ := Nat.exists_eq_add_one_of_ne_zero (Nat.ne_zero_of_lt hf)
  obtain ⟨x, xs, hvts, hbegin⟩ := h.begins
  have hnode := h.parse .entry fuel st t after nofun (fun _ ↦ ⟨rfl, hu⟩) (by omega)
  rw [blockValue, peek_bind, if_pos hv, take_bind, hvts, List.cons_append, kind_bind,
    not_absent hbegin, if_neg Bool.false_ne_true, ← List.cons_append, ← hvts]
  exact hnode

theorem blockEntries_eq (h : SpellsEntries ts es) (he : e.kind = .blockEnd) (start : Mark)
    (after : List Token) (hf : 2 * ts.length < fuel) :
    blockEntries start fuel (st.at (ts ++ e :: after)) = .ok (es, st.at after) := by
  induction h generalizing fuel with
  | nil =>
    obtain ⟨fuel, rfl⟩ := Nat.exists_eq_add_one_of_ne_zero (Nat.ne_zero_of_lt hf)
    rw [blockEntries, List.nil_append, peek_bind, he]
    rfl
  | @cons inline tk tv kts vts us k v es hk h hv h' hs ih =>
    obtain ⟨fuel, rfl⟩ := Nat.exists_eq_add_one_of_ne_zero (Nat.ne_zero_of_lt hf)
    simp only [List.length_cons, List.length_append] at hf
    obtain ⟨u, us', hus, hu⟩ := hs.append_eq he after
    obtain ⟨x, xs, hkts, hbegin⟩ := h.begins
    have hkey := h.parse .entry fuel st tv (vts ++ (us ++ e :: after)) nofun nofun (by omega)
    -- A sequence without indentation may be the value, as no hyphen comes after it.
    have hvalue : blockValue fuel (st.at (tv :: (vts ++ (us ++ e :: after))))
        = .ok (v, st.at (us ++ e :: after)) := by
      rw [hus]
      exact blockValue_eq hv h' hu us' (by omega)
    rw [blockEntries, List.cons_append, List.append_assoc, List.cons_append, List.append_assoc,
      peek_bind, hk]
    dsimp only
    rw [take_bind, hkts, List.cons_append, kind_bind, not_absent hbegin, if_neg Bool.false_ne_true,
      ← List.cons_append, ← hkts, parse_bind hkey,
      parse_bind hvalue, parse_bind (ih (by omega))]
    rfl

theorem spells_map (h : SpellsEntries ts es) (he : e.kind = .blockEnd) (m m' : Mark) :
    Spells false (⟨.blockMappingStart, m, m'⟩ :: (ts ++ [e])) (.map .map es m none) where
  begins := ⟨_, _, rfl, nofun, nofun, nofun, fun _ ↦ nofun⟩
  parse := by
    intro place fuel st t after hplace _ hf
    simp only [List.length_cons, List.length_append, List.length_nil] at hf
    obtain ⟨fuel, rfl⟩ := Nat.exists_eq_add_one_of_ne_zero (Nat.ne_zero_of_lt hf)
    have hfuel : 2 * ts.length < fuel := by omega
    have hentries : blockEntries m fuel (st.at (ts ++ e :: t :: after))
        = .ok (es, st.at (t :: after)) := blockEntries_eq h he m (t :: after) hfuel
    rw [List.cons_append, List.append_assoc, List.singleton_append, node]
    cases place with
    | flow => exact absurd rfl hplace
    | block =>
      change (blockEntries m fuel >>= fun es ↦ pure (Node.map .map es m none))
        (st.at (ts ++ e :: t :: after)) = _
      rw [parse_bind hentries]
      rfl
    | entry =>
      change (blockEntries m fuel >>= fun es ↦ pure (Node.map .map es m none))
        (st.at (ts ++ e :: t :: after)) = _
      rw [parse_bind hentries]
      rfl

/-! ## Documents -/

/-- **A stream of one mapping** is read as this mapping. -/
theorem ofTokens_of_spells {s₁ s₂ e₁ e₂ m m' : Mark}
    (h : Spells false (⟨.blockMappingStart, m, m'⟩ :: ts) nd) :
    Node.ofTokens (⟨.streamStart, s₁, s₂⟩ :: ((⟨.blockMappingStart, m, m'⟩ :: ts) ++
      [⟨.streamEnd, e₁, e₂⟩])) none = .ok (some nd) := by
  have hroot := h.parse .block (4 * (⟨.streamStart, s₁, s₂⟩ :: ((⟨.blockMappingStart, m, m'⟩ :: ts)
    ++ [⟨.streamEnd, e₁, e₂⟩])).length + 8) ⟨[], none, defaultHandles, []⟩ ⟨.streamEnd, e₁, e₂⟩ []
    nofun nofun (by simp only [List.length_cons, List.length_append]; omega)
  rw [Node.ofTokens]
  generalize hfuel : 4 * (_ : List Token).length + 8 = fuel at hroot ⊢
  have hfuel : fuel ≠ 0 := by omega
  have hrun : singleDocument fuel (ParseState.at ⟨[], none, defaultHandles, []⟩
      (⟨.streamStart, s₁, s₂⟩ :: ((⟨.blockMappingStart, m, m'⟩ :: ts) ++ [⟨.streamEnd, e₁, e₂⟩])))
      = .ok (some nd, ParseState.at ⟨[], none, defaultHandles, []⟩ [⟨.streamEnd, e₁, e₂⟩]) := by
    rw [singleDocument, take_bind, List.cons_append, peek_bind]
    dsimp only
    rw [modify_bind]
    refine Eq.trans (parse_bind hroot _) ?_
    obtain ⟨fuel, rfl⟩ := Nat.exists_eq_add_one_of_ne_zero hfuel
    rfl
  change (fun p ↦ p.1) <$> singleDocument fuel (ParseState.at ⟨[], none, defaultHandles, []⟩ _) = _
  rw [hrun]
  rfl

end GatewayPrint.Yaml
