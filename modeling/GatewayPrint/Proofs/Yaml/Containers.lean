import GatewayPrint.Proofs.Yaml.Blocks

/-!
# Lists and mappings that are written and read

An entry is put before other entries as an item is put before other items, and a list or a mapping
is the block of its items or entries, closed by the line that follows it. So all plain data are
written as text that can be read (`readable`).
-/

namespace GatewayPrint.Yaml

open Scanner Cursor

variable {c : Cursor} {p q : Pen} {rest w : List Char} {m n j lo a b len : Nat} {k : String}
  {inline fresh : Bool} {v : Value} {xs : List Value} {es : List (Value × Value)}
  {ps ts us : List Token} {indent : Int} {outer : List Int}

/-! ## Entries in turn -/

theorem conveysEntries_nil : ConveysEntries lo len [] [] := ⟨[], .nil, Node.meansEntries_nil⟩

theorem ConveysEntry.cons (h : ConveysEntry lo a ts k v) (hs : ConveysEntries lo b us es)
    (hlen : a + b ≤ len) : ConveysEntries lo len (ts ++ us) ((.text k, v) :: es) := by
  obtain ⟨inline, tk, kts, tv, vts, m, a', rfl, hk, hv, hkey, ⟨nd, hspell, hmeans⟩, ha⟩ := h
  obtain ⟨nds, hspells, hmeansEntries⟩ := hs
  refine ⟨_ :: nds, ?_, (Node.meansEntries_cons m k hmeans hmeansEntries).mono (Nat.le_refl _)
    (by omega)⟩
  have htokens := SpellsEntries.cons hk hkey hv hspell hspells
  simpa only [List.cons_append, List.append_assoc] using htokens

/-- What is read of a text that is written for entries at indentation `m`. -/
structure ReadsEntries (m : Nat) (es : List (Value × Value)) (w : List Char) : Prop where
  follows : ∀ i rest, Follows i (w ++ rest)
  scans : ∀ (c : Cursor) (ps : List Token) (indent : Int) (outer : List Int) (j : Nat)
    (rest : List Char), Ahead c w j m rest → c.mark.column = m → indent ≤ m →
    Scans (stand true c ps indent outer) (entryTexts m es)
      (fun ts ↦ stand true (after c w j) (ps ++ (opening .blockMappingStart indent m c.mark ++ ts))
        m (around indent m outer))
      (ConveysEntries (c.mark.index + 1) w.length · (heardEntries m es))

private theorem reads_entry (h : ReadsEntry m k v w) : ReadsEntries m [(.text k, v)] w where
  follows := h.follows
  scans := by
    intro c ps indent outer j rest ha hc hi
    have htexts : entryTexts m [(.text k, v)]
        = placed m true k :: textsOf m (isOnLine (.text k)) v := by
      rw [entryTexts, entryTexts, List.append_nil]
    rw [htexts]
    refine (h.scans c ps indent outer j rest ha hc hi).imp id (fun ts hts ↦ ?_) fun _ _ _ hr ↦ hr
    have hcons := ConveysEntry.cons hts conveysEntries_nil (Nat.le_refl (w.length + 0))
    rwa [List.append_nil] at hcons

private theorem reads_entries {w' : List Char} (h : ReadsEntry m k v w)
    (hs : ReadsEntries m es w') :
    ReadsEntries m ((.text k, v) :: es) (w ++ '\n' :: (List.replicate m ' ' ++ w')) where
  follows := by
    intro i rest
    rw [List.append_assoc]
    exact h.follows i _
  scans := by
    intro c ps indent outer j rest ha hc hi
    -- The next entry stands in the column of this one, so no block is opened or closed before it.
    obtain ⟨ha', hcolumn, hindex⟩ := ha.second
    have hfirst := h.scans c ps indent outer m _ (ha.first fun i rest ↦ hs.follows i _) hc hi
    have htexts : entryTexts m ((.text k, v) :: es)
        = (placed m true k :: textsOf m (isOnLine (.text k)) v) ++ entryTexts m es := by
      rw [entryTexts, List.cons_append]
    rw [htexts]
    refine hfirst.trans fun ts hts ↦ ?_
    refine (hs.scans _ _ m _ j rest ha' hcolumn (Int.le_refl _)).imp (ts ++ ·) (fun us hus ↦ ?_)
      fun us r _ hr ↦ ?_
    · obtain ⟨nds, hspells, hmeans⟩ := hus
      refine ConveysEntry.cons hts ⟨nds, hspells, hmeans.mono (by omega) (Nat.le_refl _)⟩ ?_
      simp only [List.length_append, List.length_cons]
      omega
    · rw [opening_self, around_self, after_after, List.append_assoc, List.append_assoc]
      exact hr

/-! ## Writing entries -/

def Tree.writeEntry (indent : Nat) (k v : Tree) (p : Pen) : Pen :=
  let p := p.toColumn indent
  let p :=
    if Tree.isSimpleKey k then
      (Tree.write (some indent) true true k p).indicator [':'] false false false
    else
      let p := Tree.write (some indent) true false k (p.indicator ['?'] true false true)
      (p.toColumn indent).indicator [':'] true false true
  Tree.write (some indent) true false v p

theorem Tree.writeEntries_cons (indent : Nat) (k v : Tree) (es : List (Tree × Tree)) (p : Pen) :
    Tree.writeEntries indent ((k, v) :: es) p
      = Tree.writeEntries indent es (Tree.writeEntry indent k v p) := by
  rw [Tree.writeEntries]
  rfl

theorem Tree.text_map (hne : es ≠ []) :
    (treeOf (.map es)).text = ((writeEntries 0 (entryTrees es) .start).toColumn 0).out := by
  obtain ⟨e, es, rfl⟩ := List.exists_cons_of_ne_nil hne
  rfl

/-- Entries begin by moving to their column, so it does not matter who moves there. -/
theorem Tree.writeEntries_toColumn (h : (p.toColumn m).Begins m) (e : Tree × Tree)
    (es : List (Tree × Tree)) :
    writeEntries m (e :: es) p = writeEntries m (e :: es) (p.toColumn m) := by
  rw [writeEntries_cons, writeEntries_cons, writeEntry, writeEntry, h.toColumn]

private theorem readable_lineEntry {k : String} (hline : isOnLine (.text k) = true)
    (hv : IsReadable v) (hq : q.Begins m) :
    ∃ w, Extends q (Tree.writeEntry m (treeOf (.text k)) (treeOf v) q) w ∧ ReadsEntry m k v w := by
  have hkey : treeOf (.text k) = .scalar .text k.toList false := rfl
  have hsimple : Tree.isSimpleKey (.scalar .text k.toList false) = true := hline
  have hwritten : (Tree.write (some m) true true (.scalar .text k.toList false) q).indicator [':']
      false false false = ⟨q.out ++ Tree.writtenKey k.toList ++ [':'],
        q.column + (Tree.writtenKey k.toList).length + 1, false, false⟩ := by
    rw [Tree.write, Tree.writeScalar_key hsimple hq.spaced, Tree.indicator_close]
    rfl
  have hp : Pen.Inside ⟨q.out ++ Tree.writtenKey k.toList ++ [':'],
      q.column + (Tree.writtenKey k.toList).length + 1, false, false⟩ m :=
    ⟨rfl, by rw [hq.column]; dsimp only; omega, fun h ↦ absurd h Bool.false_ne_true⟩
  obtain ⟨w, hw, hreads⟩ := hv m true _ hp fun h ↦ absurd h.symm Bool.false_ne_true
  rw [hkey, Tree.writeEntry, hq.toColumn]
  dsimp only
  rw [if_pos hsimple, hwritten]
  refine ⟨_, ⟨?_, hw.fresh⟩, reads_lineEntry hline hreads⟩
  rw [hw.out]
  simp only [List.append_assoc, List.cons_append, List.nil_append]

/-- Any other key follows a question mark, and its colon begins a line. -/
theorem readable_longEntry {k : String} (hline : isOnLine (.text k) = false) (hv : IsReadable v)
    (hq : q.Begins m) :
    ∃ w, Extends q (Tree.writeEntry m (treeOf (.text k)) (treeOf v) q) w ∧ ReadsEntry m k v w := by
  have hkey : treeOf (.text k) = .scalar .text k.toList false := rfl
  have hsimple : ¬Tree.isSimpleKey (.scalar .text k.toList false) = true := by
    have hfalse : Tree.isSimpleKey (.scalar .text k.toList false) = false := hline
    rw [hfalse]
    exact Bool.false_ne_true
  have hp₁ : Pen.Inside ⟨q.out ++ ['?'], m + 1, false, true⟩ m :=
    ⟨rfl, Nat.le_refl _, fun _ ↦ rfl⟩
  obtain ⟨plain, wk, hwk, hbody, htag⟩ := writes_text true k hp₁ hline
  rw [hkey, Tree.writeEntry, hq.toColumn]
  dsimp only
  rw [if_neg hsimple, hq.indicator, Tree.write, Option.getD_some]
  generalize Tree.writeScalar (m + 2) false .text k.toList false
    ⟨q.out ++ ['?'], m + 1, false, true⟩ = p₂ at hwk ⊢
  have hbegins : (p₂.toColumn m).Begins m := Pen.begins_of_not_fresh hwk.fresh
  have hp₃ : Pen.Inside ⟨(p₂.toColumn m).out ++ [':'], m + 1, false, true⟩ m :=
    ⟨rfl, Nat.le_refl _, fun _ ↦ rfl⟩
  rw [hbegins.indicator]
  obtain ⟨w, hw, hreads⟩ := hv m true _ hp₃ fun h ↦ absurd h.symm Bool.false_ne_true
  refine ⟨_, ⟨?_, hw.fresh⟩, reads_longEntry hline hbody htag hreads⟩
  rw [hw.out, Pen.toColumn_of_not_fresh (.inl hwk.fresh), hwk.out]
  simp only [List.append_assoc, List.cons_append, List.nil_append]

/-- What the pen writes for an entry can be read. -/
theorem readable_entry (k : String) (hv : IsReadable v) (hq : q.Begins m) :
    ∃ w, Extends q (Tree.writeEntry m (treeOf (.text k)) (treeOf v) q) w ∧ ReadsEntry m k v w := by
  cases hline : isOnLine (.text k) with
  | true => exact readable_lineEntry hline hv hq
  | false => exact readable_longEntry hline hv hq

/-- What the pen writes for the entries of a mapping can be read. -/
theorem readable_entries (hkeys : Value.TextKeys es) (h : ∀ e ∈ es, IsReadable e.2) (hne : es ≠ [])
    (hq : q.Begins m) :
    ∃ w, Extends q (Tree.writeEntries m (entryTrees es) q) w ∧ ReadsEntries m es w := by
  induction es generalizing q with
  | nil => exact absurd rfl hne
  | cons e es ih =>
    obtain ⟨k, v⟩ := e
    obtain ⟨k, rfl⟩ : ∃ s, k = .text s := hkeys (k, v) List.mem_cons_self
    obtain ⟨w, hw, hreads⟩ := readable_entry k (h (_, v) List.mem_cons_self) hq
    rw [entryTrees, Tree.writeEntries_cons]
    generalize Tree.writeEntry m (treeOf (.text k)) (treeOf v) q = p' at hw
    cases es with
    | nil => exact ⟨w, hw, reads_entry hreads⟩
    | cons e es =>
      have hbegins : (p'.toColumn m).Begins m := Pen.begins_of_not_fresh hw.fresh
      obtain ⟨w', hw', hreads'⟩ := ih (fun f hf ↦ hkeys f (List.mem_cons_of_mem _ hf))
        (fun f hf ↦ h f (List.mem_cons_of_mem _ hf)) (List.cons_ne_nil _ _) hbegins
      have hmove : Tree.writeEntries m (entryTrees (e :: es)) p'
          = Tree.writeEntries m (entryTrees (e :: es)) (p'.toColumn m) :=
        Tree.writeEntries_toColumn hbegins _ _
      refine ⟨_, ⟨?_, ?_⟩, reads_entries hreads hreads'⟩
      · rw [hmove, hw'.out, Pen.toColumn_of_not_fresh (.inl hw.fresh), hw.out]
        simp only [List.append_assoc, List.cons_append]
      · rw [hmove]
        exact hw'.fresh

/-! ## Blocks in blocks -/

/-- The cursor before a block that follows what is written to come to its column. -/
theorem Ahead.block (h : Ahead c (Pen.lead fresh m ++ w) j n rest) (hn : n ≤ m)
    (hc : fresh = true → c.mark.column + 1 = m) :
    Ahead (c.advance (Pen.lead fresh m).length) w j m rest ∧
      (c.advance (Pen.lead fresh m).length).mark.column = m ∧
      c.mark.index < (c.advance (Pen.lead fresh m).length).mark.index := by
  have hchars : c.rest = Pen.lead fresh m ++ (w ++ '\n' :: (List.replicate j ' ' ++ rest)) := by
    rw [h.chars, List.append_assoc]
  obtain ⟨hrest, hcolumn, hindex⟩ := advance_lead hchars hc
  exact ⟨⟨hrest, h.follows, Nat.le_trans h.le hn⟩, hcolumn, hindex⟩

theorem begins_lead (fresh : Bool) (m : Nat) (w : List Char) :
    ∃ y w', Pen.lead fresh m ++ w = y :: w' ∧ endsWord y = true ∧ (fresh = true → y = ' ') := by
  cases fresh with
  | true => exact ⟨' ', w, rfl, by decide, fun _ ↦ rfl⟩
  | false => exact ⟨'\n', _, rfl, by decide, fun h ↦ absurd h Bool.false_ne_true⟩

/-- **A block inside a block** is opened before its first line and closed by the line after it,
which is indented by less. -/
theorem scans_block {kind : Token.Kind} {texts : List PlacedText} {P : Mark → List Token → Prop}
    (hstart : ∀ rest, StartsLexeme (w ++ '\n' :: rest))
    (hscan : ∀ (c : Cursor) (ps : List Token) (indent : Int) (outer : List Int) (j : Nat)
      (rest : List Char), Ahead c w j (n + 2) rest → c.mark.column = n + 2 →
      indent ≤ (n + 2 : Nat) →
      Scans (stand true c ps indent outer) texts
        (fun ts ↦ stand true (after c w j) (ps ++ (opening kind indent (n + 2) c.mark ++ ts))
          (n + 2 : Nat) (around indent (n + 2) outer)) (P c.mark))
    (ha : Ahead c (Pen.lead fresh (n + 2) ++ w) j n rest)
    (hc : fresh = true → c.mark.column = n + 1) :
    Scans (stand fresh c ps n outer) texts
      (fun ts ↦ stand true (after c (Pen.lead fresh (n + 2) ++ w) j) (ps ++ ts) n outer)
      (fun us ↦ ∃ m ts e, us = .here kind m :: (ts ++ [.here .blockEnd e]) ∧
        c.mark.index < m.index ∧ P m ts) := by
  have hchars : c.rest
      = Pen.lead fresh (n + 2) ++ (w ++ '\n' :: (List.replicate j ' ' ++ rest)) := by
    rw [ha.chars, List.append_assoc]
  obtain ⟨ha', hcolumn, hindex⟩ := ha.block (Nat.le_add_right n 2) fun h ↦ congrArg (· + 1) (hc h)
  obtain ⟨hrest, hafter, -⟩ := advance_line ha'.chars
  have hdeeper : (n : Int) < (n + 2 : Nat) := Int.ofNat_lt.mpr (by omega)
  refine ((hscan _ ps n outer j rest ha' hcolumn (Int.le_of_lt hdeeper)).of_runs fun r hr ↦
    runs_lead hchars (hstart _) hr).imp
    (fun ts ↦ .here kind (c.advance (Pen.lead fresh (n + 2)).length).mark ::
      (ts ++ [.here .blockEnd (after (c.advance (Pen.lead fresh (n + 2)).length) w j).mark]))
    (fun ts hts ↦ ⟨_, ts, _, rfl, hindex, hts⟩) fun ts r _ hr ↦ ?_
  rw [opening, around, if_pos hdeeper, if_pos hdeeper]
  -- The next line is indented by `j`, which is at most `n`, so the block ends before it.
  refine runs_close (by rw [after, hrest]; exact ha.follows.starts) ?_ ?_
  · rw [after, hafter]
    exact Int.ofNat_lt.mpr (Nat.lt_of_le_of_lt ha.le (by omega))
  · rw [after_append] at hr ⊢
    simp only [List.append_assoc, List.cons_append, List.nil_append]
    exact hr

/-! ## Lists and mappings -/

theorem length_block (fresh : Bool) (m : Nat) (w : List Char) :
    w.length < (Pen.lead fresh m ++ w).length := by
  obtain ⟨y, w', hlead, -⟩ := begins_lead fresh m []
  rw [List.append_nil] at hlead
  rw [List.length_append, hlead, List.length_cons]
  omega

private theorem reads_list (h : ReadsItems (n + 2) xs w) (hinline : inline = false) :
    ReadsNode n inline fresh (.list xs) (Pen.lead fresh (n + 2) ++ w) where
  begins := begins_lead fresh (n + 2) w
  scans := by
    intro c ps outer j rest ha hc hcol
    subst hinline
    have hlen := length_block fresh (n + 2) w
    refine (scans_block (P := fun m ts ↦ ConveysItems m w.length ts (heardItems (n + 2) xs))
      (fun rest ↦ (h.follows 0 rest).starts) h.scans ha hcol).imp id (fun us hus ↦ ?_)
      fun _ _ _ hr ↦ hr
    obtain ⟨m, ts, e, rfl, hm, -, nds, hspells, hmeans⟩ := hus
    exact ⟨_, spells_seq hspells rfl m m, Node.means_seq (Nat.le_of_lt hm) (by omega)
      (hmeans.mono (Nat.le_refl _) (Nat.le_of_lt hlen))⟩

/-- A list whose items have no indentation of their own. -/
theorem reads_inlineList (h : ReadsItems n xs w) :
    ReadsNode n true false (.list xs) (Pen.lead false n ++ w) where
  begins := begins_lead false n w
  scans := by
    intro c ps outer j rest ha hc _
    have hchars : c.rest = Pen.lead false n ++ (w ++ '\n' :: (List.replicate j ' ' ++ rest)) := by
      rw [ha.chars, List.append_assoc]
    obtain ⟨ha', hcolumn, hindex⟩ := ha.block (Nat.le_refl n) fun h ↦ absurd h Bool.false_ne_true
    have hlen := length_block false n w
    refine ((h.scans _ ps n outer j rest ha' hcolumn (Int.le_refl _)).of_runs fun r hr ↦
      runs_lead hchars (h.follows j _).starts hr).imp id (fun us hus ↦ ?_) fun ts r _ hr ↦ ?_
    · obtain ⟨⟨e, us, rfl⟩, nds, hspells, hmeans⟩ := hus
      exact ⟨_, spells_indentless hspells, Node.means_seq (Nat.le_of_lt hindex) (by omega)
        (hmeans.mono (Nat.le_refl _) (Nat.le_of_lt hlen))⟩
    · rw [opening_self, around_self, after_append]
      exact hr

theorem reads_map (h : ReadsEntries (n + 2) es w) :
    ReadsNode n inline fresh (.map es) (Pen.lead fresh (n + 2) ++ w) where
  begins := begins_lead fresh (n + 2) w
  scans := by
    intro c ps outer j rest ha hc hcol
    have hlen := length_block fresh (n + 2) w
    refine (scans_block (P := fun m ts ↦
      ConveysEntries (m.index + 1) w.length ts (heardEntries (n + 2) es))
      (fun rest ↦ (h.follows 0 _).starts) h.scans ha hcol).imp id (fun us hus ↦ ?_)
      fun _ _ _ hr ↦ hr
    obtain ⟨m, ts, e, rfl, hm, nds, hspells, hmeans⟩ := hus
    exact ⟨_, (spells_map hspells rfl m m).anywhere inline, Node.means_map (Nat.le_of_lt hm)
      (by omega) (hmeans.mono (Nat.le_refl _) (Nat.le_of_lt hlen))⟩

theorem Pen.Inside.begins (h : p.Inside n) (hm : p.fresh = true → m = n + 2) :
    (p.toColumn m).Begins m := by
  rw [h.toColumn hm]
  exact ⟨rfl, rfl, rfl⟩

/-- What the pen writes for the items of a list inside a block, from the end of the line before. -/
theorem readable_itemLines (hne : xs ≠ []) (h : ∀ x ∈ xs, IsReadable x) (hp : p.Inside n)
    (hm : p.fresh = true → m = n + 2) :
    ∃ w, Extends p (Tree.writeItems m (treesOf xs) p) (Pen.lead p.fresh m ++ w) ∧
      ReadsItems m xs w := by
  have hbegins := hp.begins hm
  obtain ⟨w, hw, hreads⟩ := readable_items h hne hbegins
  obtain ⟨x, xs, rfl⟩ := List.exists_cons_of_ne_nil hne
  have hmove : Tree.writeItems m (treesOf (x :: xs)) p
      = Tree.writeItems m (treesOf (x :: xs)) (p.toColumn m) :=
    Tree.writeItems_toColumn hbegins _ _
  refine ⟨w, ⟨?_, ?_⟩, hreads⟩
  · rw [hmove, hw.out, hp.toColumn hm, List.append_assoc]
  · rw [hmove]
    exact hw.fresh

private theorem readable_list (hne : xs ≠ []) (h : ∀ x ∈ xs, IsReadable x) :
    IsReadable (.list xs) := by
  intro n entry p hp _
  have hwrite : Tree.write (some n) entry false (treeOf (.list xs)) p
      = Tree.writeItems (if entry && !p.fresh then n else n + 2) (treesOf xs) p := by
    obtain ⟨x, xs, rfl⟩ := List.exists_cons_of_ne_nil hne
    rw [treeOf, treesOf, Tree.write]
  rw [hwrite]
  -- A list on the line of its key takes no indentation of its own.
  cases hinline : (entry && !p.fresh) with
  | true =>
    have hfresh : p.fresh = false := (Bool.not_eq_true' _).mp (Bool.and_eq_true_iff.mp hinline).2
    obtain ⟨w, hw, hreads⟩ := readable_itemLines (m := n) hne h hp
      fun hf ↦ absurd (hfresh.symm.trans hf) Bool.false_ne_true
    rw [hfresh] at hw ⊢
    exact ⟨_, hw, reads_inlineList hreads⟩
  | false =>
    obtain ⟨w, hw, hreads⟩ := readable_itemLines (m := n + 2) hne h hp fun _ ↦ rfl
    exact ⟨_, hw, reads_list hreads rfl⟩

theorem readable_map (hkeys : Value.TextKeys es) (h : ∀ e ∈ es, IsReadable e.2) (hne : es ≠ []) :
    IsReadable (.map es) := by
  intro n entry p hp _
  have hbegins : (p.toColumn (n + 2)).Begins (n + 2) := hp.begins fun _ ↦ rfl
  obtain ⟨w, hw, hreads⟩ := readable_entries hkeys h hne hbegins
  obtain ⟨e, es, rfl⟩ := List.exists_cons_of_ne_nil hne
  have hwrite : Tree.write (some n) entry false (treeOf (.map (e :: es))) p
      = Tree.writeEntries (n + 2) (entryTrees (e :: es)) (p.toColumn (n + 2)) := by
    rw [treeOf, entryTrees, Tree.write, if_pos rfl]
    exact Tree.writeEntries_toColumn hbegins _ _
  refine ⟨_, ⟨?_, ?_⟩, reads_map hreads⟩
  · rw [hwrite, hw.out, hp.toColumn fun _ ↦ rfl, List.append_assoc]
  · rw [hwrite]
    exact hw.fresh

/-! ## Plain data -/

/-- **What the pen writes for plain data can be read**, wherever the data stand. -/
theorem readable (h : Printable v) : IsReadable v := by
  induction h with
  | null => exact readable_plain writesPlain_null (fun _ _ ↦ rfl) fun _ _ ↦ rfl
  | bool b => exact readable_plain (writesPlain_bool b) (fun _ _ ↦ rfl) fun _ _ ↦ rfl
  | int h => exact readable_plain (writesPlain_int h) (fun _ _ ↦ rfl) fun _ _ ↦ rfl
  | text => exact readable_text _
  | @list xs h ih =>
    by_cases hne : xs = []
    · rw [hne]
      exact readable_list_nil
    · exact readable_list hne ih
  | @map es hkeys hnodup h ih =>
    by_cases hne : es = []
    · rw [hne]
      exact readable_map_nil
    · exact readable_map (textKeys_of_keys hkeys) ih hne

end GatewayPrint.Yaml
