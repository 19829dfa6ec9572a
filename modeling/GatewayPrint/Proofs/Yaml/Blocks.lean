import GatewayPrint.Proofs.Yaml.Built
import GatewayPrint.Proofs.Yaml.Heard
import GatewayPrint.Proofs.Yaml.Parsed

/-!
# Blocks that are written and read

What the pen writes for a value, an item or an entry is related to what the scanner does with it
(`Scans`): either all keys on a line fit, and the scanner comes to the beginning of the next line
with the tokens of the value that is heard, or some key does not fit, and it fails. Here it is shown
for scalars and empty brackets, for the items of a list, and for a single entry of a mapping.
-/

namespace GatewayPrint.Yaml

open Scanner Cursor

variable {c : Cursor} {p q : Pen} {rest s w : List Char} {x y : Char} {m n j : Nat}
  {plain fresh inline allowed : Bool} {v : Value} {ps ts : List Token} {indent : Int}
  {outer : List Int}

/-! ## The pen at the beginning of a line -/

namespace Pen

/-- What is written to come to column `n`: a space after a structural indicator, a new line
otherwise. -/
def lead (fresh : Bool) (n : Nat) : List Char :=
  if fresh then [' '] else '\n' :: List.replicate n ' '

private theorem toColumn_of_fresh (h : p.fresh = true) (hc : p.column = n + 1) :
    p.toColumn (n + 2) = ⟨p.out ++ lead true (n + 2), n + 2, true, true⟩ := by
  have hstay : (!p.fresh || decide (n + 2 < p.column) ||
      (decide (p.column = n + 2) && !p.spaced)) = false := by
    rw [h, hc, decide_eq_false (by omega), decide_eq_false (by omega)]
    rfl
  rw [toColumn, hstay, if_neg Bool.false_ne_true, hc, if_pos (by omega), put, hc, h,
    show n + 2 - (n + 1) = 1 by omega]
  rfl

private theorem toColumn_of_column (h : p.fresh = true) (hs : p.spaced = true) (hc : p.column = n) :
    p.toColumn n = p := by
  have hstay : (!p.fresh || decide (n < p.column) || (decide (p.column = n) && !p.spaced))
      = false := by
    rw [h, hs, hc, decide_eq_false (Nat.lt_irrefl n), Bool.not_true, Bool.and_false]
    rfl
  rw [toColumn, hstay, if_neg Bool.false_ne_true, hc, if_neg (Nat.lt_irrefl n)]

/-- A pen at the beginning of a line, after `n` columns of indentation. -/
structure Begins (p : Pen) (n : Nat) : Prop where
  fresh : p.fresh = true
  spaced : p.spaced = true
  column : p.column = n

theorem Begins.toColumn (h : p.Begins n) : p.toColumn n = p :=
  toColumn_of_column h.fresh h.spaced h.column

theorem Begins.indicator (h : p.Begins n) (x : Char) :
    p.indicator [x] true false true = ⟨p.out ++ [x], n + 1, false, true⟩ := by
  rw [Pen.indicator, h.spaced, h.fresh, ← h.column]
  rfl

/-- Away from indentation and indicators a pen moves to a column on a new line. -/
theorem begins_of_not_fresh (h : p.fresh = false) : (p.toColumn m).Begins m := by
  rw [toColumn_of_not_fresh (.inl h)]
  exact ⟨rfl, rfl, rfl⟩

/-- A pen after a scalar or an indicator inside a block of indentation `n`. -/
structure Inside (p : Pen) (n : Nat) : Prop where
  spaced : p.spaced = false
  column : n + 1 ≤ p.column
  fresh : p.fresh = true → p.column = n + 1

theorem Inside.toColumn (h : p.Inside n) (hm : p.fresh = true → m = n + 2) :
    p.toColumn m = ⟨p.out ++ lead p.fresh m, m, true, true⟩ := by
  cases hf : p.fresh with
  | false => exact toColumn_of_not_fresh (.inl hf)
  | true =>
    rw [hm hf]
    exact toColumn_of_fresh hf (h.fresh hf)

end Pen

/-! ## The scanner between lines -/

/-- All texts can be read. -/
def Fits (ts : List PlacedText) : Prop := ∀ t ∈ ts, t.fits = true

theorem fits_append {as bs : List PlacedText} : Fits (as ++ bs) ↔ Fits as ∧ Fits bs :=
  List.forall_mem_append

/-- The scanner comes from `s` to `next ts` by tokens `ts` of which `P` holds if the texts can be
read, and fails otherwise. -/
def Scans (s : Scanner) (texts : List PlacedText) (next : List Token → Scanner)
    (P : List Token → Prop) : Prop :=
  (Fits texts ∧ ∃ ts, P ts ∧ ∀ r, Runs (next ts) r → Runs s r) ∨ (¬Fits texts ∧ Runs s none)

variable {s₁ s₂ : Scanner} {as bs : List PlacedText} {next next' : List Token → Scanner}
  {P Q : List Token → Prop}

theorem Scans.of_runs (h : Scans s₂ as next P) (hr : ∀ r, Runs s₂ r → Runs s₁ r) :
    Scans s₁ as next P := by
  rcases h with ⟨hf, ts, hP, h⟩ | ⟨hf, h⟩
  · exact .inl ⟨hf, ts, hP, fun r hts ↦ hr r (h r hts)⟩
  · exact .inr ⟨hf, hr none h⟩

theorem Scans.imp (h : Scans s₁ as next P) (f : List Token → List Token)
    (hPQ : ∀ ts, P ts → Q (f ts)) (hn : ∀ ts r, P ts → Runs (next' (f ts)) r → Runs (next ts) r) :
    Scans s₁ as next' Q := by
  rcases h with ⟨hf, ts, hP, h⟩ | ⟨hf, h⟩
  · exact .inl ⟨hf, f ts, hPQ ts hP, fun r hr ↦ h r (hn ts r hP hr)⟩
  · exact .inr ⟨hf, h⟩

theorem Scans.trans (h : Scans s₁ as next P)
    (h' : ∀ ts, P ts → Scans (next ts) bs next' Q) : Scans s₁ (as ++ bs) next' Q := by
  rcases h with ⟨hf, ts, hP, h⟩ | ⟨hf, h⟩
  · rcases h' ts hP with ⟨hf', us, hQ, h'⟩ | ⟨hf', h'⟩
    · exact .inl ⟨fits_append.mpr ⟨hf, hf'⟩, us, hQ, fun r hr ↦ h r (h' r hr)⟩
    · exact .inr ⟨fun hab ↦ hf' (fits_append.mp hab).2, h none h'⟩
  · exact .inr ⟨fun hab ↦ hf (fits_append.mp hab).1, h⟩

theorem Scans.of_fits (hf : Fits as) (h : Scans s₁ bs next P) : Scans s₁ (as ++ bs) next P := by
  rcases h with ⟨hb, h⟩ | ⟨hb, h⟩
  · exact .inl ⟨fits_append.mpr ⟨hf, hb⟩, h⟩
  · exact .inr ⟨fun hab ↦ hb (fits_append.mp hab).2, h⟩

/-- Without texts that may not fit, the scanner comes to the next state. -/
theorem scans_of_runs (hf : Fits as) (hP : P ts) (hr : ∀ r, Runs (next ts) r → Runs s₁ r) :
    Scans s₁ as next P := .inl ⟨hf, ts, hP, hr⟩

/-- The cursor after a text that is followed by a new line. -/
theorem advance_line (h : c.rest = w ++ '\n' :: (List.replicate j ' ' ++ rest)) :
    (c.advance (w.length + (1 + j))).rest = rest ∧
      (c.advance (w.length + (1 + j))).mark.column = j ∧
      c.mark.index + w.length < (c.advance (w.length + (1 + j))).mark.index := by
  have hw : (c.advance w.length).rest = '\n' :: (List.replicate j ' ' ++ rest) :=
    rest_advance_of_append h
  have hmark := mark_advance_newLine hw
  have hindex : (c.advance w.length).mark.index = c.mark.index + w.length :=
    index_advance (by rw [h, List.length_append]; exact Nat.le_add_right _ _)
  rw [← advance_advance, hmark, hindex]
  exact ⟨rest_advance_newLine hw, rfl, by dsimp only; omega⟩

theorem column_advance_one (h : c.rest = x :: rest) (hb : isBreak x = false) (hx : x ≠ '\ufeff') :
    (c.advance 1).mark.column = c.mark.column + 1 := by
  rw [advance_succ h, advance_zero, Mark.step, hb, Bool.false_and, if_neg Bool.false_ne_true,
    if_neg hx]

theorem index_advance_one (h : c.rest = x :: rest) :
    (c.advance 1).mark.index = c.mark.index + 1 := by
  rw [advance_succ h, advance_zero]
  exact Mark.step_index ..

/-- The cursor after what is written to come to a column. -/
theorem advance_lead (h : c.rest = Pen.lead fresh m ++ rest)
    (hc : fresh = true → c.mark.column + 1 = m) :
    (c.advance (Pen.lead fresh m).length).rest = rest ∧
      (c.advance (Pen.lead fresh m).length).mark.column = m ∧
      c.mark.index < (c.advance (Pen.lead fresh m).length).mark.index := by
  refine ⟨rest_advance_of_append h, ?_⟩
  cases fresh with
  | true =>
    have hspace : c.rest = ' ' :: rest := h
    have hindex := index_advance_one hspace
    exact ⟨(column_advance_one hspace (by decide) (by decide)).trans (hc rfl), by
      change c.mark.index < (c.advance 1).mark.index
      omega⟩
  | false =>
    have hlen : (Pen.lead false m).length = 1 + m := by
      rw [Pen.lead, if_neg Bool.false_ne_true, List.length_cons, List.length_replicate]
      exact Nat.add_comm m 1
    rw [hlen, mark_advance_newLine h]
    exact ⟨rfl, by dsimp only; omega⟩

theorem runs_lead {r : Option (List Token)} (h : c.rest = Pen.lead fresh m ++ rest)
    (hs : StartsLexeme rest)
    (hr : Runs (stand true (c.advance (Pen.lead fresh m).length) ps indent outer) r) :
    Runs (stand fresh c ps indent outer) r := by
  cases fresh with
  | true => exact runs_of_spaces (k := 1) h hs hr
  | false =>
    have hlen : (Pen.lead false m).length = 1 + m := by
      rw [Pen.lead, if_neg Bool.false_ne_true, List.length_cons, List.length_replicate]
      exact Nat.add_comm m 1
    rw [hlen] at hr
    exact runs_of_newLine h hs hr

/-! ## Tokens and what they convey -/

/-- Tokens that spell a node with a value; `lo` and `len` are a bound of its position and its
size. -/
def Conveys (inline : Bool) (lo len : Nat) (ts : List Token) (v : Value) : Prop :=
  ∃ nd, Spells inline ts nd ∧ Node.Means lo len nd v

/-- Tokens of items of a list, the first of them at a position. -/
def ConveysItems (m : Mark) (len : Nat) (ts : List Token) (xs : List Value) : Prop :=
  (∃ e us, ts = ⟨.blockEntry, m, e⟩ :: us) ∧
    ∃ nds, SpellsItems ts nds ∧ Node.MeansItems (m.index + 1) len nds xs

/-- Tokens of entries of a mapping. -/
def ConveysEntries (lo len : Nat) (ts : List Token) (es : List (Value × Value)) : Prop :=
  ∃ nds, SpellsEntries ts nds ∧ Node.MeansEntries lo len nds es

theorem Spells.anywhere {nd : Node} (h : Spells false ts nd) (b : Bool) : Spells b ts nd where
  begins := by
    obtain ⟨t, us, hts, hkey, hvalue, hend, hentry⟩ := h.begins
    exact ⟨t, us, hts, hkey, hvalue, hend, fun _ ↦ hentry rfl⟩
  parse := fun place fuel st t after hplace _ hf ↦
    h.parse place fuel st t after hplace nofun hf

/-- The cursor stands before a text that a line ends with, and the next line has `j` columns of
indentation, at most `n`. -/
structure Ahead (c : Cursor) (w : List Char) (j n : Nat) (rest : List Char) : Prop where
  chars : c.rest = w ++ '\n' :: (List.replicate j ' ' ++ rest)
  follows : Follows j rest
  le : j ≤ n

/-- The cursor at the beginning of the next line. -/
def after (c : Cursor) (w : List Char) (j : Nat) : Cursor := c.advance (w.length + (1 + j))

/-- What is read of a text that is written for a value inside a block of indentation `n`. -/
structure ReadsNode (n : Nat) (inline fresh : Bool) (v : Value) (w : List Char) : Prop where
  begins : ∃ y w', w = y :: w' ∧ endsWord y = true ∧ (fresh = true → y = ' ')
  scans : ∀ (c : Cursor) (ps : List Token) (outer : List Int) (j : Nat) (rest : List Char),
    Ahead c w j n rest → n + 1 ≤ c.mark.column → (fresh = true → c.mark.column = n + 1) →
    Scans (stand fresh c ps n outer) (textsOf n inline v)
      (fun ts ↦ stand true (after c w j) (ps ++ ts) n outer)
      (Conveys inline c.mark.index w.length · (heard n inline v))

/-- A pen that has written a text. -/
structure Extends (p q : Pen) (w : List Char) : Prop where
  out : q.out = p.out ++ w
  fresh : q.fresh = false

/-- What the pen writes for a value can be read. -/
def IsReadable (v : Value) : Prop :=
  ∀ (n : Nat) (entry : Bool) (p : Pen), p.Inside n → (entry = false → p.fresh = true) →
    ∃ w, Extends p (Tree.write (some n) entry false (treeOf v) p) w ∧
      ReadsNode n (entry && !p.fresh) p.fresh v w

/-! ## Scalars -/

theorem length_space (w : List Char) (j : Nat) :
    (' ' :: w).length + (1 + j) = 1 + (w.length + (1 + j)) := by
  rw [List.length_cons]
  omega

theorem runs_spaced {r : Option (List Token)} (h : ScalarBody n plain s w)
    (ha : Ahead c (' ' :: w) j n rest) (hc : n + 1 ≤ c.mark.column)
    (hr : Runs (stand true (after c (' ' :: w) j) (ps ++ [scalarToken plain s w (c.advance 1)])
      n outer) r) :
    Runs (stand allowed c ps n outer) r := by
  have hspace : c.rest = ' ' :: (w ++ '\n' :: (List.replicate j ' ' ++ rest)) := ha.chars
  have hcolumn := column_advance_one hspace (by decide) (by decide)
  refine runs_of_spaces (k := 1) hspace h.starts ?_
  rw [after, length_space, ← advance_advance] at hr
  exact runs_scalar h (rest_advance_one hspace) ha.follows (Int.le_refl _) (by omega)
    (by exact_mod_cast ha.le) hr

/-- What the pen writes for a text that is no key on a line, and what is heard of it. -/
theorem writes_text (key : Bool) (s : String) (hp : p.Inside n)
    (hkey : (placed n key s).onLine = false) :
    ∃ plain w, Extends p (Tree.writeScalar (n + 2) false .text s.toList false p) (' ' :: w) ∧
      ScalarBody n plain (placed n key s).heard w ∧
      Parse.scalarTag none (String.ofList (placed n key s).heard) plain = .text := by
  obtain ⟨plain, w, hw, hplain⟩ := Tree.writeScalar_text s.toList hp.spaced hp.column
  have hheard : (placed n key s).heard = Tree.heardText (lineWidth ≤ n + 2) s.toList :=
    heard_of_not_onLine hkey
  rw [hheard]
  refine ⟨plain, w, ⟨hw.out, hw.fresh⟩, hw.body, ?_⟩
  cases plain with
  | false => rfl
  | true =>
    obtain ⟨htag, hsame⟩ := hplain rfl
    rw [hsame, Parse.scalarTag, if_pos (by rfl)]
    exact htag

theorem fits_nil : Fits [] := fun _ ht ↦ absurd ht List.not_mem_nil

theorem index_le_advance_one (h : c.rest = x :: rest) :
    c.mark.index ≤ (c.advance 1).mark.index := by
  rw [index_advance_one h]
  exact Nat.le_succ _

/-- A scalar after a space, whose texts fit. -/
theorem reads_scalar {tag : Tag} {heard' : List Char} (hbody : ScalarBody n plain heard' w)
    (htag : Parse.scalarTag none (String.ofList heard') plain = tag)
    (hleaf : Node.isContainerTag tag = false)
    (hvalue : ∀ m, scalarValue tag (String.ofList heard') m = .ok (heard n inline v))
    (hfits : Fits (textsOf n inline v)) : ReadsNode n inline fresh v (' ' :: w) where
  begins := ⟨' ', w, rfl, by decide, fun _ ↦ rfl⟩
  scans := by
    intro c ps outer j rest ha hc hcol
    refine scans_of_runs hfits ⟨_, (spells_scalar _ _ _ _).anywhere inline, ?_⟩
      fun r hr ↦ runs_spaced hbody ha hc hr
    rw [htag]
    exact Node.means_scalar (index_le_advance_one ha.chars) (Nat.succ_pos _) hleaf (hvalue _)

theorem readable_text (s : String) : IsReadable (.text s) := by
  intro n entry p hp _
  obtain ⟨plain, w, hw, hbody, htag⟩ := writes_text false s hp rfl
  refine ⟨' ' :: w, hw, reads_scalar hbody htag rfl (fun _ ↦ rfl) ?_⟩
  intro t ht
  rw [List.mem_singleton.mp ht]
  rfl

theorem readable_plain {tag : Tag} (h : WritesPlain v tag s)
    (htexts : ∀ n inline, textsOf n inline v = []) (hheard : ∀ n inline, heard n inline v = v) :
    IsReadable v := by
  intro n entry p hp _
  obtain ⟨w, hw⟩ := Tree.writeScalar_plain (n := n) h.implied h.allowed h.ne_nil hp.spaced
  refine ⟨' ' :: w, ?_, reads_scalar hw.body ?_ h.leaf (fun m ↦ ?_) ?_⟩
  · rw [h.tree]
    exact ⟨hw.out, hw.fresh⟩
  · rw [Parse.scalarTag, if_pos (by rfl)]
    exact h.implied
  · rw [hheard]
    exact h.value m
  · rw [htexts]
    exact fits_nil

/-! ## Empty brackets -/

/-- What is read of a pair of brackets after a space. -/
theorem reads_brackets {opener closer : Token.Kind} {nd : Mark → Node}
    (hxy : x = '[' ∧ y = ']' ∧ opener = .flowSequenceStart ∧ closer = .flowSequenceEnd ∨
      x = '\x7b' ∧ y = '\x7d' ∧ opener = .flowMappingStart ∧ closer = .flowMappingEnd)
    (hspell : ∀ m₁ m₂ m₃ m₄, Spells false [⟨opener, m₁, m₂⟩, ⟨closer, m₃, m₄⟩] (nd m₁))
    (hmeans : ∀ {lo len m}, lo ≤ m.index → 0 < len → Node.Means lo len (nd m) (heard n inline v))
    (htexts : textsOf n inline v = []) : ReadsNode n inline fresh v [' ', x, y] where
  begins := ⟨' ', _, rfl, by decide, fun _ ↦ rfl⟩
  scans := by
    intro c ps outer j rest ha hc hcol
    have hspace : c.rest = ' ' :: x :: y :: '\n' :: (List.replicate j ' ' ++ rest) := ha.chars
    have hcolumn := column_advance_one hspace (by decide) (by decide)
    have hstart : StartsLexeme (x :: y :: '\n' :: (List.replicate j ' ' ++ rest)) := by
      rcases hxy with ⟨rfl, -⟩ | ⟨rfl, -⟩ <;> exact startsLexeme_cons (by decide)
    have hspells := hspell (c.advance 1).mark ((c.advance 1).advance 1).mark
      ((c.advance 1).advance 1).mark ((c.advance 1).advance 2).mark
    refine scans_of_runs (htexts ▸ fits_nil) ⟨_, hspells.anywhere inline,
      hmeans (index_le_advance_one hspace) (Nat.succ_pos _)⟩ fun r hr ↦ ?_
    -- The space before the bracket is skipped, and no new line begins.
    refine runs_of_spaces (k := 1) hspace hstart ?_
    have hlen : [' ', x, y].length + (1 + j) = 1 + (2 + (1 + j)) := by
      rw [List.length_cons, List.length_cons, List.length_singleton]
      omega
    rw [after, hlen, ← advance_advance] at hr
    refine runs_brackets (rest_advance_one hspace) ha.follows.starts hxy (by omega) ?_
    rw [List.append_assoc]
    exact hr

/-- A pair of brackets after a pen inside a block. -/
theorem extends_brackets (hp : p.Inside n) (x y : Char) (blank : Bool) :
    Extends p ((p.indicator [x] true blank false).indicator [y] false false false) [' ', x, y] where
  out := by
    rw [Tree.indicator_close, Tree.indicator_apart hp.spaced]
    exact List.append_assoc ..
  fresh := by
    rw [Tree.indicator_close]
    exact Bool.and_false _

theorem readable_list_nil : IsReadable (.list []) := fun _ _ _ hp _ ↦
  ⟨_, extends_brackets hp '[' ']' true, reads_brackets (.inl ⟨rfl, rfl, rfl, rfl⟩) spells_emptySeq
    (fun hlo hlen ↦ Node.means_seq hlo hlen Node.meansItems_nil) rfl⟩

theorem readable_map_nil : IsReadable (.map []) := fun _ _ _ hp _ ↦
  ⟨_, extends_brackets hp '\x7b' '\x7d' true, reads_brackets (.inr ⟨rfl, rfl, rfl, rfl⟩)
    spells_emptyMap (fun hlo hlen ↦ Node.means_map hlo hlen Node.meansEntries_nil) rfl⟩

/-! ## Places -/

theorem after_append (v w : List Char) (j : Nat) :
    after (c.advance v.length) w j = after c (v ++ w) j := by
  rw [after, after, advance_advance, List.length_append, Nat.add_assoc]

theorem after_after (v w : List Char) (i j : Nat) :
    after (after c v i) w j = after c (v ++ '\n' :: (List.replicate i ' ' ++ w)) j := by
  rw [after, after, after, advance_advance, List.length_append, List.length_cons,
    List.length_append, List.length_replicate]
  congr 1
  omega

theorem opening_self (kind : Token.Kind) (n : Nat) (m : Mark) : opening kind n n m = [] :=
  if_neg (Int.lt_irrefl _)

theorem around_self (n : Nat) (outer : List Int) : around n n outer = outer :=
  if_neg (Int.lt_irrefl _)

theorem Ahead.first {w' : List Char}
    (h : Ahead c (w ++ '\n' :: (List.replicate m ' ' ++ w')) j n rest)
    (hf : ∀ k rest, Follows k (w' ++ '\n' :: rest)) :
    Ahead c w m m (w' ++ '\n' :: (List.replicate j ' ' ++ rest)) where
  chars := by
    rw [h.chars]
    simp only [List.append_assoc, List.cons_append]
  follows := hf m _
  le := Nat.le_refl m

theorem Ahead.second {w' : List Char}
    (h : Ahead c (w ++ '\n' :: (List.replicate m ' ' ++ w')) j n rest) :
    Ahead (after c w m) w' j n rest ∧ (after c w m).mark.column = m ∧
      c.mark.index + w.length < (after c w m).mark.index := by
  have hchars : c.rest = w ++ '\n' :: (List.replicate m ' ' ++
      (w' ++ '\n' :: (List.replicate j ' ' ++ rest))) := by
    rw [h.chars]
    simp only [List.append_assoc, List.cons_append]
  obtain ⟨hrest, hcolumn, hindex⟩ := advance_line hchars
  exact ⟨⟨hrest, h.follows, h.le⟩, hcolumn, hindex⟩

/-! ## Items -/

/-- What is read of a text that is written for items at indentation `m`. -/
structure ReadsItems (m : Nat) (xs : List Value) (w : List Char) : Prop where
  follows : ∀ k rest, Follows k (w ++ '\n' :: rest)
  scans : ∀ (c : Cursor) (ps : List Token) (indent : Int) (outer : List Int) (j : Nat)
    (rest : List Char), Ahead c w j m rest → c.mark.column = m → indent ≤ m →
    Scans (stand true c ps indent outer) (itemTexts m xs)
      (fun ts ↦ stand true (after c w j) (ps ++ (opening .blockSequenceStart indent m c.mark ++ ts))
        m (around indent m outer))
      (ConveysItems c.mark w.length · (heardItems m xs))

theorem scans_item (hw : ReadsNode m false true v w) (ha : Ahead c ('-' :: w) j m rest)
    (hc : c.mark.column = m) (hi : indent ≤ m) :
    Scans (stand true c ps indent outer) (textsOf m false v)
      (fun ts ↦ stand true (after c ('-' :: w) j)
        (ps ++ (opening .blockSequenceStart indent m c.mark ++ ts)) m (around indent m outer))
      (fun ts ↦ ∃ e us, ts = ⟨.blockEntry, c.mark, e⟩ :: us ∧
        Conveys false (c.mark.index + 1) w.length us (heard m false v)) := by
  obtain ⟨y, w', hy, -, hspace⟩ := hw.begins
  have hdash : c.rest = '-' :: ' ' :: (w' ++ '\n' :: (List.replicate j ' ' ++ rest)) := by
    rw [ha.chars, hy, hspace rfl]
    rfl
  have ha₁ : Ahead (c.advance 1) w j m rest := ⟨rest_advance_one ha.chars, ha.follows, ha.le⟩
  have hcolumn : (c.advance 1).mark.column = m + 1 := by
    rw [column_advance_one hdash (by decide) (by decide), hc]
  have hnode := hw.scans (c.advance 1) (ps ++ opening .blockSequenceStart indent m c.mark ++
    [⟨.blockEntry, c.mark, (c.advance 1).mark⟩]) (around indent m outer) j rest ha₁
    (Nat.le_of_eq hcolumn.symm) fun _ ↦ hcolumn
  refine (hnode.of_runs fun r ↦ runs_dash hdash hc hi).imp
    (fun ts ↦ ⟨.blockEntry, c.mark, (c.advance 1).mark⟩ :: ts) (fun ts hts ↦ ?_) fun ts r _ hr ↦ ?_
  · rw [index_advance_one hdash] at hts
    exact ⟨_, ts, rfl, hts⟩
  · have hplace : after (c.advance 1) w j = after c ('-' :: w) j := after_append ['-'] w j
    rw [hplace, List.append_assoc, List.append_assoc]
    exact hr

theorem follows_dash (hw : ReadsNode m false true v w) (k : Nat) (rest : List Char) :
    Follows k ('-' :: w ++ rest) := by
  obtain ⟨y, w', hy, -, hspace⟩ := hw.begins
  rw [hy, hspace rfl]
  exact ⟨startsLexeme_cons (by decide), fun _ ↦ ⟨by simp, by simp⟩⟩

private theorem reads_item (hw : ReadsNode m false true v w) : ReadsItems m [v] ('-' :: w) where
  follows := fun k rest ↦ follows_dash hw k _
  scans := by
    intro c ps indent outer j rest ha hc hi
    have htexts : itemTexts m [v] = textsOf m false v := List.append_nil _
    rw [htexts]
    refine (scans_item hw ha hc hi).imp id (fun ts hts ↦ ?_) fun _ _ _ hr ↦ hr
    obtain ⟨e, us, rfl, nd, hspell, hmeans⟩ := hts
    have hspells := SpellsItems.cons (t := ⟨.blockEntry, c.mark, e⟩) rfl hspell .nil
    rw [List.append_nil] at hspells
    have hnil : Node.MeansItems (c.mark.index + 1) 0 [] [] := Node.meansItems_nil
    have hmean := Node.meansItems_cons hmeans hnil
    refine ⟨⟨e, us, rfl⟩, [nd], hspells, hmean.mono (Nat.le_refl _) ?_⟩
    rw [List.length_cons]
    omega

private theorem reads_items {xs : List Value} {w' : List Char} (hw : ReadsNode m false true v w)
    (hs : ReadsItems m xs w') :
    ReadsItems m (v :: xs) ('-' :: w ++ '\n' :: (List.replicate m ' ' ++ w')) where
  follows := by
    intro k rest
    rw [List.append_assoc]
    exact follows_dash hw k _
  scans := by
    intro c ps indent outer j rest ha hc hi
    -- The next hyphen stands in the column of this one, so the list goes on.
    obtain ⟨ha', hcolumn, hindex⟩ := ha.second
    refine (scans_item hw (ha.first hs.follows) hc hi).trans fun ts hts ↦ ?_
    refine (hs.scans _ _ m _ j rest ha' hcolumn (Int.le_refl _)).imp (ts ++ ·) (fun us hus ↦ ?_)
      fun us r _ hr ↦ ?_
    · obtain ⟨e, vs, rfl, nd, hspell, hmeans⟩ := hts
      obtain ⟨-, nds, hspells, hmeansItems⟩ := hus
      refine ⟨⟨e, vs ++ us, rfl⟩, nd :: nds, .cons rfl hspell hspells, ?_⟩
      have hrest : Node.MeansItems (c.mark.index + 1) w'.length nds (heardItems m xs) :=
        hmeansItems.mono (by omega) (Nat.le_refl _)
      refine (Node.meansItems_cons hmeans hrest).mono (Nat.le_refl _) ?_
      simp only [List.length_append, List.length_cons]
      omega
    · rw [opening_self, around_self, after_after, List.append_assoc, List.append_assoc]
      exact hr

/-- Items begin by moving to their column, so it does not matter who moves there. -/
theorem Tree.writeItems_toColumn (h : (p.toColumn m).Begins m) (x : Tree) (xs : List Tree) :
    writeItems m (x :: xs) p = writeItems m (x :: xs) (p.toColumn m) := by
  rw [writeItems, writeItems, h.toColumn]

/-- What the pen writes for the items of a list can be read. -/
theorem readable_items {xs : List Value} (h : ∀ x ∈ xs, IsReadable x) (hne : xs ≠ [])
    (hq : q.Begins m) :
    ∃ w, Extends q (Tree.writeItems m (treesOf xs) q) w ∧ ReadsItems m xs w := by
  induction xs generalizing q with
  | nil => exact absurd rfl hne
  | cons x xs ih =>
    have hp : Pen.Inside ⟨q.out ++ ['-'], m + 1, false, true⟩ m :=
      ⟨rfl, Nat.le_refl _, fun _ ↦ rfl⟩
    obtain ⟨w, hw, hreads⟩ := h x List.mem_cons_self m false _ hp fun _ ↦ rfl
    have hstep : Tree.writeItems m (treesOf (x :: xs)) q = Tree.writeItems m (treesOf xs)
        (Tree.write (some m) false false (treeOf x) ⟨q.out ++ ['-'], m + 1, false, true⟩) := by
      rw [treesOf, Tree.writeItems, hq.toColumn, hq.indicator]
    rw [hstep]
    -- Only where the pen stands matters for the items that follow, not how the value was written.
    generalize hp' : Tree.write (some m) false false (treeOf x)
      ⟨q.out ++ ['-'], m + 1, false, true⟩ = p' at hw
    cases xs with
    | nil =>
      refine ⟨'-' :: w, ⟨?_, hw.fresh⟩, reads_item hreads⟩
      exact hw.out.trans (List.append_assoc ..)
    | cons y xs =>
      have hline := Pen.toColumn_of_not_fresh (n := m) (.inl hw.fresh)
      have hbegins : (p'.toColumn m).Begins m := Pen.begins_of_not_fresh hw.fresh
      obtain ⟨w', hw', hreads'⟩ := ih (fun z hz ↦ h z (List.mem_cons_of_mem x hz))
        (List.cons_ne_nil _ _) hbegins
      have hmove : Tree.writeItems m (treesOf (y :: xs)) p'
          = Tree.writeItems m (treesOf (y :: xs)) (p'.toColumn m) :=
        Tree.writeItems_toColumn hbegins _ _
      refine ⟨_, ⟨?_, ?_⟩, reads_items hreads hreads'⟩
      · rw [hmove, hw'.out, hline, hw.out]
        simp only [List.append_assoc, List.cons_append, List.nil_append]
      · rw [hmove]
        exact hw'.fresh

/-! ## Entries -/

/-- Tokens of an entry of a mapping. -/
def ConveysEntry (lo len : Nat) (ts : List Token) (k : String) (v : Value) : Prop :=
  ∃ inline tk kts tv vts m a, ts = tk :: (kts ++ tv :: vts) ∧ tk.kind = .key ∧ tv.kind = .value ∧
    Spells false kts (.scalar .text k m none) ∧ Conveys inline lo a vts v ∧ 2 + a ≤ len

/-- What is read of a text that is written for an entry at indentation `m`. -/
structure ReadsEntry (m : Nat) (k : String) (v : Value) (w : List Char) : Prop where
  follows : ∀ i rest, Follows i (w ++ rest)
  scans : ∀ (c : Cursor) (ps : List Token) (indent : Int) (outer : List Int) (j : Nat)
    (rest : List Char), Ahead c w j m rest → c.mark.column = m → indent ≤ m →
    Scans (stand true c ps indent outer) (placed m true k :: textsOf m (isOnLine (.text k)) v)
      (fun ts ↦ stand true (after c w j) (ps ++ (opening .blockMappingStart indent m c.mark ++ ts))
        m (around indent m outer))
      (ConveysEntry (c.mark.index + 1) w.length · (String.ofList (placed m true k).heard)
        (heard m (isOnLine (.text k)) v))

/-- The tokens of a key and its colon and those of a value are the tokens of an entry. -/
theorem scans_entry {c₁ c₂ : Cursor} {key : Token} {pre : List Token} {k : String} {mark : Mark}
    {lo lo' len len' : Nat} (tk tv : Token) (hk : tk.kind = .key) (hv : tv.kind = .value)
    (hkey : Spells false [key] (.scalar .text k mark none)) (hfits : Fits as)
    (hruns : ∀ r, Runs (stand fresh c₁ (ps ++ (pre ++ [tk, key, tv])) m outer) r → Runs s₁ r)
    (hvalue : Scans (stand fresh c₁ (ps ++ (pre ++ [tk, key, tv])) m outer) bs
      (fun ts ↦ stand true c₂ (ps ++ (pre ++ [tk, key, tv]) ++ ts) m outer)
      (Conveys inline lo' len' · v))
    (hlo : lo ≤ lo') (hlen : 2 + len' ≤ len) :
    Scans s₁ (as ++ bs) (fun ts ↦ stand true c₂ (ps ++ (pre ++ ts)) m outer)
      (ConveysEntry lo len · k v) := by
  refine Scans.of_fits hfits ((hvalue.of_runs hruns).imp (fun ts ↦ tk :: key :: tv :: ts)
    (fun ts hts ↦ ?_) fun ts r _ hr ↦ ?_)
  · obtain ⟨nd, hspell, hmeans⟩ := hts
    exact ⟨inline, tk, [key], tv, ts, mark, len', rfl, hk, hv, hkey,
      ⟨nd, hspell, hmeans.mono hlo (Nat.le_refl _)⟩, hlen⟩
  · rw [List.append_assoc, List.append_assoc]
    exact hr

theorem spells_scalarToken (h : Parse.scalarTag none (String.ofList s) plain = .text)
    (w : List Char) (c : Cursor) :
    Spells false [scalarToken plain s w c] (.scalar .text (String.ofList s) c.mark none) := by
  have hspell := spells_scalar (String.ofList s) plain c.mark (c.advance w.length).mark
  rwa [h] at hspell

/-- A key on a line fits if it has at most 1024 characters. -/
theorem fits_placed_iff {k : String} (hk : isOnLine (.text k) = true) :
    Fits [placed m true k] ↔ (Tree.writtenKey k.toList).length ≤ 1024 := by
  have hline : (placed m true k).onLine = true := hk
  rw [Fits, List.forall_mem_singleton, PlacedText.fits, hline, Bool.not_true, Bool.false_or,
    decide_eq_true_eq]
  exact Iff.rfl

private theorem fits_placed_of_not_onLine {k : String} (hk : isOnLine (.text k) = false) :
    Fits [placed m true k] := by
  have hline : (placed m true k).onLine = false := hk
  rw [Fits, List.forall_mem_singleton, PlacedText.fits, hline]
  rfl

private theorem scans_lineEntry {k : String} {wk : List Char} (hlen : wk.length ≤ 1024)
    (hbody : ScalarBody m plain k.toList wk) (hbreak : ∀ x ∈ wk, isBreak x = false)
    (htag : Parse.scalarTag none (String.ofList k.toList) plain = .text) (hfits : Fits as)
    (hv : ReadsNode m true false v w) (ha : Ahead c (wk ++ ':' :: w) j m rest)
    (hc : c.mark.column = m) (hi : indent ≤ m) :
    Scans (stand true c ps indent outer) (as ++ textsOf m true v)
      (fun ts ↦ stand true (after c (wk ++ ':' :: w) j)
        (ps ++ (opening .blockMappingStart indent m c.mark ++ ts)) m (around indent m outer))
      (ConveysEntry (c.mark.index + 1) (wk ++ ':' :: w).length · k (heard m true v)) := by
  obtain ⟨y, w', hy, hend, -⟩ := hv.begins
  have hchars : c.rest = wk ++ ':' :: y :: (w' ++ '\n' :: (List.replicate j ' ' ++ rest)) := by
    rw [ha.chars, hy]
    simp only [List.append_assoc, List.cons_append]
  have hcolon : (c.advance wk.length).rest = ':' :: y :: (w' ++
      '\n' :: (List.replicate j ' ' ++ rest)) := rest_advance_of_append hchars
  -- The value begins after the colon, at a place inside the block.
  have ha₁ : Ahead (c.advance (wk.length + 1)) w j m rest := by
    refine ⟨?_, ha.follows, ha.le⟩
    rw [← advance_advance, rest_advance_one hcolon, hy]
    rfl
  have hcolumn : m + 1 ≤ (c.advance (wk.length + 1)).mark.column := by
    rw [← advance_advance, column_advance_one hcolon (by decide) (by decide), ← hc]
    exact Nat.succ_le_succ (column_le_advance_of_append hchars hbreak)
  have hindex : c.mark.index + 1 ≤ (c.advance (wk.length + 1)).mark.index := by
    rw [index_advance]
    · omega
    · rw [hchars, List.length_append, List.length_cons]
      omega
  have hplace : after (c.advance (wk.length + 1)) w j = after c (wk ++ ':' :: w) j := by
    have hlast : wk ++ ':' :: w = (wk ++ [':']) ++ w := (List.append_assoc _ [':'] w).symm
    rw [hlast, ← after_append, List.length_append, List.length_singleton]
  have hkey := spells_scalarToken htag wk c
  rw [String.ofList_toList] at hkey
  rw [← hplace]
  refine scans_entry (.here .key c.mark)
    ⟨.value, (c.advance wk.length).mark, (c.advance (wk.length + 1)).mark⟩ rfl rfl hkey hfits
    (fun r hr ↦ ?_) (hv.scans _ _ _ j rest ha₁ hcolumn fun h ↦ absurd h Bool.false_ne_true)
    hindex ?_
  · refine runs_simpleKey hbody hbreak hlen hchars hend hc hi hi ?_
    rw [keyTokensAt, List.append_assoc, List.append_assoc]
    exact hr
  · have hpos := List.length_pos_iff.mpr hbody.ne_nil
    rw [List.length_append, List.length_cons]
    omega

theorem reads_lineEntry {k : String} (hk : isOnLine (.text k) = true)
    (hv : ReadsNode m true false v w) :
    ReadsEntry m k v (Tree.writtenKey k.toList ++ ':' :: w) := by
  obtain ⟨plain, hbody, hbreak, hplain⟩ := Tree.scalarBody_writtenKey (s := k.toList) hk m
  have hheard : String.ofList (placed m true k).heard = k := by
    rw [heard_of_onLine hk]
    exact String.ofList_toList
  have htag : Parse.scalarTag none (String.ofList k.toList) plain = .text := by
    cases plain with
    | false => rfl
    | true =>
      rw [Parse.scalarTag, if_pos (by rfl)]
      exact hplain rfl
  constructor
  · intro i rest
    rw [List.append_assoc]
    exact hbody.follows (by decide) i _
  · intro c ps indent outer j rest ha hc hi
    rw [hk, hheard]
    by_cases hlen : (Tree.writtenKey k.toList).length ≤ 1024
    · exact scans_lineEntry hlen hbody hbreak htag ((fits_placed_iff hk).mpr hlen) hv ha hc hi
    · obtain ⟨y, w', rfl, hend, -⟩ := hv.begins
      have hchars : c.rest = Tree.writtenKey k.toList ++ ':' :: y :: (w' ++
          '\n' :: (List.replicate j ' ' ++ rest)) := by
        rw [ha.chars]
        simp only [List.append_assoc, List.cons_append]
      refine .inr ⟨fun hf ↦ hlen ?_, runs_longKey hbody hbreak (by omega) hchars hend hc hi hi⟩
      exact (fits_placed_iff hk).mp fun t ht ↦
        hf t (List.mem_cons.mpr (.inl (List.mem_singleton.mp ht)))

theorem reads_longEntry {k : String} {wk : List Char} (hk : isOnLine (.text k) = false)
    (hbody : ScalarBody m plain (placed m true k).heard wk)
    (htag : Parse.scalarTag none (String.ofList (placed m true k).heard) plain = .text)
    (hv : ReadsNode m false true v w) :
    ReadsEntry m k v ('?' :: ' ' :: wk ++ '\n' :: (List.replicate m ' ' ++ ':' :: w)) := by
  obtain ⟨y, w', rfl, -, hspace⟩ := hv.begins
  obtain rfl := hspace rfl
  have hfollows : ∀ i rest, Follows i ((':' :: ' ' :: w') ++ '\n' :: rest) := fun i rest ↦
    follows_cons (startsLexeme_cons (by decide)) (by decide) i
  constructor
  · exact fun i rest ↦ follows_cons (startsLexeme_cons (by decide)) (by decide) i
  · intro c ps indent outer j rest ha hc hi
    obtain ⟨ha₂, hcolumn₂, hindex₂⟩ := ha.second
    have hquestion : c.rest = '?' :: ' ' :: (wk ++ '\n' ::
        (List.replicate m ' ' ++ ':' :: ' ' :: w') ++
          '\n' :: (List.replicate j ' ' ++ rest)) := ha.chars
    have hcolumn₁ : m + 1 ≤ (c.advance 1).mark.column := by
      rw [column_advance_one hquestion (by decide) (by decide), hc]
    have ha₁ : Ahead (c.advance 1) (' ' :: wk) m m
        (':' :: ' ' :: w' ++ '\n' :: (List.replicate j ' ' ++ rest)) :=
      ⟨rest_advance_one (ha.first hfollows).chars, hfollows m _, Nat.le_refl m⟩
    have hplace₂ : after (c.advance 1) (' ' :: wk) m = after c ('?' :: ' ' :: wk) m :=
      after_append ['?'] (' ' :: wk) m
    have hcolon : (after c ('?' :: ' ' :: wk) m).rest = ':' :: ' ' :: (w' ++
        '\n' :: (List.replicate j ' ' ++ rest)) := ha₂.chars
    -- The value begins after the colon of the second line.
    have hcolumn₃ : ((after c ('?' :: ' ' :: wk) m).advance 1).mark.column = m + 1 := by
      rw [column_advance_one hcolon (by decide) (by decide), hcolumn₂]
    have ha₃ : Ahead ((after c ('?' :: ' ' :: wk) m).advance 1) (' ' :: w') j m rest :=
      ⟨rest_advance_one hcolon, ha.follows, ha.le⟩
    have hplace₃ : after ((after c ('?' :: ' ' :: wk) m).advance 1) (' ' :: w') j
        = after c ('?' :: ' ' :: wk ++ '\n' :: (List.replicate m ' ' ++ ':' :: ' ' :: w')) j :=
      (after_append [':'] (' ' :: w') j).trans (after_after ('?' :: ' ' :: wk) _ m j)
    rw [hk, ← hplace₃]
    refine scans_entry ⟨.key, c.mark, (c.advance 1).mark⟩
      ⟨.value, (after c ('?' :: ' ' :: wk) m).mark,
        ((after c ('?' :: ' ' :: wk) m).advance 1).mark⟩ rfl rfl
      (spells_scalarToken htag wk ((c.advance 1).advance 1)) (fits_placed_of_not_onLine hk)
      (fun r hr ↦ ?_)
      (hv.scans _ _ _ j rest ha₃ (Nat.le_of_eq hcolumn₃.symm) fun _ ↦ hcolumn₃) ?_ ?_
    · refine runs_question hquestion hc hi (runs_spaced hbody ha₁ hcolumn₁ ?_)
      rw [hplace₂]
      refine runs_colon hcolon hcolumn₂ ?_
      simp only [List.append_assoc, List.cons_append, List.nil_append]
      exact hr
    · have := index_le_advance_one hcolon
      omega
    · simp only [List.length_append, List.length_cons]
      omega

end GatewayPrint.Yaml
