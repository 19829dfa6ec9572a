import GatewayPrint.Proofs.Resource.PlainForm
import GatewayPrint.Proofs.Yaml.Characters

/-!
# How a text is laid out

The text of plain data is laid out item by item and entry by entry, in the order of the data: a
sequence is a dash and the text of the item for each item, and a mapping is the text of the key, a
colon and the text of the value for each entry, with nothing but blanks and line breaks between them
and a question mark before a long key (`laidOut`). The texts of keys and scalars are what a pen
writes for them, so they are known up to the style and the folding of lines.
-/

namespace GatewayPrint.Yaml

variable {v : Value} {s t : List Char} {p : Pen} {n indent : Nat} {fold simpleKey : Bool}
  {xs : List Value} {es : List (Value × Value)}

/-- Blanks and line feeds, which stand between the parts of a text. -/
def IsGap (s : List Char) : Prop := ∀ c ∈ s, c = ' ' ∨ c = '\n'

theorem isGap_nil : IsGap [] := fun _ hc ↦ absurd hc List.not_mem_nil

theorem IsGap.append (hs : IsGap s) (ht : IsGap t) : IsGap (s ++ t) :=
  List.forall_mem_append.mpr ⟨hs, ht⟩

private theorem isGap_spaces (n : Nat) : IsGap (List.replicate n ' ') :=
  fun _ hc ↦ .inl (List.eq_of_mem_replicate hc)

/-! ## Output only grows -/

namespace Pen

theorem out_toColumn (p : Pen) (n : Nat) :
    ∃ gap, IsGap gap ∧ (p.toColumn n).out = p.out ++ gap := by
  obtain ⟨q, hq, hmove⟩ := exists_toColumn p n
  obtain ⟨gap, hgap, hout⟩ : ∃ gap, IsGap gap ∧ q.out = p.out ++ gap := by
    rcases hq with rfl | ⟨rfl, -⟩
    · exact ⟨['\n'], List.forall_mem_singleton.mpr (.inr rfl), rfl⟩
    · exact ⟨[], isGap_nil, (List.append_nil _).symm⟩
  rcases hmove with ⟨-, heq⟩ | ⟨-, heq⟩
  · refine ⟨gap ++ List.replicate (n - q.column) ' ', hgap.append (isGap_spaces _), ?_⟩
    rw [heq, put, hout, List.append_assoc]
  · exact ⟨gap, hgap, by rw [heq, hout]⟩

theorem out_indicator (p : Pen) (s : List Char) (apart blank structural : Bool) :
    ∃ gap, IsGap gap ∧ (p.indicator s apart blank structural).out = p.out ++ (gap ++ s) := by
  rw [indicator]
  split
  · exact ⟨[], isGap_nil, rfl⟩
  · exact ⟨[' '], List.forall_mem_singleton.mpr (.inl rfl), rfl⟩

/-- A text has been written, and maybe more after it. -/
def Follows (s : List Char) (p : Pen) : Prop := s <+: p.out

theorem Follows.put (h : p.Follows s) (t : List Char) : (p.put t).Follows s :=
  h.trans (List.prefix_append _ _)

theorem Follows.newLine (h : p.Follows s) (c : Char) : (p.newLine c).Follows s :=
  h.trans (List.prefix_append _ _)

theorem Follows.toColumn (h : p.Follows s) (n : Nat) : (p.toColumn n).Follows s := by
  obtain ⟨gap, -, hout⟩ := out_toColumn p n
  rw [Follows, hout]
  exact h.trans (List.prefix_append _ _)

theorem Follows.indicator (h : p.Follows s) (t : List Char) (apart blank structural : Bool) :
    (p.indicator t apart blank structural).Follows s := by
  obtain ⟨gap, -, hout⟩ := out_indicator p t apart blank structural
  rw [Follows, hout]
  exact h.trans (List.prefix_append _ _)

theorem Follows.foldl_newLine (h : p.Follows s) (cs : List Char) :
    (cs.foldl Pen.newLine p).Follows s := by
  induction cs generalizing p with
  | nil => exact h
  | cons c cs ih => exact ih (h.newLine c)

theorem Follows.singleBreaks (h : p.Follows s) (cs : List Char) :
    (p.singleBreaks indent cs).Follows s := by
  rw [Pen.singleBreaks]
  split
  · exact ((h.newLine '\n').foldl_newLine cs).toColumn indent
  · exact (h.foldl_newLine cs).toColumn indent

theorem persists_follows : Persists indent (fun _ ↦ True) (Follows s) where
  printable _ _ := trivial
  unescaped _ _ := trivial
  put _ t hp _ := hp.put t
  toColumn _ hp := hp.toColumn indent
  singleBreaks _ cs hp _ := hp.singleBreaks cs
  settle _ hp := hp

theorem Follows.plain (h : p.Follows s) : (p.plain indent fold t).Follows s := by
  rw [Pen.plain]
  split
  · exact h
  · refine persists_follows.plainRuns ?_ fun _ _ _ _ ↦ trivial
    cases p.spaced with
    | false => exact h.put [' ']
    | true => exact h

theorem Follows.single (h : p.Follows s) : (p.single indent fold t).Follows s := by
  refine Follows.indicator ?_ _ _ _ _
  exact persists_follows.singleRuns (h.indicator _ _ _ _) fun r hr ↦
    ⟨((Tree.runs_flatMap t).2 r hr).2, fun _ _ _ ↦ trivial⟩

theorem Follows.double (h : p.Follows s) : (p.double indent fold t).Follows s := by
  refine Follows.indicator ?_ _ _ _ _
  exact persists_follows.doubleRuns (h.indicator _ _ _ _) fun _ _ ↦ trivial

theorem Follows.writeScalar {tag : Tag} (h : p.Follows s) :
    (Tree.writeScalar indent simpleKey tag t false p).Follows s := by
  rw [Tree.writeScalar]
  have htag : (if Tree.needsTag (Tree.styleOf simpleKey tag t false) tag t then
      p.indicator (Tree.tagText tag) true false false else p).Follows s := by
    split
    · exact h.indicator _ _ _ _
    · exact h
  rcases Tree.styleOf_cases simpleKey tag t with ⟨hstyle, -⟩ | ⟨hstyle, -⟩ | hstyle
  · rw [hstyle] at htag ⊢
    exact htag.plain
  · rw [hstyle] at htag ⊢
    exact htag.single
  · rw [hstyle] at htag ⊢
    exact htag.double

end Pen

/-! ## Layouts -/

/-- A text that a pen writes for a value, at some place and in some state. -/
def IsPenned (v : Value) (s : List Char) : Prop :=
  ∃ outer entry simpleKey, ∃ p : Pen,
    (Tree.write outer entry simpleKey (treeOf v) p).out = p.out ++ s

/-- What stands before a key: a gap, and a question mark if the key is long. -/
def IsLead (s : List Char) : Prop := IsGap s ∨ ∃ gap, IsGap gap ∧ s = gap ++ ['?']

mutual

/-- A text is laid out for a value. -/
inductive Lays : Value → List Char → Prop where
  /-- A scalar or an empty container. -/
  | leaf {v : Value} {s : List Char} (hv : Resource.inside v = []) (hs : IsPenned v s) : Lays v s
  | list {xs : List Value} {s : List Char} (hne : xs ≠ []) (h : LaysItems xs s) : Lays (.list xs) s
  | map {es : List (Value × Value)} {s : List Char} (hne : es ≠ []) (h : LaysEntries es s) :
    Lays (.map es) s

/-- A text is laid out for the items of a sequence, one after another. -/
inductive LaysItems : List Value → List Char → Prop where
  | nil : LaysItems [] []
  | cons {x : Value} {xs : List Value} {gap s rest : List Char} (hgap : IsGap gap) (hx : Lays x s)
      (hxs : LaysItems xs rest) : LaysItems (x :: xs) (gap ++ '-' :: s ++ rest)

/-- A text is laid out for the entries of a mapping, one after another. -/
inductive LaysEntries : List (Value × Value) → List Char → Prop where
  | nil : LaysEntries [] []
  | cons {k v : Value} {es : List (Value × Value)} {lead key gap s rest : List Char}
      (hlead : IsLead lead) (hkey : IsPenned k key) (hgap : IsGap gap) (hv : Lays v s)
      (hes : LaysEntries es rest) :
      LaysEntries ((k, v) :: es) (lead ++ key ++ gap ++ ':' :: s ++ rest)

end

/-- What is written for a value is laid out for it, wherever the pen stands. -/
def IsLaidOut (v : Value) : Prop := ∀ outer entry p, ∃ s,
  (Tree.write outer entry false (treeOf v) p).out = p.out ++ s ∧ Lays v s

/-- A value without parts is laid out if the pen only adds to its output. -/
theorem isLaidOut_leaf (hv : Resource.inside v = [])
    (h : ∀ outer entry p, (Tree.write outer entry false (treeOf v) p).Follows p.out) :
    IsLaidOut v := by
  intro outer entry p
  obtain ⟨s, hs⟩ := h outer entry p
  exact ⟨s, hs.symm, .leaf hv ⟨outer, entry, false, p, hs.symm⟩⟩

theorem isLaidOut_scalar {tag : Tag} (hv : Resource.inside v = [])
    (htree : treeOf v = .scalar tag t false) : IsLaidOut v := by
  refine isLaidOut_leaf hv fun outer entry p ↦ ?_
  rw [htree, Tree.write]
  exact Pen.Follows.writeScalar List.prefix_rfl

theorem exists_laysItems (h : ∀ x ∈ xs, IsLaidOut x) (n : Nat) (p : Pen) : ∃ s,
    (Tree.writeItems n (treesOf xs) p).out = p.out ++ s ∧ LaysItems xs s := by
  induction xs generalizing p with
  | nil => exact ⟨[], (List.append_nil _).symm, .nil⟩
  | cons x xs ih =>
    obtain ⟨gap, hgap, hcolumn⟩ := Pen.out_toColumn p n
    obtain ⟨gap', hgap', hdash⟩ := Pen.out_indicator (p.toColumn n) ['-'] true false true
    obtain ⟨s, hs, hx⟩ := h x List.mem_cons_self (some n) false
      ((p.toColumn n).indicator ['-'] true false true)
    obtain ⟨rest, hrest, hxs⟩ := ih (fun y hy ↦ h y (List.mem_cons_of_mem x hy))
      (Tree.write (some n) false false (treeOf x)
        ((p.toColumn n).indicator ['-'] true false true))
    refine ⟨_, ?_, .cons (hgap.append hgap') hx hxs⟩
    rw [treesOf, Tree.writeItems, hrest, hs, hdash, hcolumn]
    simp only [List.append_assoc, List.cons_append, List.nil_append]

/-- The text of a key grows from where the pen stands. -/
theorem exists_isPenned (k : String) (outer : Option Nat) (entry simpleKey : Bool) (p : Pen) :
    ∃ key, (Tree.write outer entry simpleKey (treeOf (.text k)) p).out = p.out ++ key ∧
      IsPenned (.text k) key := by
  have hkey : treeOf (.text k) = .scalar .text k.toList false := rfl
  have hfollows : (Tree.write outer entry simpleKey (treeOf (.text k)) p).Follows p.out := by
    rw [hkey, Tree.write]
    exact Pen.Follows.writeScalar List.prefix_rfl
  obtain ⟨key, hout⟩ := hfollows
  exact ⟨key, hout.symm, outer, entry, simpleKey, p, hout.symm⟩

theorem exists_laysEntry (k : String) (hv : IsLaidOut v) (n : Nat) (p : Pen) :
    ∃ lead key gap s, (Tree.writeEntry n (treeOf (.text k)) (treeOf v) p).out
        = p.out ++ (lead ++ key ++ gap ++ ':' :: s) ∧
      IsLead lead ∧ IsPenned (.text k) key ∧ IsGap gap ∧ Lays v s := by
  obtain ⟨lead, hlead, hcolumn⟩ := Pen.out_toColumn p n
  rw [Tree.writeEntry]
  generalize p.toColumn n = p₁ at hcolumn ⊢
  dsimp only
  split
  · obtain ⟨key, hkeyOut, hkey⟩ := exists_isPenned k (some n) true true p₁
    generalize Tree.write (some n) true true (treeOf (.text k)) p₁ = p₂ at hkeyOut ⊢
    obtain ⟨gap, hgap, hcolon⟩ := Pen.out_indicator p₂ [':'] false false false
    obtain ⟨s, hs, hlays⟩ := hv (some n) true (p₂.indicator [':'] false false false)
    refine ⟨lead, key, gap, s, ?_, .inl hlead, hkey, hgap, hlays⟩
    rw [hs, hcolon, hkeyOut, hcolumn]
    simp only [List.append_assoc, List.cons_append, List.nil_append]
  · -- A long key has lines of its own, after a question mark.
    obtain ⟨gap, hgap, hquestion⟩ := Pen.out_indicator p₁ ['?'] true false true
    generalize p₁.indicator ['?'] true false true = p₂ at hquestion ⊢
    obtain ⟨key, hkeyOut, hkey⟩ := exists_isPenned k (some n) true false p₂
    generalize Tree.write (some n) true false (treeOf (.text k)) p₂ = p₃ at hkeyOut ⊢
    obtain ⟨gap', hgap', hline⟩ := Pen.out_toColumn p₃ n
    obtain ⟨gap'', hgap'', hcolon⟩ := Pen.out_indicator (p₃.toColumn n) [':'] true false true
    obtain ⟨s, hs, hlays⟩ := hv (some n) true ((p₃.toColumn n).indicator [':'] true false true)
    refine ⟨lead ++ gap ++ ['?'], key, gap' ++ gap'', s, ?_, .inr ⟨_, hlead.append hgap, rfl⟩, hkey,
      hgap'.append hgap'', hlays⟩
    rw [hs, hcolon, hline, hkeyOut, hquestion, hcolumn]
    simp only [List.append_assoc, List.cons_append, List.nil_append]

theorem exists_laysEntries (hkeys : Value.TextKeys es) (h : ∀ e ∈ es, IsLaidOut e.2) (n : Nat)
    (p : Pen) : ∃ s, (Tree.writeEntries n (entryTrees es) p).out = p.out ++ s ∧
      LaysEntries es s := by
  induction es generalizing p with
  | nil => exact ⟨[], (List.append_nil _).symm, .nil⟩
  | cons e es ih =>
    obtain ⟨k, v⟩ := e
    obtain ⟨k, rfl⟩ : ∃ s, k = .text s := hkeys (k, v) List.mem_cons_self
    obtain ⟨lead, key, gap, s, hs, hlead, hkey, hgap, hv⟩ :=
      exists_laysEntry k (h (_, v) List.mem_cons_self) n p
    obtain ⟨rest, hrest, hes⟩ := ih (fun f hf ↦ hkeys f (List.mem_cons_of_mem _ hf))
      (fun f hf ↦ h f (List.mem_cons_of_mem _ hf))
      (Tree.writeEntry n (treeOf (.text k)) (treeOf v) p)
    refine ⟨_, ?_, .cons hlead hkey hgap hv hes⟩
    rw [entryTrees, Tree.writeEntries_cons, hrest, hs, List.append_assoc]

theorem follows_brackets (p : Pen) (x y : Char) :
    ((p.indicator [x] true true false).indicator [y] false false false).Follows p.out :=
  ((show p.Follows p.out from List.prefix_rfl).indicator _ _ _ _).indicator _ _ _ _

/-- **Plain data** is laid out in its order. -/
theorem isLaidOut (h : Printable v) : IsLaidOut v := by
  induction h with
  | null => exact isLaidOut_scalar rfl writesPlain_null.tree
  | bool b => exact isLaidOut_scalar rfl (writesPlain_bool b).tree
  | int h => exact isLaidOut_scalar rfl (writesPlain_int h).tree
  | text => exact isLaidOut_scalar rfl rfl
  | @list xs h ih =>
    cases xs with
    | nil => exact isLaidOut_leaf rfl fun _ _ p ↦ follows_brackets p '[' ']'
    | cons x xs =>
      intro outer entry p
      obtain ⟨s, hs, hlays⟩ := exists_laysItems ih _ p
      exact ⟨s, hs, .list (List.cons_ne_nil x xs) hlays⟩
  | @map es hkeys hnodup h ih =>
    cases es with
    | nil => exact isLaidOut_leaf rfl fun _ _ p ↦ follows_brackets p '\x7b' '\x7d'
    | cons e es =>
      intro outer entry p
      obtain ⟨s, hs, hlays⟩ := exists_laysEntries (textKeys_of_keys hkeys) ih (Tree.deeper outer) p
      exact ⟨s, hs, .map (List.cons_ne_nil e es) hlays⟩

/-- The text of plain data is laid out for it, and ends in a gap. -/
theorem text_laidOut (h : Printable v) :
    ∃ s gap, (treeOf v).text = s ++ gap ∧ Lays v s ∧ IsGap gap := by
  obtain ⟨s, hs, hlays⟩ := isLaidOut h none false .start
  obtain ⟨gap, hgap, hout⟩ := Pen.out_toColumn (Tree.write none false false (treeOf v) .start) 0
  refine ⟨s, gap, ?_, hlays, hgap⟩
  rw [Tree.text, hout, hs]
  rfl

end GatewayPrint.Yaml
