import GatewayPrint.Proofs.Yaml.Containers
import GatewayPrint.Proofs.Yaml.Kept

/-!
# Characters that are written

A stream may only hold characters that YAML allows. The pen writes such characters alone: a style
without escapes is only chosen for ordinary characters, and escapes are made of printable ones. So
the text of plain data is a stream of its own (`ofText_treeOf`).
-/

namespace GatewayPrint.Yaml

open Yaml.Stream

variable {p : Pen} {s : List Char} {x : Char} {indent n : Nat} {fold first simpleKey : Bool}
  {v : Value}

/-! ## Allowed characters -/

theorem toNat_eq_codePoint_or (x : Char) : x.toNat = Text.codePoint x ∨ 0x10000 ≤ x.toNat := by
  rw [Text.codePoint]
  split
  · next h =>
    rw [Text.isHalf, Bool.and_eq_true, decide_eq_true_eq, Text.halfShift] at h
    exact .inr (Nat.le_trans (by decide) h.1)
  · exact .inl rfl

private theorem isAllowed_of_isOrdinary (h : Style.isOrdinary x = true) : isAllowed x = true := by
  have hn := toNat_eq_codePoint_or x
  -- The pen looks at code points, the stream at scalar values; only shifted halves differ.
  by_cases hline : x = '\n'
  · rw [hline]
    rfl
  · simp only [Style.isOrdinary, isAllowed, Bool.or_eq_true, Bool.and_eq_true, decide_eq_true_eq,
      hline, false_or] at h ⊢
    omega

private theorem isAllowed_of_isUnescaped (h : Pen.isUnescaped x = true) : isAllowed x = true := by
  have hn := toNat_eq_codePoint_or x
  simp only [Pen.isUnescaped, isAllowed, Bool.or_eq_true, Bool.and_eq_true, decide_eq_true_eq]
    at h ⊢
  omega

private theorem isAllowed_of_isPrintable (h : Tree.IsPrintable x) : isAllowed x = true := by
  obtain ⟨hlo, hhi⟩ := h
  simp only [isAllowed, Bool.or_eq_true, Bool.and_eq_true, decide_eq_true_eq]
  omega

/-- Characters that a stream may hold. -/
def AllAllowed (s : List Char) : Prop := ∀ c ∈ s, isAllowed c = true

theorem AllAllowed.append {t : List Char} (hs : AllAllowed s) (ht : AllAllowed t) :
    AllAllowed (s ++ t) := by
  intro c hc
  rcases List.mem_append.mp hc with hc | hc
  · exact hs c hc
  · exact ht c hc

theorem allAllowed_nil : AllAllowed [] := fun _ hc ↦ absurd hc List.not_mem_nil

theorem AllAllowed.cons (hx : isAllowed x = true) (hs : AllAllowed s) : AllAllowed (x :: s) := by
  intro c hc
  rcases List.mem_cons.mp hc with rfl | hc
  · exact hx
  · exact hs c hc

theorem allAllowed_singleton (hx : isAllowed x = true) : AllAllowed [x] := allAllowed_nil.cons hx

private theorem allAllowed_spaces (n : Nat) : AllAllowed (List.replicate n ' ') := by
  intro c hc
  rw [List.eq_of_mem_replicate hc]
  rfl

/-! ## Moves of the pen -/

namespace Pen

/-- The pen has written characters that a stream may hold. -/
def IsClean (p : Pen) : Prop := AllAllowed p.out

theorem IsClean.put (h : p.IsClean) (hs : AllAllowed s) : (p.put s).IsClean :=
  AllAllowed.append h hs

theorem IsClean.newLine (h : p.IsClean) (hx : isAllowed x = true) : (p.newLine x).IsClean :=
  AllAllowed.append h (allAllowed_singleton hx)

theorem IsClean.toColumn (h : p.IsClean) (n : Nat) : (p.toColumn n).IsClean := by
  obtain ⟨q, hq, hmove⟩ := exists_toColumn p n
  have hclean : q.IsClean := by
    rcases hq with rfl | ⟨rfl, -⟩
    · exact h.newLine rfl
    · exact h
  rcases hmove with ⟨-, heq⟩ | ⟨-, heq⟩
  · rw [heq]
    exact hclean.put (allAllowed_spaces _)
  · rw [heq]
    exact hclean

theorem IsClean.indicator (h : p.IsClean) (hs : AllAllowed s) (apart blank structural : Bool) :
    (p.indicator s apart blank structural).IsClean := by
  rw [Pen.indicator]
  split
  · exact h.put hs
  · exact h.put (hs.cons rfl)

theorem IsClean.foldl_newLine (h : p.IsClean) (hs : AllAllowed s) :
    (s.foldl Pen.newLine p).IsClean := by
  induction s generalizing p with
  | nil => exact h
  | cons c s ih =>
    exact ih (h.newLine (hs c List.mem_cons_self)) fun d hd ↦ hs d (List.mem_cons_of_mem c hd)

/-! ## Scalars -/

private theorem isAllowed_of_isBreak (h : Style.isBreak x = true) : isAllowed x = true := by
  simp only [Style.isBreak, Bool.or_eq_true, decide_eq_true_eq] at h
  rcases h with ((rfl | rfl) | rfl) | rfl <;> rfl

theorem IsClean.singleBreaks (h : p.IsClean) (hs : AllAllowed s) :
    (p.singleBreaks indent s).IsClean := by
  rw [Pen.singleBreaks]
  split
  · exact ((h.newLine rfl).foldl_newLine hs).toColumn indent
  · exact (h.foldl_newLine hs).toColumn indent

theorem persists_isClean : Persists indent (isAllowed · = true) IsClean where
  printable _ := isAllowed_of_isPrintable
  unescaped _ := isAllowed_of_isUnescaped
  put _ _ hp hs := hp.put hs
  toColumn _ hp := hp.toColumn indent
  singleBreaks _ _ hp hs := hp.singleBreaks fun c hc ↦ isAllowed_of_isBreak (hs c hc)
  settle _ hp := hp

theorem allAllowed_runs (h : AllAllowed s) : ∀ r ∈ runs s, AllAllowed r.2 := by
  intro r hr c hc
  refine h c ?_
  rw [← (Tree.runs_flatMap s).1]
  exact List.mem_flatMap.mpr ⟨r, hr, hc⟩

theorem allAllowed_of_fits (h : Style.needsEscapes s = false) : AllAllowed s := by
  rw [Style.needsEscapes, Bool.or_eq_false_iff, Bool.not_eq_false'] at h
  exact fun c hc ↦ isAllowed_of_isOrdinary (List.all_eq_true.mp h.1 c hc)

theorem IsClean.plain (h : p.IsClean) (hs : Style.allowsPlain s = true) :
    (p.plain indent fold s).IsClean := by
  have hescapes : Style.needsEscapes s = false := by
    simp only [Style.allowsPlain, Bool.not_eq_true', Bool.or_eq_false_iff] at hs
    exact hs.1.1.1.1
  have hspace : ∀ b : Bool, (if b then p else p.put [' ']).IsClean := by
    intro b
    cases b with
    | false => exact h.put (allAllowed_singleton rfl)
    | true => exact h
  rw [Pen.plain]
  split
  · exact h
  · exact persists_isClean.plainRuns (hspace _) (allAllowed_runs (allAllowed_of_fits hescapes))

theorem IsClean.single (h : p.IsClean) (hs : Style.allowsSingle s = true) :
    (p.single indent fold s).IsClean := by
  have hescapes : Style.needsEscapes s = false := by
    rw [Style.allowsSingle, Bool.not_eq_true', Bool.or_eq_false_iff] at hs
    exact hs.1
  have hquote : AllAllowed ['\x27'] := allAllowed_singleton rfl
  have hruns := allAllowed_runs (allAllowed_of_fits hescapes)
  refine IsClean.indicator ?_ hquote _ _ _
  exact persists_isClean.singleRuns (h.indicator hquote _ _ _) fun r hr ↦
    ⟨((Tree.runs_flatMap s).2 r hr).2, fun _ ↦ hruns r hr⟩

theorem IsClean.double (h : p.IsClean) : (p.double indent fold s).IsClean := by
  have hquote : AllAllowed ['"'] := allAllowed_singleton rfl
  refine IsClean.indicator ?_ hquote _ _ _
  exact persists_isClean.doubleRuns (h.indicator hquote _ _ _) allAllowed_nil

end Pen

/-! ## Trees -/

namespace Tree

open Pen

theorem IsClean.writeScalar {tag : Tag} (h : p.IsClean)
    (htag : needsTag (styleOf simpleKey tag s false) tag s = false) :
    (writeScalar indent simpleKey tag s false p).IsClean := by
  rw [Tree.writeScalar, htag, if_neg Bool.false_ne_true]
  rcases styleOf_cases simpleKey tag s with ⟨hstyle, -, hs, -⟩ | ⟨hstyle, hs⟩ | hstyle
  · rw [hstyle]
    exact h.plain hs
  · rw [hstyle]
    exact h.single hs
  · rw [hstyle]
    exact h.double

/-- A tree that is written with characters that a stream may hold, wherever it stands. -/
def IsClean (t : Tree) : Prop :=
  ∀ outer entry p, p.IsClean → (write outer entry false t p).IsClean

theorem isClean_plain {tag : Tag} (h : WritesPlain v tag s) : (treeOf v).IsClean := by
  intro outer entry p hp
  obtain ⟨hstyle, htag⟩ := styleOf_plain h.implied h.allowed
  rw [h.tree, write]
  exact IsClean.writeScalar hp (hstyle.symm ▸ htag)

private theorem isClean_writeItems {ts : List Tree} (h : ∀ t ∈ ts, t.IsClean) (hp : p.IsClean) :
    (writeItems n ts p).IsClean := by
  induction ts generalizing p with
  | nil => exact hp
  | cons t ts ih =>
    have hdash : ((p.toColumn n).indicator ['-'] true false true).IsClean :=
      (hp.toColumn n).indicator (allAllowed_singleton rfl) _ _ _
    rw [writeItems]
    exact ih (fun u hu ↦ h u (List.mem_cons_of_mem t hu)) (h t List.mem_cons_self _ _ _ hdash)

theorem isClean_text (outer : Option Nat) (entry simpleKey : Bool) (k : String) (hp : p.IsClean) :
    (write outer entry simpleKey (treeOf (.text k)) p).IsClean := by
  have hkey : treeOf (.text k) = .scalar .text k.toList false := rfl
  rw [hkey, write]
  exact IsClean.writeScalar hp (needsTag_text simpleKey k.toList)

private theorem isClean_writeEntry (k : String) (hv : (treeOf v).IsClean) (hp : p.IsClean) :
    (writeEntry n (treeOf (.text k)) (treeOf v) p).IsClean := by
  have hcolon : AllAllowed [':'] := allAllowed_singleton rfl
  have hquestion : AllAllowed ['?'] := allAllowed_singleton rfl
  have hcolumn := hp.toColumn n
  rw [writeEntry]
  dsimp only
  split
  · exact hv _ _ _ ((isClean_text _ _ _ k hcolumn).indicator hcolon _ _ _)
  · have hkey := isClean_text (some n) true false k
      (hcolumn.indicator hquestion true false true)
    exact hv _ _ _ ((hkey.toColumn n).indicator hcolon _ _ _)

private theorem isClean_writeEntries {es : List (Value × Value)} (hkeys : Value.TextKeys es)
    (h : ∀ e ∈ es, (treeOf e.2).IsClean) (hp : p.IsClean) :
    (writeEntries n (entryTrees es) p).IsClean := by
  induction es generalizing p with
  | nil => exact hp
  | cons e es ih =>
    obtain ⟨k, v⟩ := e
    obtain ⟨k, rfl⟩ : ∃ s, k = .text s := hkeys (k, v) List.mem_cons_self
    rw [entryTrees, writeEntries_cons]
    exact ih (fun f hf ↦ hkeys f (List.mem_cons_of_mem _ hf))
      (fun f hf ↦ h f (List.mem_cons_of_mem _ hf))
      (isClean_writeEntry k (h (_, v) List.mem_cons_self) hp)

theorem mem_treesOf {t : Tree} {xs : List Value} (h : t ∈ treesOf xs) : ∃ x ∈ xs, t = treeOf x := by
  induction xs with
  | nil => exact absurd h List.not_mem_nil
  | cons x xs ih =>
    rw [treesOf] at h
    rcases List.mem_cons.mp h with rfl | h
    · exact ⟨x, List.mem_cons_self, rfl⟩
    · obtain ⟨y, hy, rfl⟩ := ih h
      exact ⟨y, List.mem_cons_of_mem x hy, rfl⟩

theorem isClean_brackets (hp : p.IsClean) {x y : Char} (hx : isAllowed x = true)
    (hy : isAllowed y = true) :
    ((p.indicator [x] true true false).indicator [y] false false false).IsClean :=
  (hp.indicator (allAllowed_singleton hx) _ _ _).indicator (allAllowed_singleton hy) _ _ _

/-- **Plain data** are written with characters that a stream may hold. -/
theorem isClean_treeOf (h : Printable v) : (treeOf v).IsClean := by
  induction h with
  | null => exact isClean_plain writesPlain_null
  | bool b => exact isClean_plain (writesPlain_bool b)
  | int h => exact isClean_plain (writesPlain_int h)
  | text => exact fun outer entry p hp ↦ isClean_text outer entry false _ hp
  | @list xs h ih =>
    intro outer entry p hp
    rw [treeOf]
    cases xs with
    | nil => exact isClean_brackets hp rfl rfl
    | cons x xs =>
      have hclean : ∀ t ∈ treesOf (x :: xs), t.IsClean := by
        intro t ht
        obtain ⟨y, hy, rfl⟩ := mem_treesOf ht
        exact ih y hy
      exact isClean_writeItems hclean hp
  | @map es hkeys hnodup h ih =>
    intro outer entry p hp
    rw [treeOf]
    cases es with
    | nil => exact isClean_brackets hp rfl rfl
    | cons e es =>
      change (writeEntries (deeper outer) (entryTrees (e :: es)) p).IsClean
      exact isClean_writeEntries (textKeys_of_keys hkeys) ih hp

end Tree

theorem ofText_treeOf (h : Printable v) :
    ofText (treeOf v).text none = ⟨(treeOf v).text, none⟩ := by
  have hclean : AllAllowed (treeOf v).text :=
    (Tree.isClean_treeOf h none false .start allAllowed_nil).toColumn 0
  rw [ofText, firstForbidden_eq_none hclean]

end GatewayPrint.Yaml
