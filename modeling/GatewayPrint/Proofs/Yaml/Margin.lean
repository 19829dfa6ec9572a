import GatewayPrint.Proofs.Yaml.Characters

/-!
# Where lines begin

A line that begins with three dashes or three dots is taken for the border of a document. The pen
never begins a line so, whatever the data are: the lines of a scalar after its first one are
indented, a dash that stands for an item is followed by a space before anything else, and a key that
begins with a marker is not plain.

A scan over what is written keeps how the last line begins (`Margin`). It tells whether some line
begins with a marker, and what may be written next without making one.

## The invariant

After each move of the pen no line begins with a marker, and if the pen may go on without a space,
its line is empty or begins with something else already (`Pen.IsTidy`). Inside a scalar it is the
latter (`Pen.IsClear`), since the indentation is not zero there.
-/

namespace GatewayPrint.Yaml

variable {p : Pen} {s : List Char} {c x : Char} {indent n : Nat} {fold first simpleKey : Bool}
  {v : Value}

/-- A line that begins with a marker, three dashes or three dots. -/
def IsMarked (l : List Char) : Prop := "---".toList <+: l ∨ "...".toList <+: l

/-! ## The scan -/

/-- How the last line of a text begins, if no line begins with a marker. -/
inductive Margin where
  | blank
  | dash
  | dashes
  | dot
  | dots
  | clear
  | marked
deriving DecidableEq

namespace Margin

/-- The margin after one more character. -/
def step : Margin → Char → Margin
  | marked, _ => marked
  | _, '\n' => blank
  | blank, '-' => dash
  | dash, '-' => dashes
  | dashes, '-' => marked
  | blank, '.' => dot
  | dot, '.' => dots
  | dots, '.' => marked
  | _, _ => clear

variable {m m' : Margin}

theorem step_newLine (hm : m ≠ marked) : m.step '\n' = blank := by
  cases m with
  | marked => exact absurd rfl hm
  | _ => rfl

/-- A character that no marker has makes the line clear. -/
theorem step_of_ne (hm : m ≠ marked) (hc : c ∉ ['\n', '-', '.']) : m.step c = clear := by
  simp only [List.mem_cons, List.not_mem_nil, or_false, not_or] at hc
  cases m <;> simp_all [step]

private theorem step_clear (hc : c ≠ '\n') : clear.step c = clear := by simp [step]

theorem foldl_step_marked (s : List Char) : s.foldl step marked = marked := by
  induction s with
  | nil => rfl
  | cons c s ih => exact ih

theorem foldl_step_clear (hs : '\n' ∉ s) : s.foldl step clear = clear := by
  induction s with
  | nil => rfl
  | cons c s ih =>
    rw [List.mem_cons, not_or] at hs
    rw [List.foldl_cons, step_clear (Ne.symm hs.1), ih hs.2]

/-- One character of a marker, where `m` waits for it and `m'` for the rest. -/
theorem foldl_step_cons {rest : List Char} (hm : m ≠ marked) (hx : m.step x = m')
    (hne : ∀ c, c ≠ x → c ≠ '\n' → m.step c = clear)
    (hrest : ∀ t : List Char, '\n' ∉ t → (t.foldl step m' = marked ↔ rest <+: t)) (hs : '\n' ∉ s) :
    s.foldl step m = marked ↔ x :: rest <+: s := by
  cases s with
  | nil => exact iff_of_false hm fun h ↦ List.cons_ne_nil x rest (List.prefix_nil.mp h)
  | cons c s =>
    rw [List.mem_cons, not_or] at hs
    rw [List.foldl_cons, List.cons_prefix_cons]
    by_cases hc : c = x
    · rw [hc, hx, hrest s hs.2, and_iff_right rfl]
    · rw [hne c hc (Ne.symm hs.1), foldl_step_clear hs.2]
      exact iff_of_false (by decide) fun h ↦ hc h.1.symm

/-- **On one line** the scan finds a marker if the line begins with it. -/
theorem foldl_step_eq_marked_iff (hs : '\n' ∉ s) : s.foldl step blank = marked ↔ IsMarked s := by
  -- The states after three, two and one characters of a marker ask for what is left of it.
  have hend : ∀ t : List Char, '\n' ∉ t → (t.foldl step marked = marked ↔ [] <+: t) := fun t _ ↦
    iff_of_true (foldl_step_marked t) List.nil_prefix
  have hdashes : ∀ t : List Char, '\n' ∉ t → (t.foldl step dash = marked ↔ ['-', '-'] <+: t) :=
    fun t ↦ foldl_step_cons (by decide) rfl (by simp +contextual [step]) fun t ↦
      foldl_step_cons (by decide) rfl (by simp +contextual [step]) hend
  have hdots : ∀ t : List Char, '\n' ∉ t → (t.foldl step dot = marked ↔ ['.', '.'] <+: t) :=
    fun t ↦ foldl_step_cons (by decide) rfl (by simp +contextual [step]) fun t ↦
      foldl_step_cons (by decide) rfl (by simp +contextual [step]) hend
  change _ ↔ ['-', '-', '-'] <+: s ∨ ['.', '.', '.'] <+: s
  cases s with
  | nil => simp
  | cons c s =>
    rw [List.mem_cons, not_or] at hs
    rw [List.foldl_cons, List.cons_prefix_cons, List.cons_prefix_cons]
    by_cases hdash : c = '-'
    · subst hdash
      rw [show blank.step '-' = dash from rfl, hdashes s hs.2]
      simp
    · by_cases hdot : c = '.'
      · subst hdot
        rw [show blank.step '.' = dot from rfl, hdots s hs.2]
        simp
      · have hc : c ∉ ['\n', '-', '.'] := by simp [Ne.symm hs.1, hdash, hdot]
        have hclear : blank.step c = clear := step_of_ne (by decide) hc
        rw [hclear, foldl_step_clear hs.2]
        exact iff_of_false (by decide) fun h ↦ h.elim (hdash ·.1.symm) (hdot ·.1.symm)

end Margin

/-- The margin of a text. -/
def margin (s : List Char) : Margin := s.foldl Margin.step .blank

theorem margin_append (s t : List Char) : margin (s ++ t) = t.foldl Margin.step (margin s) :=
  List.foldl_append

theorem margin_append_cons (hs : margin s ≠ .marked) (hc : c ∉ ['\n', '-', '.']) {t : List Char}
    (ht : '\n' ∉ t) : margin (s ++ c :: t) = .clear := by
  rw [margin_append, List.foldl_cons, Margin.step_of_ne hs hc, Margin.foldl_step_clear ht]

theorem not_mem_of_not_isMultiline (h : Style.isMultiline s = false) : '\n' ∉ s := by
  rw [Style.isMultiline, List.any_eq_false] at h
  exact fun hmem ↦ h '\n' hmem rfl

/-- The text of a plain scalar does not begin with a marker. -/
theorem foldl_step_of_allowsPlain (h : Style.allowsPlain s = true) :
    '\n' ∉ s ∧ s.foldl Margin.step .blank ≠ .marked := by
  simp only [Style.allowsPlain, Bool.not_eq_true', Bool.or_eq_false_iff] at h
  obtain ⟨⟨-, hline⟩, hindicator⟩ := h
  have hs := not_mem_of_not_isMultiline hline
  refine ⟨hs, fun hmarked ↦ ?_⟩
  cases s with
  | nil => cases hmarked
  | cons c s =>
    simp only [Style.hasIndicator, Bool.or_eq_false_iff, decide_eq_false_iff_not] at hindicator
    obtain ⟨⟨⟨hdashes, hdots⟩, -⟩, -⟩ := hindicator
    rcases (Margin.foldl_step_eq_marked_iff hs).mp hmarked with h | h
    · exact hdashes (List.prefix_iff_eq_take.mp h).symm
    · exact hdots (List.prefix_iff_eq_take.mp h).symm

/-! ## Moves of the pen -/

namespace Pen

/-- The line of the pen begins with something other than a marker, and no line before begins with
one. -/
def IsClear (p : Pen) : Prop := margin p.out = .clear

/-- No line begins with a marker, and the line of the pen is empty or clear if the pen may go on
without a space. -/
structure IsTidy (p : Pen) : Prop where
  unmarked : margin p.out ≠ .marked
  spaced : p.spaced = true → margin p.out = .blank ∨ margin p.out = .clear

theorem IsClear.unmarked (h : p.IsClear) : margin p.out ≠ .marked := by
  rw [h]
  decide

theorem IsClear.isTidy (h : p.IsClear) : p.IsTidy := ⟨h.unmarked, fun _ ↦ .inr h⟩

private theorem isTidy_start : start.IsTidy := ⟨by decide, fun _ ↦ .inl rfl⟩

theorem IsClear.put (h : p.IsClear) (hs : '\n' ∉ s) : (p.put s).IsClear := by
  rw [IsClear, Pen.put, margin_append, h, Margin.foldl_step_clear hs]

theorem isClear_put_cons (h : margin p.out ≠ .marked) (hc : c ∉ ['\n', '-', '.']) (hs : '\n' ∉ s) :
    (p.put (c :: s)).IsClear := margin_append_cons h hc hs

theorem isClear_put_spaces (h : margin p.out ≠ .marked) (hn : 0 < n) :
    (p.put (List.replicate n ' ')).IsClear := by
  obtain ⟨n, rfl⟩ := Nat.exists_eq_add_of_lt hn
  rw [Nat.zero_add]
  exact isClear_put_cons h (by decide) (by simp [List.mem_replicate])

/-- An indicator that is not made of dashes or dots makes the line clear. -/
theorem isClear_indicator (h : margin p.out ≠ .marked) (hc : c ∉ ['\n', '-', '.'])
    (apart blank structural : Bool) : (p.indicator [c] apart blank structural).IsClear := by
  rw [Pen.indicator]
  split
  · exact isClear_put_cons h hc List.not_mem_nil
  · refine isClear_put_cons h (by decide) ?_
    simp only [List.mem_cons, not_or] at hc ⊢
    exact ⟨Ne.symm hc.1, List.not_mem_nil⟩

/-- A dash that stands for an item is the first character of its line, or the line is clear. -/
theorem IsTidy.dash (h : p.IsTidy) (hp : p.spaced = true) :
    (p.indicator ['-'] true false true).IsTidy := by
  have hout : (p.indicator ['-'] true false true).out = p.out ++ ['-'] := by
    rw [Pen.indicator, hp]
    rfl
  refine ⟨?_, fun hspaced ↦ absurd hspaced Bool.false_ne_true⟩
  rw [hout, margin_append]
  rcases h.spaced hp with hm | hm
  · rw [hm]
    decide
  · rw [hm]
    decide

/-- The line after a break is empty, or the break is a character like any other. -/
theorem unmarked_newLine (h : margin p.out ≠ .marked) (hx : Style.isBreak x = true) :
    margin (p.newLine x).out ≠ .marked := by
  rw [Pen.newLine, margin_append, List.foldl_cons, List.foldl_nil]
  by_cases hline : x = '\n'
  · rw [hline, Margin.step_newLine h]
    decide
  · simp only [Style.isBreak, hline, decide_false, Bool.false_or, Bool.or_eq_true,
      decide_eq_true_eq] at hx
    rw [Margin.step_of_ne h]
    · decide
    · rcases hx with (rfl | rfl) | rfl <;> decide

/-- A pen that moves to a column may go on there without a space. -/
theorem IsTidy.toColumn (h : p.IsTidy) (n : Nat) :
    (p.toColumn n).IsTidy ∧ (p.toColumn n).spaced = true := by
  obtain ⟨q, hq, hmove⟩ := exists_toColumn p n
  have htidy : q.IsTidy ∧ (n ≤ q.column → q.spaced = true) := by
    rcases hq with rfl | ⟨rfl, hle, hspaced⟩
    · have hblank : margin (p.newLine '\n').out = .blank := by
        rw [Pen.newLine, margin_append]
        exact Margin.step_newLine h.unmarked
      exact ⟨⟨by rw [hblank]; decide, fun _ ↦ .inl hblank⟩, fun _ ↦ rfl⟩
    · exact ⟨h, fun hge ↦ hspaced (Nat.le_antisymm hle hge)⟩
  rcases hmove with ⟨hlt, heq⟩ | ⟨hge, heq⟩
  · rw [heq]
    have hclear := isClear_put_spaces htidy.1.unmarked (Nat.sub_pos_of_lt hlt)
    exact ⟨⟨hclear.unmarked, fun _ ↦ .inr hclear⟩, rfl⟩
  · rw [heq]
    exact ⟨htidy.1, htidy.2 hge⟩

/-- Inside a block the pen moves to a place where the line is clear. -/
theorem isClear_toColumn (h : p.IsClear ∨ margin p.out ≠ .marked ∧ p.column = 0) (hn : 0 < n) :
    (p.toColumn n).IsClear := by
  obtain ⟨q, hq, hmove⟩ := exists_toColumn p n
  have hclear : q.IsClear ∨ margin q.out ≠ .marked ∧ q.column = 0 := by
    rcases hq with rfl | ⟨rfl, -⟩
    · exact .inr ⟨unmarked_newLine (h.elim IsClear.unmarked And.left) rfl, rfl⟩
    · exact h
  rcases hmove with ⟨hlt, heq⟩ | ⟨hge, heq⟩
  · rw [heq]
    exact isClear_put_spaces (hclear.elim IsClear.unmarked And.left) (Nat.sub_pos_of_lt hlt)
  · rw [heq]
    exact hclear.resolve_right fun hzero ↦ absurd (hzero.2 ▸ hge) (Nat.not_le.mpr hn)

/-! ## Scalars -/

/-- The lines of a scalar between single quotes are indented. -/
theorem IsClear.singleBreaks (h : p.IsClear) (hs : ∀ c ∈ s, Style.isBreak c = true)
    (hn : 0 < indent) : (p.singleBreaks indent s).IsClear := by
  have hbreaks : ∀ q : Pen, (q.IsClear ∨ margin q.out ≠ .marked ∧ q.column = 0) →
      (s.foldl Pen.newLine q).IsClear ∨
        margin (s.foldl Pen.newLine q).out ≠ .marked ∧ (s.foldl Pen.newLine q).column = 0 := by
    induction s with
    | nil => exact fun _ hq ↦ hq
    | cons c s ih =>
      intro q hq
      have hc := hs c List.mem_cons_self
      exact ih (fun d hd ↦ hs d (List.mem_cons_of_mem c hd)) _
        (.inr ⟨unmarked_newLine (hq.elim IsClear.unmarked And.left) hc, rfl⟩)
  rw [Pen.singleBreaks]
  split
  · exact isClear_toColumn (hbreaks _ (.inr ⟨unmarked_newLine h.unmarked rfl, rfl⟩)) hn
  · exact isClear_toColumn (hbreaks _ (.inl h)) hn

/-- Inside a scalar the line is clear, since the indentation is not zero there. -/
theorem persists_isClear (hn : 0 < indent) : Persists indent (· ≠ '\n') IsClear where
  printable c hc := by
    rintro rfl
    exact absurd hc.1 (by decide)
  unescaped c hc := by
    rintro rfl
    exact absurd hc (by decide)
  put p s hp hs := hp.put fun hmem ↦ hs _ hmem rfl
  toColumn p hp := isClear_toColumn (.inl hp) hn
  singleBreaks p s hp hs := hp.singleBreaks hs hn
  settle p hp := hp

/-- **A plain scalar** follows a space, or it is a key on one line. -/
theorem IsTidy.plain (h : p.IsTidy) (hs : Style.allowsPlain s = true)
    (hfold : fold = true → p.spaced = false) (hn : 0 < indent) :
    (p.plain indent fold s).IsTidy := by
  obtain ⟨hline, hmargin⟩ := foldl_step_of_allowsPlain hs
  rw [Pen.plain]
  split
  · exact h
  · dsimp only
    -- A space goes before the scalar unless there is one already. In that case it may stand at the
    -- margin, but on one line and without a marker at its front.
    cases hp : p.spaced with
    | false =>
      have hclear : IsClear { p.put [' '] with spaced := false, fresh := false } :=
        isClear_put_cons h.unmarked (by decide) List.not_mem_nil
      rw [if_neg Bool.false_ne_true]
      have hruns : ∀ r ∈ runs s, ∀ c ∈ r.2, c ≠ '\n' := by
        rintro r hr c hc rfl
        exact hline ((Tree.runs_flatMap s).1 ▸ List.mem_flatMap.mpr ⟨r, hr, hc⟩)
      exact ((persists_isClear hn).plainRuns hclear hruns).isTidy
    | true =>
      obtain rfl : fold = false :=
        Bool.eq_false_iff.mpr fun hf ↦ Bool.false_ne_true ((hfold hf).symm.trans hp)
      rw [if_pos rfl, Tree.plainRuns_straight, (Tree.runs_flatMap s).1]
      refine ⟨?_, fun hspaced ↦ absurd hspaced Bool.false_ne_true⟩
      rw [Pen.put, margin_append]
      rcases h.spaced hp with hm | hm
      · rw [hm]
        exact hmargin
      · rw [hm, Margin.foldl_step_clear hline]
        decide

private theorem isClear_single (h : margin p.out ≠ .marked) (hn : 0 < indent) :
    (p.single indent fold s).IsClear := by
  have hopen : (p.indicator ['\x27'] true false false).IsClear :=
    isClear_indicator h (by decide) _ _ _
  have hline : ∀ r ∈ runs s,
      (∀ c ∈ r.2, runKind c = r.1) ∧ (r.1 ≠ .breaks → ∀ c ∈ r.2, c ≠ '\n') := by
    intro r hr
    obtain ⟨-, hkind⟩ := (Tree.runs_flatMap s).2 r hr
    refine ⟨hkind, ?_⟩
    rintro hk c hc rfl
    exact hk (hkind _ hc).symm
  have hruns : (singleRuns indent fold true (runs s) _).IsClear :=
    (persists_isClear hn).singleRuns hopen hline
  exact isClear_indicator hruns.unmarked (by decide) _ _ _

private theorem isClear_double (h : margin p.out ≠ .marked) (hn : 0 < indent) :
    (p.double indent fold s).IsClear := by
  have hopen : (p.indicator ['"'] true false false).IsClear :=
    isClear_indicator h (by decide) _ _ _
  have hruns : (doubleRuns indent fold true [] s _).IsClear :=
    (persists_isClear hn).doubleRuns hopen fun c hc ↦ absurd hc List.not_mem_nil
  exact isClear_indicator hruns.unmarked (by decide) _ _ _

end Pen

/-! ## Trees -/

namespace Tree

open Pen

/-- **A scalar** is written without markers, if a space is put before it or it is a key on one
line. -/
theorem isTidy_writeScalar {tag : Tag} (h : p.IsTidy) (hp : simpleKey = false → p.spaced = false)
    (htag : needsTag (styleOf simpleKey tag s false) tag s = false) (hn : 0 < indent) :
    (writeScalar indent simpleKey tag s false p).IsTidy := by
  rw [Tree.writeScalar, htag, if_neg Bool.false_ne_true]
  rcases styleOf_cases simpleKey tag s with ⟨hstyle, -, hs, -⟩ | ⟨hstyle, -⟩ | hstyle
  · rw [hstyle]
    exact h.plain hs (fun hfold ↦ hp (by simpa using hfold)) hn
  · rw [hstyle]
    exact (isClear_single h.unmarked hn).isTidy
  · rw [hstyle]
    exact (isClear_double h.unmarked hn).isTidy

/-- A tree that is written without markers, wherever it stands. -/
def IsTidy (t : Tree) : Prop :=
  ∀ outer entry p, p.IsTidy → p.spaced = false → (write outer entry false t p).IsTidy

theorem isTidy_plain {tag : Tag} (h : WritesPlain v tag s) : (treeOf v).IsTidy := by
  intro outer entry p hp hspaced
  obtain ⟨hstyle, htag⟩ := styleOf_plain h.implied h.allowed
  rw [h.tree, write]
  exact isTidy_writeScalar hp (fun _ ↦ hspaced) (hstyle.symm ▸ htag) (Nat.succ_pos _)

theorem isTidy_text (outer : Option Nat) (entry : Bool) (k : String) (hp : p.IsTidy)
    (hspaced : simpleKey = false → p.spaced = false) :
    (write outer entry simpleKey (treeOf (.text k)) p).IsTidy := by
  have hkey : treeOf (.text k) = .scalar .text k.toList false := rfl
  rw [hkey, write]
  exact isTidy_writeScalar hp hspaced (needsTag_text simpleKey k.toList) (Nat.succ_pos _)

private theorem isTidy_writeItems {ts : List Tree} (h : ∀ t ∈ ts, t.IsTidy) (hp : p.IsTidy) :
    (writeItems n ts p).IsTidy := by
  induction ts generalizing p with
  | nil => exact hp
  | cons t ts ih =>
    obtain ⟨hcolumn, hspaced⟩ := hp.toColumn n
    rw [writeItems]
    exact ih (fun u hu ↦ h u (List.mem_cons_of_mem t hu))
      (h t List.mem_cons_self _ _ _ (hcolumn.dash hspaced) rfl)

private theorem isTidy_writeEntry (k : String) (hv : (treeOf v).IsTidy) (hp : p.IsTidy) :
    (writeEntry n (treeOf (.text k)) (treeOf v) p).IsTidy := by
  obtain ⟨hcolumn, hspaced⟩ := hp.toColumn n
  rw [writeEntry]
  dsimp only
  split
  · have hkey : (write (some n) true true (treeOf (.text k)) (p.toColumn n)).IsTidy :=
      isTidy_text (some n) true k hcolumn fun h ↦ absurd h.symm Bool.false_ne_true
    exact hv _ _ _ (isClear_indicator hkey.unmarked (by decide) _ _ _).isTidy rfl
  · have hquestion : ((p.toColumn n).indicator ['?'] true false true).IsClear :=
      isClear_indicator hcolumn.unmarked (by decide) _ _ _
    have hkey : (write (some n) true false (treeOf (.text k)) _).IsTidy :=
      isTidy_text (some n) true k hquestion.isTidy fun _ ↦ rfl
    exact hv _ _ _ (isClear_indicator (hkey.toColumn n).1.unmarked (by decide) _ _ _).isTidy rfl

theorem isTidy_writeEntries {es : List (Value × Value)} (hkeys : Value.TextKeys es)
    (h : ∀ e ∈ es, (treeOf e.2).IsTidy) (hp : p.IsTidy) :
    (writeEntries n (entryTrees es) p).IsTidy := by
  induction es generalizing p with
  | nil => exact hp
  | cons e es ih =>
    obtain ⟨k, v⟩ := e
    obtain ⟨k, rfl⟩ : ∃ s, k = .text s := hkeys (k, v) List.mem_cons_self
    rw [entryTrees, writeEntries_cons]
    exact ih (fun f hf ↦ hkeys f (List.mem_cons_of_mem _ hf))
      (fun f hf ↦ h f (List.mem_cons_of_mem _ hf))
      (isTidy_writeEntry k (h (_, v) List.mem_cons_self) hp)

theorem isTidy_brackets (hp : p.IsTidy) {x y : Char} (hx : x ∉ ['\n', '-', '.'])
    (hy : y ∉ ['\n', '-', '.']) :
    ((p.indicator [x] true true false).indicator [y] false false false).IsTidy :=
  (isClear_indicator (isClear_indicator hp.unmarked hx _ _ _).unmarked hy _ _ _).isTidy

/-- **Plain data** are written without markers. -/
theorem isTidy_treeOf (h : Printable v) : (treeOf v).IsTidy := by
  induction h with
  | null => exact isTidy_plain writesPlain_null
  | bool b => exact isTidy_plain (writesPlain_bool b)
  | int h => exact isTidy_plain (writesPlain_int h)
  | text => exact fun outer entry p hp hspaced ↦ isTidy_text outer entry _ hp fun _ ↦ hspaced
  | @list xs h ih =>
    intro outer entry p hp _
    rw [treeOf]
    cases xs with
    | nil => exact isTidy_brackets hp (by decide) (by decide)
    | cons x xs =>
      have htidy : ∀ t ∈ treesOf (x :: xs), t.IsTidy := by
        intro t ht
        obtain ⟨y, hy, rfl⟩ := mem_treesOf ht
        exact ih y hy
      exact isTidy_writeItems htidy hp
  | @map es hkeys hnodup h ih =>
    intro outer entry p hp _
    rw [treeOf]
    cases es with
    | nil => exact isTidy_brackets hp (by decide) (by decide)
    | cons e es =>
      change (writeEntries (deeper outer) (entryTrees (e :: es)) p).IsTidy
      exact isTidy_writeEntries (textKeys_of_keys hkeys) ih hp

end Tree

/-- **No line of a document** begins with a marker. -/
theorem margin_text {es : List (Value × Value)} (h : Printable (.map es)) (hne : es ≠ []) :
    margin (treeOf (.map es)).text ≠ .marked := by
  cases h with
  | map hkeys _ h =>
    have htidy : (Tree.writeEntries 0 (entryTrees es) .start).IsTidy :=
      Tree.isTidy_writeEntries (textKeys_of_keys hkeys) (fun e he ↦ Tree.isTidy_treeOf (h e he))
        Pen.isTidy_start
    rw [Tree.text_map hne]
    exact (htidy.toColumn 0).1.unmarked

end GatewayPrint.Yaml
