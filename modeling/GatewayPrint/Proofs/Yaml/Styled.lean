import GatewayPrint.Proofs.Yaml.Penned
import GatewayPrint.Proofs.Yaml.Scalars
import GatewayPrint.Yaml.Writer

/-!
# Scalars in the style that is chosen for them

A text is written plain where nothing would mistake it for anything else, between single quotes
where these can hold it, and between double quotes otherwise. Whatever the style, what is written is
the body of a scalar (`writeScalar_text`), and what is heard of it is told by the style alone
(`Tree.heardText`). A key on one line is not folded, so its form does not depend on where it stands
(`Tree.writtenKey`), and it is heard as it is.
-/

namespace GatewayPrint.Yaml

open Cursor

variable {s s' w body b rest : List Char} {x y : Char} {n k indent : Nat} {tag : Tag} {p : Pen}
  {fold simpleKey : Bool}

/-! ## Plain scalars begin as their text does -/

theorem PlainBody.firstWord (h : PlainBody k s body) : ∃ w s' b', IsWord w ∧ s = w ++ s' ∧
    body = w ++ b' ∧ (∀ x ∈ s'.head?, endsWord x = true) ∧ ∀ x ∈ b'.head?, endsWord x = true := by
  have hblank : ∀ {x y : Char} {r : List Char}, endsWord x = true → y ∈ (x :: r).head? →
      endsWord y = true := by
    intro x y r hx hy
    cases hy
    exact hx
  cases h with
  | word hw =>
    exact ⟨_, [], [], hw, (List.append_nil _).symm, (List.append_nil _).symm,
      fun _ hx ↦ (Option.not_mem_none _ hx).elim, fun _ hx ↦ (Option.not_mem_none _ hx).elim⟩
  | spaces hw hb h =>
    exact ⟨_, _, _, hw, rfl, rfl, fun _ ↦ hblank (by decide), fun _ ↦ hblank (by decide)⟩
  | fold hw hb h =>
    exact ⟨_, _, _, hw, rfl, rfl, fun _ ↦ hblank (by decide), fun _ ↦ hblank (by decide)⟩

/-- Three like characters that begin a body belong to its first word. -/
theorem take_three_of_body {z : Char} (hz : endsWord z = false) (hw : w ≠ [])
    (hb : ∀ x ∈ b.head?, endsWord x = true) (h : (w ++ b).take 3 = [z, z, z]) :
    (w ++ s').take 3 = [z, z, z] := by
  have hhead : b.head? ≠ some z := by
    intro heq
    rw [hb z heq] at hz
    cases hz
  have hcons : ∀ {m : Nat} {r : List Char}, b.take (m + 1) ≠ z :: r := by
    intro m r heq
    refine hhead ?_
    have hget := congrArg List.head? heq
    rw [List.head?_take, if_neg (Nat.succ_ne_zero m)] at hget
    exact hget
  rcases w with _ | ⟨a, _ | ⟨b', _ | ⟨c, w⟩⟩⟩
  · exact absurd rfl hw
  · exact absurd (List.cons.inj h).2 hcons
  · exact absurd (List.cons.inj (List.cons.inj h).2).2 hcons
  · exact h

/-- What is written for a plain text begins with no indicator. -/
theorem opensPlain_of_allowsPlain (h : Style.allowsPlain s = true) (hb : PlainBody k s body) :
    OpensPlain body := by
  obtain ⟨w, s', b', hw, rfl, rfl, hs', hb'⟩ := hb.firstWord
  have hfits := Pen.fitsPlain_of_allowsPlain (List.append_ne_nil_of_left_ne_nil hw.ne_nil s') h
  have hind : Style.hasIndicator (w ++ s') = false := by
    rw [Style.allowsPlain, Bool.not_eq_true', Bool.or_eq_false_iff] at h
    exact h.2
  obtain ⟨x, v, rfl⟩ := List.exists_cons_of_ne_nil hw.ne_nil
  simp only [Style.hasIndicator, List.cons_append, Bool.or_eq_false_iff,
    decide_eq_false_iff_not] at hind
  obtain ⟨⟨⟨hdash, hdot⟩, hopen⟩, -⟩ := hind
  rw [Style.opensIndicator, Bool.or_eq_false_iff] at hopen
  constructor
  · intro y hy
    cases hy
    refine ⟨hopen.1, ?_⟩
    rintro rfl
    exact absurd (hfits.ordinary '\ufeff' List.mem_cons_self).1 (by decide)
  · intro y r hyr hspecial
    obtain ⟨rfl, rfl⟩ := List.cons.inj hyr
    -- An indicator that may begin a plain scalar has no blank behind it, so the word goes on.
    have hnot : Style.atBlank (v ++ s') = false := by
      have hbool : (decide (x = '?') || decide (x = ':') || decide (x = '-')) = true := by
        simpa [or_assoc] using hspecial
      rw [hbool, Bool.true_and] at hopen
      exact hopen.2
    cases v with
    | nil =>
      cases s' with
      | nil => cases hnot
      | cons z s' =>
        have hz := hs' z rfl
        rw [List.nil_append, Style.atBlank, hz] at hnot
        cases hnot
    | cons z v =>
      exact ⟨z, v ++ b', rfl, hw.solid z (List.mem_cons_of_mem _ List.mem_cons_self)⟩
  · exact ⟨fun heq ↦ hdash (take_three_of_body (by decide) (List.cons_ne_nil _ _) hb' heq),
      fun heq ↦ hdot (take_three_of_body (by decide) (List.cons_ne_nil _ _) hb' heq)⟩

/-! ## The choice of a style -/

namespace Tree

/-- What is heard of a text in a style, `deep` when it is indented by the width of a line or
more. -/
def heardAs (deep : Bool) (s : List Char) : ScalarStyle → List Char
  | .single => Pen.heardSingle s
  | .double => Pen.heardDouble deep true s
  | _ => s

/-- What is heard of a text that is not a key on one line. -/
def heardText (deep : Bool) (s : List Char) : List Char :=
  heardAs deep s (styleOf false .text s false)

theorem styleOf_cases (simpleKey : Bool) (tag : Tag) (s : List Char) :
    styleOf simpleKey tag s false = .plain ∧ Tag.ofPlain (String.ofList s) = tag ∧
      Style.allowsPlain s = true ∧ (simpleKey = true → s ≠ []) ∨
    styleOf simpleKey tag s false = .single ∧ Style.allowsSingle s = true ∨
    styleOf simpleKey tag s false = .double := by
  rw [styleOf, if_neg Bool.false_ne_true]
  split
  · rename_i h
    rw [Bool.and_eq_true, Bool.and_eq_true] at h
    obtain ⟨⟨htag, hplain⟩, hkey⟩ := h
    refine .inl ⟨rfl, eq_of_beq htag, hplain, ?_⟩
    rintro rfl rfl
    cases hkey
  · split
    · rename_i h
      exact .inr (.inl ⟨rfl, (Bool.and_eq_true_iff.mp h).1⟩)
    · exact .inr (.inr rfl)

theorem needsTag_text (simpleKey : Bool) (s : List Char) :
    needsTag (styleOf simpleKey .text s false) .text s = false := by
  rw [needsTag]
  rcases styleOf_cases simpleKey .text s with ⟨hstyle, htag, -⟩ | ⟨hstyle, -⟩ | hstyle
  · rw [hstyle, if_pos rfl, htag]
    rfl
  · rw [hstyle]
    rfl
  · rw [hstyle]
    rfl

/-! ## Values -/

/-- A pen that has written a scalar after a space. -/
structure WritesScalar (p q : Pen) (n : Nat) (plain : Bool) (s w : List Char) : Prop where
  out : q.out = p.out ++ ' ' :: w
  fresh : q.fresh = false
  body : ScalarBody n plain s w

theorem plain_writes (h : Style.allowsPlain s = true) (hs : s ≠ []) (hp : p.spaced = false) :
    ∃ w, WritesScalar p (p.plain (n + 2) fold s) n true s w := by
  obtain ⟨w, hw⟩ : ∃ w, Pen.WritesPlain { p.put [' '] with spaced := false, fresh := false }
      (Pen.plainRuns (n + 2) fold (Pen.runs s)
        { p.put [' '] with spaced := false, fresh := false }) (n + 2) fold s w :=
    Pen.plainRuns_writes fold hs (Pen.fitsPlain_of_allowsPlain hs h) rfl
  have hplain : p.plain (n + 2) fold s = Pen.plainRuns (n + 2) fold (Pen.runs s)
      { p.put [' '] with spaced := false, fresh := false } := by
    have hempty : s.isEmpty = false := by
      cases s with
      | nil => exact absurd rfl hs
      | cons x s => rfl
    rw [Pen.plain, hempty, if_neg Bool.false_ne_true, hp, if_neg Bool.false_ne_true]
  refine ⟨w, ?_, ?_, .plain hw.body (opensPlain_of_allowsPlain h hw.body)⟩
  · rw [hplain, hw.out]
    exact List.append_assoc ..
  · rw [hplain, hw.fresh]

theorem indicator_apart (hp : p.spaced = false) (w : List Char) (blank structural : Bool) :
    p.indicator w true blank structural = ⟨p.out ++ ' ' :: w, p.column + (w.length + 1), blank,
      p.fresh && structural⟩ := by
  rw [Pen.indicator, hp]
  rfl

theorem indicator_close (w : List Char) (blank structural : Bool) :
    p.indicator w false blank structural = ⟨p.out ++ w, p.column + w.length, blank,
      p.fresh && structural⟩ := by
  rw [Pen.indicator, Bool.not_false, Bool.or_true, if_pos rfl]
  rfl

private theorem single_writes (h : Style.allowsSingle s = true) (hp : p.spaced = false) :
    ∃ w, WritesScalar p (p.single (n + 2) fold s) n false (Pen.heardSingle s) w := by
  have hfold : Pen.CanFold (n + 2) s (p.indicator ['\x27'] true false false) := by
    rw [indicator_apart hp]
    exact .inl (Bool.and_false _)
  obtain ⟨b, hb⟩ := Pen.singleRuns_writes fold true (Pen.fitsSingle_of_allowsSingle h) hfold
  refine ⟨_, ?_, ?_, .single hb.body⟩
  · rw [Pen.single, indicator_close, hb.out, indicator_apart hp]
    simp only [List.append_assoc, List.cons_append, List.nil_append]
  · rw [Pen.single, indicator_close]
    exact Bool.and_false _

private theorem double_writes (hp : p.spaced = false) (hc : n + 1 ≤ p.column) :
    ∃ w, WritesScalar p (p.double (n + 2) fold s) n false
      (Pen.heardDouble (fold && lineWidth ≤ n + 2) true s) w := by
  have hfresh : (p.indicator ['"'] true false false).fresh = false := by
    rw [indicator_apart hp]
    exact Bool.and_false _
  have hcolumn : n + 2 ≤ (p.indicator ['"'] true false false).column + ([] : List Char).length := by
    rw [indicator_apart hp]
    simp only [List.length_cons, List.length_nil]
    omega
  obtain ⟨b, hb⟩ := Pen.isDoubleWritten (n + 2) fold s true [] _ hfresh hcolumn
  refine ⟨_, ?_, ?_, .double hb.body⟩
  · rw [Pen.double, indicator_close, hb.out, indicator_apart hp]
    simp only [List.append_assoc, List.cons_append, List.nil_append]
  · rw [Pen.double, indicator_close]
    exact Bool.and_false _

/-- **A text as a value** is written as the body of a scalar, heard by its style. -/
theorem writeScalar_text (s : List Char) (hp : p.spaced = false) (hc : n + 1 ≤ p.column) :
    ∃ plain w, WritesScalar p (writeScalar (n + 2) false .text s false p) n plain
      (heardText (lineWidth ≤ n + 2) s) w ∧
      (plain = true → Tag.ofPlain (String.ofList s) = .text ∧
        heardText (lineWidth ≤ n + 2) s = s) := by
  rw [writeScalar, needsTag_text, if_neg Bool.false_ne_true, heardText]
  rcases styleOf_cases false .text s with ⟨hstyle, htag, hs, -⟩ | ⟨hstyle, hs⟩ | hstyle
  · -- The empty text would be taken for null, so it is not written plain.
    have hne : s ≠ [] := by
      rintro rfl
      exact absurd htag (by decide)
    rw [hstyle]
    obtain ⟨w, hw⟩ := plain_writes (n := n) hs hne hp
    exact ⟨true, w, hw, fun _ ↦ ⟨htag, rfl⟩⟩
  · rw [hstyle]
    obtain ⟨w, hw⟩ := single_writes hs hp
    exact ⟨false, w, hw, fun h ↦ nomatch h⟩
  · rw [hstyle]
    obtain ⟨w, hw⟩ := double_writes (s := s) hp hc
    exact ⟨false, w, hw, fun h ↦ nomatch h⟩

/-- A scalar whose form implies its tag is written without it. -/
theorem styleOf_plain (htag : Tag.ofPlain (String.ofList s) = tag)
    (hs : Style.allowsPlain s = true) :
    styleOf false tag s false = .plain ∧ needsTag .plain tag s = false := by
  refine ⟨?_, ?_⟩
  · rw [styleOf, if_neg Bool.false_ne_true, htag, hs, beq_self_eq_true]
    rfl
  · rw [needsTag, if_pos rfl, htag]
    exact bne_self_eq_false tag

/-- A scalar whose form implies its tag is written plain. -/
theorem writeScalar_plain (htag : Tag.ofPlain (String.ofList s) = tag)
    (hs : Style.allowsPlain s = true) (hne : s ≠ []) (hp : p.spaced = false) :
    ∃ w, WritesScalar p (writeScalar (n + 2) false tag s false p) n true s w := by
  obtain ⟨hstyle, htagged⟩ := styleOf_plain htag hs
  rw [writeScalar, hstyle, htagged, if_neg Bool.false_ne_true]
  exact plain_writes hs hne hp

/-! ## Keys on one line -/

/-- A text with escapes for all characters that need one between double quotes. -/
def escaped (s : List Char) : List Char :=
  s.flatMap fun c ↦ if Pen.isUnescaped c then [c] else Pen.escapeOf c

/-- A text on one line as it is written in a style. -/
def writtenAs (s : List Char) : ScalarStyle → List Char
  | .plain => s
  | .single => '\x27' :: (Pen.doubleQuotes s ++ ['\x27'])
  | _ => '"' :: (escaped s ++ ['"'])

def writtenKey (s : List Char) : List Char := writtenAs s (styleOf true .text s false)

theorem put_put (p : Pen) (v w : List Char) : (p.put v).put w = p.put (v ++ w) := by
  rw [Pen.put, Pen.put, Pen.put, List.append_assoc, List.length_append, Nat.add_assoc]

theorem put_nil (p : Pen) : p.put [] = p := by
  rw [Pen.put, List.append_nil]
  rfl

/-- Without folds the runs of a plain scalar are written as they are. -/
theorem plainRuns_straight (rs : List (Pen.RunKind × List Char)) (p : Pen) :
    Pen.plainRuns indent false rs p = p.put (rs.flatMap Prod.snd) := by
  induction rs generalizing p with
  | nil => exact (put_nil p).symm
  | cons r rs ih =>
    have hstep : Pen.plainRuns indent false (r :: rs) p
        = Pen.plainRuns indent false rs (p.put r.2) := by
      rcases r with ⟨_ | _ | _, _ | ⟨c, _ | ⟨d, cs⟩⟩⟩ <;> rfl
    rw [hstep, ih, put_put, List.flatMap_cons]

/-- The runs of a text hold its characters, each in a run of its kind. -/
theorem runs_flatMap (s : List Char) : (Pen.runs s).flatMap Prod.snd = s ∧
    ∀ r ∈ Pen.runs s, r.2 ≠ [] ∧ ∀ c ∈ r.2, Pen.runKind c = r.1 := by
  induction hn : s.length using Nat.strong_induction_on generalizing s with
  | _ n ih =>
  subst hn
  by_cases hs : s = []
  · rw [hs]
    exact ⟨rfl, fun r hr ↦ absurd hr List.not_mem_nil⟩
  · obtain ⟨k, w, rest, rfl, hw, hk, -, hruns⟩ := Pen.exists_runs hs
    have hlt : rest.length < (w ++ rest).length := by
      rw [List.length_append]
      exact Nat.lt_add_of_pos_left (List.length_pos_iff.mpr hw)
    obtain ⟨hflat, hkind⟩ := ih rest.length hlt rest rfl
    rw [hruns]
    refine ⟨by rw [List.flatMap_cons, hflat], fun r hr ↦ ?_⟩
    rcases List.mem_cons.mp hr with rfl | hr
    · exact ⟨hw, hk⟩
    · exact hkind r hr

theorem doubleQuotes_append (v w : List Char) :
    Pen.doubleQuotes (v ++ w) = Pen.doubleQuotes v ++ Pen.doubleQuotes w := List.flatMap_append ..

theorem doubleQuotes_of_ne (h : ∀ c ∈ s, c ≠ '\x27') : Pen.doubleQuotes s = s := by
  induction s with
  | nil => rfl
  | cons c s ih =>
    rw [Pen.doubleQuotes, List.flatMap_cons, if_neg (h c List.mem_cons_self)]
    exact congrArg (c :: ·) (ih fun d hd ↦ h d (List.mem_cons_of_mem c hd))

/-- Without folds and line breaks a text between single quotes only has its quotes doubled. -/
theorem singleRuns_straight (first : Bool) {rs : List (Pen.RunKind × List Char)}
    (h : ∀ r ∈ rs, r.1 ≠ .breaks ∧ ∀ c ∈ r.2, Pen.runKind c = r.1) (p : Pen) :
    Pen.singleRuns indent false first rs p = p.put (Pen.doubleQuotes (rs.flatMap Prod.snd)) := by
  induction rs generalizing first p with
  | nil => exact (put_nil p).symm
  | cons r rs ih =>
    have hstep : Pen.singleRuns indent false first (r :: rs) p
        = Pen.singleRuns indent false false rs (p.put (Pen.doubleQuotes r.2)) := by
      obtain ⟨hbreaks, hkind⟩ := h r List.mem_cons_self
      obtain ⟨k, cs⟩ := r
      cases k with
      | word => rfl
      | breaks => exact absurd rfl hbreaks
      | spaces =>
        have hsame : Pen.doubleQuotes cs = cs := by
          refine doubleQuotes_of_ne fun c hc ↦ ?_
          rw [Pen.runKind_spaces (hkind c hc)]
          decide
        rw [hsame]
        rcases cs with _ | ⟨c, _ | ⟨d, cs⟩⟩ <;> rfl
    rw [hstep, ih false fun r hr ↦ h r (List.mem_cons_of_mem _ hr), put_put, List.flatMap_cons,
      doubleQuotes_append]

/-- Without folds a text between double quotes only has its characters escaped. -/
theorem doubleRuns_straight (first : Bool) (held s : List Char) (p : Pen) :
    Pen.doubleRuns indent false first held s p = p.put (held ++ escaped s) := by
  induction s generalizing first held p with
  | nil =>
    rw [escaped, List.flatMap_nil, List.append_nil]
    rfl
  | cons c s ih =>
    have hinside : (!first && !s.isEmpty && false) = false := Bool.and_false _
    rw [Pen.doubleRuns, hinside, escaped, List.flatMap_cons]
    simp only [Bool.false_and, Bool.false_eq_true, if_false]
    by_cases hc : Pen.isUnescaped c = true
    · rw [if_pos hc, if_pos hc, ih, escaped, List.append_assoc]
    · rw [if_neg hc, if_neg hc, ih, put_put, put_put, escaped]
      rfl

theorem isSimpleKey_text (h : isSimpleKey (.scalar .text s false) = true) :
    s.length ≤ 122 ∧ s ≠ [] ∧ Style.isMultiline s = false := by
  rw [isSimpleKey, Bool.and_eq_true, Bool.and_eq_true, decide_eq_true_eq] at h
  obtain ⟨⟨hlen, hempty⟩, hline⟩ := h
  have htag : (tagText .text).length = 5 := by decide
  rw [htag, maxSimpleKey] at hlen
  refine ⟨by omega, ?_, by rw [Bool.not_eq_true'] at hline; exact hline⟩
  rintro rfl
  cases hempty

/-- The runs of a text on one line hold no line breaks. -/
theorem runs_of_line (h : Style.isMultiline s = false) :
    ∀ r ∈ Pen.runs s, r.1 ≠ .breaks ∧ ∀ c ∈ r.2, Pen.runKind c = r.1 := by
  obtain ⟨hflat, hruns⟩ := runs_flatMap s
  intro r hr
  obtain ⟨hrne, hkind⟩ := hruns r hr
  refine ⟨fun hbreaks ↦ ?_, hkind⟩
  obtain ⟨c, cs, hcs⟩ := List.exists_cons_of_ne_nil hrne
  have hc : c ∈ r.2 := by
    rw [hcs]
    exact List.mem_cons_self
  have hmem : c ∈ s := by
    rw [← hflat]
    exact List.mem_flatMap.mpr ⟨r, hr, hc⟩
  have hbreak := Pen.runKind_breaks ((hkind c hc).trans hbreaks)
  rw [Style.isMultiline, List.any_eq_false] at h
  exact h c hmem hbreak

private theorem heardSingle_of_line (h : Style.isMultiline s = false) : Pen.heardSingle s = s := by
  have hrun : ∀ r ∈ Pen.runs s, Pen.heardRun r = r.2 :=
    fun r hr ↦ if_neg (runs_of_line h r hr).1
  rw [Pen.heardSingle, List.flatMap_def, List.map_congr_left hrun, ← List.flatMap_def,
    (runs_flatMap s).1]

/-- **A key on one line** is written in a form of its own. -/
theorem writeScalar_key (h : isSimpleKey (.scalar .text s false) = true) (hp : p.spaced = true) :
    writeScalar indent true .text s false p
      = ⟨p.out ++ writtenKey s, p.column + (writtenKey s).length, false, false⟩ := by
  obtain ⟨-, hne, hline⟩ := isSimpleKey_text h
  have hflat := (runs_flatMap s).1
  have hopen : ∀ q : Char, p.indicator [q] true false false
      = ⟨p.out ++ [q], p.column + 1, false, false⟩ := by
    intro q
    rw [Pen.indicator, hp, Bool.and_false]
    rfl
  rw [writeScalar, needsTag_text, if_neg Bool.false_ne_true, writtenKey]
  -- Where no line is folded, each style writes one run after another, so the whole text at once.
  rcases styleOf_cases true .text s with ⟨hstyle, -⟩ | ⟨hstyle, -⟩ | hstyle
  · rw [hstyle]
    change p.plain indent false s = _
    have hempty : ¬s.isEmpty = true := fun h ↦ hne (List.isEmpty_iff.mp h)
    rw [Pen.plain, if_neg hempty, hp, if_pos rfl, plainRuns_straight, hflat]
    rfl
  · rw [hstyle]
    change p.single indent false s = _
    rw [Pen.single, hopen, singleRuns_straight true (runs_of_line hline), hflat, indicator_close,
      writtenAs]
    simp [Pen.put]
    omega
  · rw [hstyle]
    change p.double indent false s = _
    change _ = Pen.mk (p.out ++ '"' :: (escaped s ++ ['"']))
      (p.column + ('"' :: (escaped s ++ ['"'])).length) false false
    rw [Pen.double, hopen, doubleRuns_straight, indicator_close]
    simp [Pen.put]
    omega

def IsPrintable (x : Char) : Prop := 0x20 ≤ x.toNat ∧ x.toNat ≤ 0x7e

private theorem isPrintable_of_isHexDigit (h : isHexDigit x = true) : IsPrintable x := by
  have hle : ∀ a b : Char, a ≤ b → a.toNat ≤ b.toNat := fun a b h ↦ h
  simp only [isHexDigit, Bool.or_eq_true, Bool.and_eq_true, decide_eq_true_eq] at h
  rcases h with (h | ⟨hlo, hhi⟩) | ⟨hlo, hhi⟩
  · rw [Char.isDigit, Bool.and_eq_true, decide_eq_true_eq, decide_eq_true_eq] at h
    have hlo : (48 : Nat) ≤ x.toNat := h.1
    have hhi : x.toNat ≤ 57 := h.2
    exact ⟨by omega, by omega⟩
  · have hlo : 97 ≤ x.toNat := hle _ _ hlo
    have hhi : x.toNat ≤ 102 := hle _ _ hhi
    exact ⟨by omega, by omega⟩
  · have hlo : 65 ≤ x.toNat := hle _ _ hlo
    have hhi : x.toNat ≤ 70 := hle _ _ hhi
    exact ⟨by omega, by omega⟩

theorem isPrintable_of_mem_escapeOf (h : y ∈ Pen.escapeOf x) : IsPrintable y := by
  have hcode : ∀ {letter : Char} {count m : Nat}, IsPrintable letter →
      y ∈ '\\' :: letter :: (Text.hex count m).map Char.toUpper → IsPrintable y := by
    intro letter count m hletter hy
    rcases List.mem_cons.mp hy with rfl | hy
    · exact ⟨by decide, by decide⟩
    · rcases List.mem_cons.mp hy with rfl | hy
      · exact hletter
      · exact isPrintable_of_isHexDigit (isHexDigit_of_mem_upperHex hy)
  rw [Pen.escapeOf] at h
  split at h
  · rename_i e he
    rcases List.mem_cons.mp h with rfl | h
    · exact ⟨by decide, by decide⟩
    · rw [List.mem_singleton.mp h]
      rw [Pen.letterEscape?] at he
      iterate 15
        rcases eq_or_of_ite he with ⟨-, rfl⟩ | he
        · exact ⟨by decide, by decide⟩
      cases he
  · dsimp only at h
    split at h
    · exact hcode ⟨by decide, by decide⟩ h
    · split at h
      · exact hcode ⟨by decide, by decide⟩ h
      · exact hcode ⟨by decide, by decide⟩ h

theorem IsPrintable.not_isBreak (h : IsPrintable x) : isBreak x = false := by
  have hne : ∀ y : Char, y.toNat < 0x20 ∨ 0x7e < y.toNat → x ≠ y := by
    rintro y hy rfl
    obtain ⟨hlo, hhi⟩ := h
    omega
  rw [isBreak, decide_eq_false (hne '\n' (by decide)), decide_eq_false (hne '\r' (by decide)),
    decide_eq_false (hne '\u0085' (by decide)), decide_eq_false (hne '\u2028' (by decide)),
    decide_eq_false (hne '\u2029' (by decide))]
  rfl

theorem escaped_cons (x : Char) (s : List Char) :
    escaped (x :: s) = (if Pen.isUnescaped x then [x] else Pen.escapeOf x) ++ escaped s := rfl

private theorem doubleBody_escaped (n : Nat) (s : List Char) : DoubleBody n s (escaped s) := by
  induction s with
  | nil => exact .nil
  | cons x s ih =>
    rw [escaped_cons]
    by_cases hx : Pen.isUnescaped x = true
    · rw [if_pos hx]
      exact .raw hx ih
    · rw [if_neg hx]
      exact .escape ih

private theorem isBreak_of_mem_escaped (h : y ∈ escaped s) : isBreak y = false := by
  obtain ⟨x, hx, hy⟩ := List.mem_flatMap.mp h
  split at hy
  · rename_i hun
    rw [List.mem_singleton.mp hy]
    by_cases hspace : x = ' '
    · rw [hspace]
      rfl
    · exact isBreak_of_endsWord (endsWord_of_isUnescaped hun hspace)
  · exact (isPrintable_of_mem_escapeOf hy).not_isBreak

theorem isBreak_of_isOrdinary (ho : Style.isOrdinary x = true) (hb : Style.isBreak x = false) :
    isBreak x = false := by
  have hne : x ≠ '\r' := by
    rintro rfl
    exact absurd ho (by decide)
  rw [Style.isBreak] at hb
  rw [isBreak, decide_eq_false hne, Bool.or_false]
  exact hb

private theorem plainBody_straight (n : Nat) (h : Style.allowsPlain s = true) (hs : s ≠ []) :
    PlainBody n s s := by
  obtain ⟨b, hb⟩ : ∃ b, Pen.WritesPlain ⟨[], 0, false, false⟩
      (Pen.plainRuns n false (Pen.runs s) ⟨[], 0, false, false⟩) n false s b :=
    Pen.plainRuns_writes false hs (Pen.fitsPlain_of_allowsPlain hs h) rfl
  have hout := hb.out
  rw [plainRuns_straight, (runs_flatMap s).1] at hout
  have hsb : s = b := hout
  exact hsb ▸ hb.body

private theorem singleBody_doubleQuotes (n : Nat) (h : Style.allowsSingle s = true)
    (hline : Style.isMultiline s = false) : SingleBody n s (Pen.doubleQuotes s) := by
  obtain ⟨b, hb⟩ : ∃ b, Pen.WritesSingle ⟨[], 0, false, false⟩
      (Pen.singleRuns n false true (Pen.runs s) ⟨[], 0, false, false⟩) n false s b :=
    Pen.singleRuns_writes false true (Pen.fitsSingle_of_allowsSingle h) (.inl rfl)
  have hout := hb.out
  rw [singleRuns_straight true (runs_of_line hline), (runs_flatMap s).1] at hout
  have hsb : Pen.doubleQuotes s = b := hout
  -- What the pen writes is a body of what is heard, which is the text itself on one line.
  have hbody := hb.body
  rw [heardSingle_of_line hline, ← hsb] at hbody
  exact hbody

theorem not_isBreak_quoted {q : Char} {b : List Char} (hq : isBreak q = false)
    (hb : ∀ x ∈ b, isBreak x = false) : ∀ x ∈ q :: (b ++ [q]), isBreak x = false := by
  intro x hx
  rcases List.mem_cons.mp hx with rfl | hx
  · exact hq
  · rcases List.mem_append.mp hx with hx | hx
    · exact hb x hx
    · rw [List.mem_singleton.mp hx]
      exact hq

/-- Doubled quotes bring no new characters. -/
theorem mem_of_mem_doubleQuotes (h : x ∈ Pen.doubleQuotes s) : x ∈ s := by
  obtain ⟨c, hc, hx⟩ := List.mem_flatMap.mp h
  split at hx
  · next hq =>
    have hx : x ∈ List.replicate 2 '\x27' := hx
    rwa [List.eq_of_mem_replicate hx, ← hq]
  · rwa [List.mem_singleton.mp hx]

/-- **A key on one line** is heard as it is. -/
theorem scalarBody_writtenKey (h : isSimpleKey (.scalar .text s false) = true) (n : Nat) :
    ∃ plain, ScalarBody n plain s (writtenKey s) ∧ (∀ x ∈ writtenKey s, isBreak x = false) ∧
      (plain = true → Tag.ofPlain (String.ofList s) = .text) := by
  obtain ⟨-, hne, hline⟩ := isSimpleKey_text h
  have hnobreak : ∀ x ∈ s, Style.isBreak x = false := by
    intro x hx
    rw [Style.isMultiline, List.any_eq_false] at hline
    exact Bool.eq_false_iff.mpr (hline x hx)
  rw [writtenKey]
  rcases styleOf_cases true .text s with ⟨hstyle, htag, hs, -⟩ | ⟨hstyle, hs⟩ | hstyle
  · rw [hstyle]
    have hbody := plainBody_straight (n + 2) hs hne
    refine ⟨true, .plain hbody (opensPlain_of_allowsPlain hs hbody), fun x hx ↦ ?_, fun _ ↦ htag⟩
    exact isBreak_of_isOrdinary ((Pen.fitsPlain_of_allowsPlain hne hs).ordinary x hx).1
      (hnobreak x hx)
  · rw [hstyle]
    refine ⟨false, .single (singleBody_doubleQuotes (n + 2) hs hline),
      not_isBreak_quoted (by decide) fun x hx ↦ ?_, fun hp ↦ absurd hp Bool.false_ne_true⟩
    have hx := mem_of_mem_doubleQuotes hx
    exact isBreak_of_isOrdinary ((Pen.fitsSingle_of_allowsSingle hs).ordinary x hx) (hnobreak x hx)
  · rw [hstyle]
    exact ⟨false, .double (doubleBody_escaped (n + 2) s),
      not_isBreak_quoted (by decide) fun x hx ↦ isBreak_of_mem_escaped hx,
      fun hp ↦ absurd hp Bool.false_ne_true⟩

end Tree

end GatewayPrint.Yaml
