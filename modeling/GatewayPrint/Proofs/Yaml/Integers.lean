import GatewayPrint.Proofs.Numerals
import GatewayPrint.Yaml.Scalar
import GatewayPrint.Yaml.Style

/-!
# Whole numbers as plain scalars

The decimal text of a whole number needs no quotes (`allowsPlain_intText`), its form implies that it
is a whole number (`ofPlain_intText`), and it is read as this number unless it has too many digits
(`readInt_intText`).
-/

namespace GatewayPrint.Yaml

variable {c : Char} {ds s rest : List Char} {n : Nat}

/-! ## No quotes -/

theorem adjacent_eq_false {p q : Char → Bool} (h : ∀ c ∈ s, p c = false) :
    Style.adjacent p q s = false := by
  induction s with
  | nil => rfl
  | cons a s ih =>
    cases s with
    | nil => rfl
    | cons b s =>
      rw [Style.adjacent, h a List.mem_cons_self, Bool.false_and, Bool.false_or]
      exact ih fun c hc ↦ h c (List.mem_cons_of_mem a hc)

private theorem innerIndicator_eq_false (h : ∀ c ∈ s, c ≠ ':' ∧ c ≠ '#') (previous : Char) :
    Style.innerIndicator previous s = false := by
  induction s generalizing previous with
  | nil => rfl
  | cons a s ih =>
    obtain ⟨hcolon, hhash⟩ := h a List.mem_cons_self
    rw [Style.innerIndicator, decide_eq_false hcolon, decide_eq_false hhash,
      ih fun c hc ↦ h c (List.mem_cons_of_mem a hc)]
    rfl

/-- What a digit is in a plain scalar. -/
structure IsWordChar (c : Char) : Prop where
  ordinary : Style.isOrdinary c = true
  notBreak : Style.isBreak c = false
  notBlank : endsWord c = false
  notIndicator : "#,[]\x7b\x7d&*!|>'\"%@\x60".toList.contains c = false
  ne : c ≠ ' ' ∧ c ≠ ':' ∧ c ≠ '#' ∧ c ≠ '?' ∧ c ≠ '.'

theorem isWordChar_of_isDigit (h : c.isDigit = true) : IsWordChar c := by
  refine forall_isDigit (fun d hd ↦ ?_) h
  have hord : ∀ d < 10, Style.isOrdinary (Nat.digitChar d) = true ∧
      Style.isBreak (Nat.digitChar d) = false ∧ endsWord (Nat.digitChar d) = false := by decide
  have hind : ∀ d < 10,
      "#,[]\x7b\x7d&*!|>'\"%@\x60".toList.contains (Nat.digitChar d) = false := by decide
  have hne : ∀ d < 10, Nat.digitChar d ≠ ' ' ∧ Nat.digitChar d ≠ ':' ∧ Nat.digitChar d ≠ '#' ∧
      Nat.digitChar d ≠ '?' ∧ Nat.digitChar d ≠ '.' := by decide
  exact ⟨(hord d hd).1, (hord d hd).2.1, (hord d hd).2.2, hind d hd, hne d hd⟩

private theorem isWordChar_hyphen : IsWordChar '-' := by
  constructor <;> decide

/-- A text of such characters that is no lone hyphen and no marker needs no quotes. -/
theorem allowsPlain_of_isWordChar (hs : s ≠ []) (h : ∀ c ∈ s, IsWordChar c)
    (hdash : ∀ c r, s = c :: r → c = '-' → Style.atBlank r = false)
    (hmarker : s.take 3 ≠ ['-', '-', '-']) : Style.allowsPlain s = true := by
  obtain ⟨c, rest, rfl⟩ := List.exists_cons_of_ne_nil hs
  have hc := h c List.mem_cons_self
  have hspace : ∀ x ∈ c :: rest, Style.isSpace x = false := fun x hx ↦
    decide_eq_false (h x hx).ne.1
  have hbreak : ∀ x ∈ c :: rest, Style.isBreak x = false := fun x hx ↦ (h x hx).notBreak
  have hblank : ∀ x ∈ c :: rest, Style.isSpaceOrBreak x = false := by
    intro x hx
    rw [Style.isSpaceOrBreak, decide_eq_false (h x hx).ne.1, hbreak x hx]
    rfl
  -- One fact for each reason against the plain style, in the order in which they are asked for.
  have hescapes : Style.needsEscapes (c :: rest) = false := by
    rw [Style.needsEscapes, List.all_eq_true.mpr fun x hx ↦ (h x hx).ordinary,
      adjacent_eq_false hspace]
    rfl
  have hindented : Style.hasIndentedLine (c :: rest) = false := adjacent_eq_false hbreak
  have hlast : ∀ x ∈ (c :: rest).getLast?, Style.isSpaceOrBreak x = false :=
    fun x hx ↦ hblank x (List.mem_of_getLast? hx)
  have houter : Style.hasOuterBlank (c :: rest) = false := by
    rw [Style.hasOuterBlank, List.head?_cons, Option.map_some, Option.getD_some,
      hblank c List.mem_cons_self, Bool.false_or]
    cases hl : (c :: rest).getLast? with
    | none => rfl
    | some x => exact hlast x hl
  have hline : Style.isMultiline (c :: rest) = false :=
    List.any_eq_false.mpr fun x hx ↦ by
      rw [hbreak x hx]
      exact Bool.false_ne_true
  have hdots : (c :: rest).take 3 ≠ ['.', '.', '.'] := fun heq ↦
    hc.ne.2.2.2.2 (List.cons.inj heq).1
  have hopen : Style.opensIndicator c rest = false := by
    rw [Style.opensIndicator, hc.notIndicator, Bool.false_or, decide_eq_false hc.ne.2.2.2.1,
      decide_eq_false hc.ne.2.1, Bool.false_or, Bool.false_or]
    by_cases hd : c = '-'
    · rw [hdash c rest rfl hd, Bool.and_false]
    · rw [decide_eq_false hd, Bool.false_and]
  have hinner : Style.innerIndicator c rest = false :=
    innerIndicator_eq_false (fun x hx ↦ ⟨(h x (List.mem_cons_of_mem c hx)).ne.2.1,
      (h x (List.mem_cons_of_mem c hx)).ne.2.2.1⟩) c
  rw [Style.allowsPlain, hescapes, hindented, houter, hline, Style.hasIndicator, hopen, hinner,
    decide_eq_false hmarker, decide_eq_false hdots]
  rfl

/-- The text of a whole number needs no quotes. -/
theorem allowsPlain_intText (n : Int) : Style.allowsPlain (intText n).toList = true := by
  obtain ⟨ds, hds, -, htext, -⟩ := toList_intText n
  obtain ⟨d, rest, rfl⟩ := List.exists_cons_of_ne_nil hds.ne_nil
  have hword : ∀ c ∈ d :: rest, IsWordChar c := fun c hc ↦ isWordChar_of_isDigit (hds.digits c hc)
  have hd : d ≠ '-' := by
    rintro rfl
    exact absurd (hds.digits '-' List.mem_cons_self) (by decide)
  rcases htext with ⟨htext, -⟩ | ⟨htext, -⟩
  · rw [htext]
    refine allowsPlain_of_isWordChar (List.cons_ne_nil _ _) hword ?_ ?_
    · intro c r hcr hc
      exact absurd ((List.cons.inj hcr).1.trans hc) hd
    · exact fun heq ↦ hd (List.cons.inj heq).1
  · rw [htext]
    refine allowsPlain_of_isWordChar (List.cons_ne_nil _ _) ?_ ?_ ?_
    · intro c hc
      rcases List.mem_cons.mp hc with rfl | hc
      · exact isWordChar_hyphen
      · exact hword c hc
    · intro c r hcr _
      rw [← (List.cons.inj hcr).2, Style.atBlank]
      exact (hword d List.mem_cons_self).notBlank
    · exact fun heq ↦ hd (List.cons.inj (List.cons.inj heq).2).1

/-! ## The implied tag -/

private theorem dropWhile_isDigitOrBar (h : ∀ c ∈ ds, c.isDigit = true) :
    ds.dropWhile Tag.isDigitOrBar = [] := by
  induction ds with
  | nil => rfl
  | cons c ds ih =>
    have hc : Tag.isDigitOrBar c = true := by
      rw [Tag.isDigitOrBar, h c List.mem_cons_self, Bool.true_or]
    rw [List.dropWhile_cons_of_pos hc]
    exact ih fun d hd ↦ h d (List.mem_cons_of_mem c hd)

private theorem unsigned_of_isDigit (hc : c.isDigit = true) :
    Tag.unsigned (c :: rest) = c :: rest := by
  have hminus : c ≠ '-' := by
    rintro rfl
    exact absurd hc (by decide)
  have hplus : c ≠ '+' := by
    rintro rfl
    exact absurd hc (by decide)
  rw [Tag.unsigned]
  · exact fun r heq ↦ hminus (List.cons.inj heq).1
  · exact fun r heq ↦ hplus (List.cons.inj heq).1

/-- A text that ends in a digit is not among words that do not. -/
theorem not_contains_of_last {ws : List String} (hlast : ∃ c ∈ s.getLast?, c.isDigit = true)
    (hws : (ws.any fun w ↦ w.toList.getLast?.any Char.isDigit) = false) :
    ws.contains (String.ofList s) = false := by
  refine Bool.eq_false_iff.mpr fun hc ↦ ?_
  obtain ⟨c, hmem, hdigit⟩ := hlast
  have hends : (String.ofList s).toList.getLast?.any Char.isDigit = true := by
    rw [String.toList_ofList, Option.mem_def.mp hmem]
    exact hdigit
  exact absurd hends (List.any_eq_false.mp hws _ (List.contains_iff_mem.mp hc))

private theorem withoutFinalBreak_of_last (hlast : ∃ c ∈ s.getLast?, c.isDigit = true) :
    Tag.withoutFinalBreak s = s := by
  obtain ⟨c, hmem, hdigit⟩ := hlast
  have hc : c ≠ '\n' := by
    rintro rfl
    exact absurd hdigit (by decide)
  rw [Tag.withoutFinalBreak]
  split
  · rename_i d rest heq
    have hhead : s.reverse.head? = some '\n' := by rw [heq]; rfl
    rw [List.head?_reverse, Option.mem_def.mp hmem] at hhead
    exact absurd (Option.some.inj hhead) hc
  · rfl

private theorem isInt_of_isNumeral (h : IsNumeral ds) (hs : Tag.unsigned s = ds) :
    Tag.isInt s = true := by
  obtain ⟨d, rest, rfl⟩ := List.exists_cons_of_ne_nil h.ne_nil
  have hrest : rest.all Tag.isDigitOrBar = true := by
    refine List.all_eq_true.mpr fun c hc ↦ ?_
    rw [Tag.isDigitOrBar, h.digits c (List.mem_cons_of_mem d hc), Bool.true_or]
  rw [Tag.isInt, hs]
  by_cases hd : d = '0'
  · rw [h.lead (congrArg some hd)]
    rfl
  · split
    · rfl
    · rename_i heq
      exact absurd (List.cons.inj heq).1 hd
    · rename_i heq
      exact absurd (List.cons.inj heq).1 hd
    · rename_i heq
      exact absurd (List.cons.inj heq).1 hd
    · rename_i heq
      obtain ⟨rfl, rfl⟩ := List.cons.inj heq
      rw [h.digits d List.mem_cons_self, hrest]
      rfl
    · rename_i heq
      cases heq

private theorem isFloat_eq_false (h : IsNumeral ds) (hs : Tag.unsigned s = ds)
    (hdot : s.head? ≠ some '.')
    (hlast : ∃ c ∈ s.getLast?, c.isDigit = true) : Tag.isFloat s = false := by
  have hdrop := dropWhile_isDigitOrBar h.digits
  have hds : ∃ c ∈ ds.getLast?, c.isDigit = true :=
    ⟨_, List.getLast?_eq_some_getLast h.ne_nil, h.digits _ (List.getLast_mem h.ne_nil)⟩
  -- Digits alone have no point, and the words for infinities and for no number end in letters.
  have hpointed : Tag.isPointed ds = false := by
    rw [Tag.isPointed, hdrop]
  have hbase60 : Tag.isPointedBase60 ds = false := by
    rw [Tag.isPointedBase60, hdrop]
    rfl
  have hinf : [".inf", ".Inf", ".INF"].contains (String.ofList ds) = false :=
    not_contains_of_last hds (by decide)
  have hnan : [".nan", ".NaN", ".NAN"].contains (String.ofList s) = false :=
    not_contains_of_last hlast (by decide)
  rw [Tag.isFloat, hs]
  rw [hpointed, hbase60, hinf, hnan, decide_eq_false hdot, Bool.or_self, Bool.and_false]
  rfl

theorem ofPlain_intText (n : Int) : Tag.ofPlain (intText n) = .int := by
  obtain ⟨ds, hds, -, htext, -⟩ := toList_intText n
  obtain ⟨d, rest, rfl⟩ := List.exists_cons_of_ne_nil hds.ne_nil
  have hd := hds.digits d List.mem_cons_self
  have hdslast : ∃ c ∈ (d :: rest).getLast?, c.isDigit = true :=
    ⟨_, List.getLast?_eq_some_getLast hds.ne_nil, hds.digits _ (List.getLast_mem hds.ne_nil)⟩
  -- The tests look behind the sign, for a dot in front, and at the last character, a digit.
  have hunsigned : Tag.unsigned (intText n).toList = d :: rest := by
    rcases htext with ⟨htext, -⟩ | ⟨htext, -⟩
    · rw [htext]
      exact unsigned_of_isDigit hd
    · rw [htext]
      rfl
  have hlast : ∃ c ∈ (intText n).toList.getLast?, c.isDigit = true := by
    rcases htext with ⟨htext, -⟩ | ⟨htext, -⟩
    · rw [htext]
      exact hdslast
    · rw [htext, List.getLast?_cons_cons]
      exact hdslast
  have hdot : (intText n).toList.head? ≠ some '.' := by
    rcases htext with ⟨htext, -⟩ | ⟨htext, -⟩
    · rw [htext]
      intro heq
      exact (isWordChar_of_isDigit hd).ne.2.2.2.2 (Option.some.inj heq)
    · rw [htext]
      exact fun heq ↦ nomatch heq
  have hword : Tag.boolWords.contains (String.ofList (intText n).toList) = false :=
    not_contains_of_last hlast (by decide)
  rw [Tag.ofPlain, withoutFinalBreak_of_last hlast]
  rw [hword, isFloat_eq_false hds hunsigned hdot hlast, isInt_of_isNumeral hds hunsigned]
  rfl

/-! ## Reading -/

theorem dropWhile_eq_self {p : Char → Bool} (h : ∀ c ∈ s, p c = false) : s.dropWhile p = s := by
  cases s with
  | nil => rfl
  | cons c s => exact List.dropWhile_cons_of_neg (by rw [h c List.mem_cons_self]; decide)

theorem takeWhile_eq_self {p : Char → Bool} (h : ∀ c ∈ s, p c = true) : s.takeWhile p = s := by
  induction s with
  | nil => rfl
  | cons c s ih =>
    rw [List.takeWhile_cons_of_pos (h c List.mem_cons_self),
      ih fun d hd ↦ h d (List.mem_cons_of_mem c hd)]

theorem stripOf_eq_self {p : Char → Bool} (h : ∀ c ∈ s, p c = false) : Text.stripOf p s = s := by
  rw [Text.stripOf, dropWhile_eq_self h,
    dropWhile_eq_self fun c hc ↦ h c (List.mem_reverse.mp hc), List.reverse_reverse]

/-- What a digit is to the reader of numerals. -/
structure IsPlainDigit (c : Char) : Prop where
  notBlank : Text.isNumeralBlank c = false
  ascii : Text.asciiDigit c = c
  value : Numeral.digitValue? 10 c = some (c.toNat - '0'.toNat)
  ne : c ≠ '_' ∧ c ≠ ':' ∧ c ≠ '-' ∧ c ≠ '+'

theorem isPlainDigit_of_isDigit (h : c.isDigit = true) : IsPlainDigit c := by
  refine forall_isDigit (fun d hd ↦ ?_) h
  have hblank : ∀ d < 10, Text.isNumeralBlank (Nat.digitChar d) = false := by decide
  have hascii : ∀ d < 10, Text.asciiDigit (Nat.digitChar d) = Nat.digitChar d := by decide
  have hvalue : ∀ d < 10, Numeral.digitValue? 10 (Nat.digitChar d) =
      some ((Nat.digitChar d).toNat - '0'.toNat) := by decide
  have hne : ∀ d < 10, Nat.digitChar d ≠ '_' ∧ Nat.digitChar d ≠ ':' ∧ Nat.digitChar d ≠ '-' ∧
      Nat.digitChar d ≠ '+' := by decide
  exact ⟨hblank d hd, hascii d hd, hvalue d hd, hne d hd⟩

private theorem valueOf_eq_digitsValue (h : ∀ c ∈ ds, c.isDigit = true) :
    Numeral.valueOf 10 ds = digitsValue ds := by
  have hfold : ∀ ds : List Char, (∀ c ∈ ds, c.isDigit = true) → ∀ n : Nat,
      ds.foldl (fun n d ↦ n * 10 + (Numeral.digitValue? 10 d).getD 0) n =
        Nat.ofDigitChars 10 ds n := by
    intro ds
    induction ds with
    | nil => exact fun _ _ ↦ rfl
    | cons c ds ih =>
      intro h n
      rw [List.foldl_cons, Nat.ofDigitChars_cons,
        (isPlainDigit_of_isDigit (h c List.mem_cons_self)).value, Option.getD_some,
        ih (fun d hd ↦ h d (List.mem_cons_of_mem c hd)), Nat.mul_comm]
  exact hfold ds h 0

private theorem barsInside_of_isDigit (hs : ds ≠ []) (h : ∀ c ∈ ds, c.isDigit = true) (bar : Bool) :
    Numeral.barsInside bar ds = true := by
  induction ds generalizing bar with
  | nil => exact absurd rfl hs
  | cons c ds ih =>
    have hc : c ≠ '_' := (isPlainDigit_of_isDigit (h c List.mem_cons_self)).ne.1
    rw [Numeral.barsInside]
    · cases ds with
      | nil => rfl
      | cons d ds =>
        exact ih (List.cons_ne_nil _ _) (fun d hd ↦ h d (List.mem_cons_of_mem c hd)) false
    · exact hc

/-- A text of decimal digits names the number that they stand for. -/
theorem read_of_isNumeral (h : IsNumeral ds) (hlen : ds.length ≤ maxDigits) :
    Numeral.read 10 ds = .ok (digitsValue ds : Int) := by
  have hdigit : ∀ c ∈ ds, IsPlainDigit c := fun c hc ↦ isPlainDigit_of_isDigit (h.digits c hc)
  -- Nothing that is taken off a text before it is read is found in decimal digits.
  have hstrip : Text.asciiDigits (Text.stripOf Text.isNumeralBlank ds) = ds := by
    rw [stripOf_eq_self fun c hc ↦ (hdigit c hc).notBlank, Text.asciiDigits]
    exact (List.map_congr_left fun c hc ↦ (hdigit c hc).ascii).trans (List.map_id ds)
  have hsign : splitSign ds = (false, ds) := by
    obtain ⟨d, rest, rfl⟩ := List.exists_cons_of_ne_nil h.ne_nil
    have hd := (hdigit d List.mem_cons_self).ne
    rw [splitSign]
    · exact fun r heq ↦ hd.2.2.1 (List.cons.inj heq).1
    · exact fun r heq ↦ hd.2.2.2 (List.cons.inj heq).1
  have hmark : Numeral.withoutMark 10 ds = ds := by
    rw [Numeral.withoutMark.eq_def]
    split
    · rfl
    · rfl
  have hrun : ds.takeWhile (Numeral.isDigitOrBar 10) = ds := by
    refine takeWhile_eq_self fun c hc ↦ ?_
    rw [Numeral.isDigitOrBar, (hdigit c hc).value, Option.isSome_some, Bool.or_true]
  have hbars : ds.filter (· ≠ '_') = ds :=
    List.filter_eq_self.mpr fun c hc ↦ decide_eq_true (hdigit c hc).ne.1
  rw [Numeral.read, hstrip, hsign]
  dsimp only
  rw [hmark, hrun, hbars, barsInside_of_isDigit h.ne_nil h.digits, valueOf_eq_digitsValue h.digits,
    if_neg (by decide), if_neg (by simpa using hlen), if_neg (Nat.lt_irrefl _)]
  rfl

private theorem readBase_of_isNumeral (h : IsNumeral ds) (hlen : ds.length ≤ maxDigits) :
    readBase 10 ds = .ok (digitsValue ds : Int) := by
  rw [readBase, read_of_isNumeral h hlen]
  rfl

/-- What the reader of whole numbers does with a numeral, before what it does with the result. -/
theorem readBody_of_isNumeral (ds : List Char) (k : Int → Except ScalarFault Int) :
    IsNumeral ds → ds.length ≤ maxDigits → (match ds with
      | [] => do
        let n ← throw .noDigits
        k n
      | ['0'] => do
        let n ← pure 0
        k n
      | '0' :: 'b' :: rest => do
        let n ← readBase 2 rest
        k n
      | '0' :: 'x' :: rest => do
        let n ← readBase 16 rest
        k n
      | '0' :: _ => do
        let n ← readBase 8 ds
        k n
      | _ =>
        if ds.contains ':' then do
          let parts ← (splitColons ds).mapM (readBase 10)
          let n ← pure (base60 parts)
          k n
        else do
          let n ← readBase 10 ds
          k n : Except ScalarFault Int) = k (digitsValue ds : Int) := by
  intro h hlen
  -- a numeral that starts with a zero is this zero, so the marks of other bases are out
  by_cases hzero : ds.head? = some '0'
  · obtain rfl := h.lead hzero
    rfl
  · have hcolon : ds.contains ':' = false := by
      refine Bool.eq_false_iff.mpr fun hc ↦ ?_
      exact (isPlainDigit_of_isDigit (h.digits _ (List.contains_iff_mem.mp hc))).ne.2.1 rfl
    have hread := readBase_of_isNumeral h hlen
    split
    · exact absurd rfl h.ne_nil
    · exact absurd rfl hzero
    · exact absurd rfl hzero
    · exact absurd rfl hzero
    · exact absurd rfl hzero
    · rw [hcolon, hread]
      rfl

/-- **A whole number is read as itself** unless it has too many digits. -/
theorem readInt_intText {n : Int} (h : (intText? n).isSome = true) :
    readInt (intText n) = .ok n := by
  obtain ⟨ds, hds, hvalue, htext, hlen⟩ := toList_intText n
  have hdigit : ∀ c ∈ ds, IsPlainDigit c := fun c hc ↦ isPlainDigit_of_isDigit (hds.digits c hc)
  have hbars : withoutBars ds = ds :=
    List.filter_eq_self.mpr fun c hc ↦ decide_eq_true (hdigit c hc).ne.1
  have hbody := fun k ↦ readBody_of_isNumeral ds k hds (hlen.mpr h)
  rcases htext with ⟨htext, hn⟩ | ⟨htext, hn⟩
  · have hminus : ds.head? ≠ some '-' := fun heq ↦
      (hdigit _ (List.mem_of_head? heq)).ne.2.2.1 rfl
    have hplus : ds.head? ≠ some '+' := fun heq ↦
      (hdigit _ (List.mem_of_head? heq)).ne.2.2.2 rfl
    rw [readInt, htext, hbars, if_neg (by rw [List.isEmpty_iff]; exact hds.ne_nil)]
    dsimp only
    rw [decide_eq_false hminus, decide_eq_false hplus]
    refine (hbody _).trans ?_
    rw [if_neg hminus, hvalue, Int.natAbs_of_nonneg hn]
    rfl
  · have hbars : withoutBars ('-' :: ds) = '-' :: ds := congrArg ('-' :: ·) hbars
    rw [readInt, htext, hbars, if_neg (by exact Bool.false_ne_true)]
    refine (hbody _).trans ?_
    rw [if_pos (by rfl), hvalue, Int.ofNat_natAbs_of_nonpos (Int.le_of_lt hn), Int.neg_neg]
    rfl

end GatewayPrint.Yaml
