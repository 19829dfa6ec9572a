import GatewayPrint.Proofs.Yaml.Quoted
import GatewayPrint.Proofs.Yaml.Words

/-!
# What the pen writes

A scalar is written as a body of its style: plain words (`plainRuns_writes`), the inside of single
quotes (`singleRuns_writes`) or of double quotes (`isDoubleWritten`). Where the lines are folded
does not show in these statements, but what is heard when the body is read again does: it is the
text itself for plain scalars, and for quoted ones the text that `heardSingle` and `heardDouble`
give.
-/

namespace GatewayPrint.Yaml

namespace Pen

variable {p q : Pen} {s w rest body : List Char} {x : Char} {k : RunKind} {indent n : Nat}
  {fold : Bool}

/-! ## Columns -/

/-- The pen moves to a column from where it is, which is not beyond the column, or from a new
line. -/
theorem exists_toColumn (p : Pen) (n : Nat) : ∃ q : Pen,
    (q = p.newLine '\n' ∨ q = p ∧ p.column ≤ n ∧ (p.column = n → p.spaced = true)) ∧
      (q.column < n ∧
          p.toColumn n = { q.put (List.replicate (n - q.column) ' ') with spaced := true } ∨
        n ≤ q.column ∧ p.toColumn n = q) := by
  have hspaces : ∀ q : Pen, q.column < n ∧ (if q.column < n then
        { q.put (List.replicate (n - q.column) ' ') with spaced := true } else q)
        = { q.put (List.replicate (n - q.column) ' ') with spaced := true } ∨
      n ≤ q.column ∧ (if q.column < n then
        { q.put (List.replicate (n - q.column) ' ') with spaced := true } else q) = q := by
    intro q
    split
    · next hlt => exact .inl ⟨hlt, rfl⟩
    · next hlt => exact .inr ⟨Nat.not_lt.mp hlt, rfl⟩
  rw [toColumn]
  split
  · exact ⟨_, .inl rfl, hspaces _⟩
  · next hstay =>
    simp only [Bool.or_eq_true, Bool.and_eq_true, Bool.not_eq_true', decide_eq_true_eq, not_or,
      not_and, Bool.not_eq_false] at hstay
    exact ⟨p, .inr ⟨rfl, Nat.not_lt.mp hstay.1.2, hstay.2⟩, hspaces p⟩

theorem toColumn_of_not_fresh (h : p.fresh = false ∨ n < p.column) :
    p.toColumn n = ⟨p.out ++ '\n' :: List.replicate n ' ', n, true, true⟩ := by
  have hnew : (!p.fresh || n < p.column || (p.column = n && !p.spaced)) = true := by
    rcases h with h | h
    · rw [h]
      rfl
    · rw [decide_eq_true h, Bool.or_true, Bool.true_or]
  rw [toColumn, hnew, if_pos rfl]
  cases n with
  | zero => rfl
  | succ n =>
    rw [newLine]
    dsimp only
    rw [if_pos (Nat.zero_lt_succ n), put]
    simp

theorem toColumn_of_newLine (h : p.fresh = true ∧ p.column = 0 ∧ p.spaced = true) :
    p.toColumn n = ⟨p.out ++ List.replicate n ' ', n, true, true⟩ := by
  obtain ⟨out, column, spaced, fresh⟩ := p
  obtain ⟨rfl, rfl, rfl⟩ := h
  cases n with
  | zero => simp [toColumn]
  | succ n => simp [toColumn, put]

/-! ## Runs -/

theorem runs_append (hw : w ≠ []) (hk : ∀ x ∈ w, runKind x = k)
    (hrest : ∀ x ∈ rest.head?, runKind x ≠ k) : runs (w ++ rest) = (k, w) :: runs rest := by
  have hhead : ∀ {cs : List Char}, ∀ r ∈ (runs cs).head?,
      ∃ x r', cs = x :: r' ∧ runKind x = r.1 := by
    intro cs r hr
    cases cs with
    | nil => cases hr
    | cons x cs =>
      refine ⟨x, cs, rfl, ?_⟩
      rw [runs] at hr
      split at hr
      · split at hr
        · next hkind => cases hr; exact hkind.symm
        · cases hr; rfl
      · cases hr; rfl
  -- The last character of the run begins it; the ones before join the run that follows them.
  induction w with
  | nil => exact absurd rfl hw
  | cons x w ih =>
    have hx := hk x List.mem_cons_self
    cases w with
    | nil =>
      rw [List.singleton_append, runs]
      split
      · next k' cs others hruns =>
        obtain ⟨y, r, rfl, hy⟩ := hhead (k', cs) (by rw [hruns]; rfl)
        have hne : k' ≠ runKind x := by
          rw [hx]
          exact fun heq ↦ hrest y rfl (hy.trans heq)
        rw [if_neg hne, hx, hruns]
      · next hruns => rw [hx, hruns]
    | cons y w =>
      have hrec := ih (List.cons_ne_nil _ _) fun z hz ↦ hk z (List.mem_cons_of_mem x hz)
      rw [List.cons_append, runs, hrec]
      dsimp only
      rw [if_pos hx.symm]

theorem exists_runs (hs : s ≠ []) : ∃ k w rest, s = w ++ rest ∧ w ≠ [] ∧
    (∀ x ∈ w, runKind x = k) ∧ (∀ x ∈ rest.head?, runKind x ≠ k) ∧
    runs s = (k, w) :: runs rest := by
  obtain ⟨x, s, rfl⟩ := List.exists_cons_of_ne_nil hs
  let same : Char → Bool := fun y ↦ decide (runKind y = runKind x)
  have hsplit : (x :: s).takeWhile same ++ (x :: s).dropWhile same = x :: s :=
    List.takeWhile_append_dropWhile
  have hne : (x :: s).takeWhile same ≠ [] := by
    rw [List.takeWhile_cons_of_pos (p := same) (decide_eq_true rfl)]
    exact List.cons_ne_nil _ _
  have hk : ∀ y ∈ (x :: s).takeWhile same, runKind y = runKind x := fun y hy ↦
    of_decide_eq_true (List.mem_takeWhile_imp (p := same) hy)
  have hrest : ∀ y ∈ ((x :: s).dropWhile same).head?, runKind y ≠ runKind x := by
    intro y hy
    have hnot := List.head?_dropWhile_not same (x :: s)
    rw [Option.mem_def.mp hy] at hnot
    have hsame : same y = false := by simpa using hnot
    exact of_decide_eq_false hsame
  refine ⟨runKind x, _, _, hsplit.symm, hne, hk, hrest, ?_⟩
  have hruns := runs_append hne hk hrest
  rwa [hsplit] at hruns

private theorem runKind_word (h : runKind x = .word) : x ≠ ' ' ∧ Style.isBreak x = false := by
  rw [runKind] at h
  split at h
  · cases h
  · next hsp =>
    split at h
    · cases h
    · next hb => exact ⟨hsp, Bool.eq_false_iff.mpr hb⟩

theorem runKind_spaces (h : runKind x = .spaces) : x = ' ' := by
  rw [runKind] at h
  split at h
  · assumption
  · split at h <;> cases h

theorem runKind_breaks (h : runKind x = .breaks) : Style.isBreak x = true := by
  rw [runKind] at h
  split at h
  · cases h
  · split at h
    · assumption
    · cases h

theorem eq_replicate_of_spaces (hw : w ≠ []) (hk : ∀ x ∈ w, runKind x = .spaces) :
    ∃ n, w = List.replicate (n + 1) ' ' := by
  refine ⟨w.length - 1, List.eq_replicate_iff.mpr ⟨?_, fun x hx ↦ runKind_spaces (hk x hx)⟩⟩
  have := List.length_pos_iff.mpr hw
  omega

/-! ## Double quotes -/

/-- What is heard of a text between double quotes. Where the indentation alone exceeds the width, a
space after an escape is folded twice, and the second fold takes the backslash of the first. -/
def heardDouble (deep : Bool) : Bool → List Char → List Char
  | _, [] => []
  | first, c :: rest =>
    if deep && !first && !isUnescaped c && rest.head? = some ' ' && 2 ≤ rest.length then
      c :: '\\' :: ' ' :: heardDouble deep false rest
    else c :: heardDouble deep false rest

theorem heardDouble_cons_of_isUnescaped {deep first : Bool} (h : isUnescaped x = true) :
    heardDouble deep first (x :: s) = x :: heardDouble deep false s := by
  rw [heardDouble, h]
  simp

theorem heardDouble_cons {deep first : Bool}
    (h : ¬(deep = true ∧ first = false ∧ rest.head? = some ' ' ∧ 2 ≤ rest.length)) :
    heardDouble deep first (x :: rest) = x :: heardDouble deep false rest := by
  rw [heardDouble, if_neg]
  intro hcond
  simp only [Bool.and_eq_true, Bool.not_eq_true', decide_eq_true_eq] at hcond
  exact h ⟨hcond.1.1.1.1, hcond.1.1.1.2, hcond.1.2, hcond.2⟩

private theorem heardDouble_clash {deep first : Bool} (hx : isUnescaped x = false)
    (h : deep = true ∧ first = false ∧ 1 ≤ rest.length) :
    heardDouble deep first (x :: ' ' :: rest)
      = x :: '\\' :: ' ' :: ' ' :: heardDouble deep false rest := by
  obtain ⟨rfl, rfl, hlen⟩ := h
  rw [heardDouble, hx, heardDouble_cons_of_isUnescaped (x := ' ') (by decide), if_pos]
  simpa using hlen

/-- A body begins with a space only where the text does. -/
theorem head_ne_of_doubleBody (h : DoubleBody n (x :: s) body) (hx : x ≠ ' ') :
    body.head? ≠ some ' ' := by
  cases h with
  | raw _ _ => exact fun heq ↦ hx (Option.some.inj heq)
  | escape _ =>
    obtain ⟨cs, hcs⟩ := escapeOf_eq_cons x
    rw [hcs]
    exact fun heq ↦ absurd (Option.some.inj heq) (by decide)
  | fold _ _ => exact fun heq ↦ absurd (Option.some.inj heq) (by decide)
  | escapedSpace _ => exact absurd rfl hx
  | clash _ _ => exact fun heq ↦ absurd (Option.some.inj heq) (by decide)

/-- The pen on a new line between double quotes. -/
def folded (p : Pen) (indent : Nat) : Pen :=
  ⟨p.out ++ '\\' :: '\n' :: List.replicate indent ' ', indent, false, false⟩

theorem folded_put_nil : (p.put []).folded indent = p.folded indent := by
  simp [folded, put]

theorem le_column_folded (s held : List Char) :
    indent ≤ ((p.folded indent).put s).column + held.length :=
  Nat.le_trans (Nat.le_add_right _ _) (Nat.le_add_right _ _)

theorem doubleFold_space (h : p.fresh = false) :
    p.doubleFold indent (' ' :: rest) = (p.folded indent).put ['\\'] := by
  have hput : (p.put ['\\']).fresh = false := h
  rw [doubleFold, toColumn_of_not_fresh (.inl hput)]
  dsimp only
  rw [List.head?_cons, if_pos rfl]
  simp [put, folded]

theorem doubleFold_of_ne (h : p.fresh = false) (hr : rest.head? ≠ some ' ') :
    p.doubleFold indent rest = p.folded indent := by
  have hput : (p.put ['\\']).fresh = false := h
  rw [doubleFold, toColumn_of_not_fresh (.inl hput)]
  dsimp only
  rw [if_neg hr]
  simp [put, folded]

private theorem two_le_length_escapeOf (x : Char) : 2 ≤ (escapeOf x).length := by
  rw [escapeOf]
  split
  · exact Nat.le_refl _
  · dsimp only
    split
    · simp [Text.length_hex]
    · split <;> simp [Text.length_hex]

/-- What is true of the pen after the inside of double quotes: a body is appended to what is
held. -/
structure WritesDouble (p q : Pen) (indent : Nat) (fold : Bool) (held s b : List Char) :
    Prop where
  out : q.out = p.out ++ held ++ b
  body : DoubleBody indent s b
  fresh : q.fresh = false
  column : fold = false → q.column = p.column + held.length + b.length

namespace WritesDouble

variable {held : List Char}

theorem unescaped (hx : isUnescaped x = true)
    (h : WritesDouble p q indent fold (held ++ [x]) s body) :
    WritesDouble p q indent fold held (x :: s) (x :: body) where
  out := by
    rw [h.out]
    simp only [List.append_assoc, List.singleton_append]
  body := .raw hx h.body
  fresh := h.fresh
  column hf := by
    rw [h.column hf]
    simp only [List.length_append, List.length_cons, List.length_nil]
    omega

theorem escaped (h : WritesDouble ((p.put held).put (escapeOf x)) q indent fold [] s body) :
    WritesDouble p q indent fold held (x :: s) (escapeOf x ++ body) where
  out := by
    rw [h.out]
    simp only [put, List.append_nil, List.append_assoc]
  body := .escape h.body
  fresh := h.fresh
  column hf := by
    rw [h.column hf]
    simp only [put, List.length_append, List.length_nil]
    omega

theorem escapedSpace (h : WritesDouble (p.put ['\\']) q indent fold [' '] s body) :
    WritesDouble p q indent fold [] (' ' :: s) ('\\' :: ' ' :: body) where
  out := by
    rw [h.out]
    simp [put]
  body := .escapedSpace h.body
  fresh := h.fresh
  column hf := by
    rw [h.column hf]
    simp only [put, List.length_cons, List.length_nil]
    omega

theorem folded (h : WritesDouble ((p.put held).folded indent) q indent true [] s body)
    (hb : body.head? ≠ some ' ') :
    WritesDouble p q indent true held s ('\\' :: '\n' :: (List.replicate indent ' ' ++ body)) where
  out := by
    rw [h.out]
    simp [put, Pen.folded]
  body := .fold hb h.body
  fresh := h.fresh
  column hf := nomatch hf

theorem clash (h : WritesDouble ((p.put ['\\']).folded indent) q indent true [] s body)
    (hb : body.head? ≠ some ' ') :
    WritesDouble p q indent true [] ('\\' :: ' ' :: s)
      ('\\' :: '\\' :: '\n' :: (List.replicate indent ' ' ++ body)) where
  out := by
    rw [h.out]
    simp [put, Pen.folded]
  body := .clash hb h.body
  fresh := h.fresh
  column hf := nomatch hf

end WritesDouble

theorem head?_slash_ne {cs : List Char} : ('\\' :: cs).head? ≠ some ' ' :=
  fun heq ↦ absurd (Option.some.inj heq) (by decide)

/-- An escaped space at the beginning of a line is folded again where the indentation alone exceeds
the width. -/
theorem doubleRuns_space :
    doubleRuns indent true false [] (' ' :: rest) ((p.folded indent).put ['\\'])
    = doubleRuns indent true false [' '] rest
        (if rest ≠ [] ∧ lineWidth ≤ indent then
          (((p.folded indent).put ['\\']).folded indent).put ['\\']
        else (p.folded indent).put ['\\']) := by
  have hcolumn : ((p.folded indent).put ['\\']).column = indent + 1 := rfl
  rw [doubleRuns]
  dsimp only
  rw [if_pos (by decide)]
  by_cases h : rest ≠ [] ∧ lineWidth ≤ indent
  · rw [if_pos h, if_pos (by simp [hcolumn, h.1, Nat.lt_succ_of_le h.2]), doubleFold_space rfl,
      folded_put_nil]
  · rw [if_neg h, if_neg, List.nil_append]
    simp only [hcolumn, Bool.and_eq_true, decide_eq_true_eq, Bool.not_eq_true',
      List.isEmpty_eq_false_iff, List.length_nil]
    exact fun hcond ↦ h ⟨hcond.1.1.1.2, Nat.le_of_lt_succ hcond.2⟩

/-- The text `s` is written as the inside of double quotes, wherever the pen is. -/
def IsDoubleWritten (indent : Nat) (fold : Bool) (s : List Char) : Prop :=
  ∀ (first : Bool) (held : List Char) (p : Pen), p.fresh = false →
    indent ≤ p.column + held.length →
    ∃ b, WritesDouble p (doubleRuns indent fold first held s p) indent fold held
      (heardDouble (fold && lineWidth ≤ indent) first s) b

/-- A fold after an escape where a space follows. -/
theorem doubleRuns_escape_space {held : List Char} (h : IsDoubleWritten indent true rest)
    (hx : isUnescaped x = false) (hp : p.fresh = false) :
    ∃ b, WritesDouble p
      (doubleRuns indent true false [] (' ' :: rest)
        (((p.put held).put (escapeOf x)).doubleFold indent (' ' :: rest)))
      indent true held (heardDouble (true && lineWidth ≤ indent) false (x :: ' ' :: rest)) b := by
  have hescape : ((p.put held).put (escapeOf x)).fresh = false := hp
  rw [doubleFold_space hescape, ← folded_put_nil, doubleRuns_space]
  by_cases hagain : rest ≠ [] ∧ lineWidth ≤ indent
  -- The space that was escaped for the first fold stands after the width, and is folded once more.
  · rw [if_pos hagain, heardDouble_clash hx ⟨by simp [hagain.2], rfl,
      List.length_pos_iff.mpr hagain.1⟩]
    obtain ⟨b, hb⟩ := h false [' '] _ rfl (le_column_folded ['\\'] [' '])
    exact ⟨_, ((hb.escapedSpace.clash head?_slash_ne).folded head?_slash_ne).escaped⟩
  · rw [if_neg hagain, heardDouble_cons, heardDouble_cons_of_isUnescaped (by decide)]
    · obtain ⟨b, hb⟩ := h false [' '] _ rfl (le_column_folded ['\\'] [' '])
      exact ⟨_, (hb.escapedSpace.folded head?_slash_ne).escaped⟩
    · rintro ⟨hdeep, -, -, hlen⟩
      simp only [Bool.true_and, decide_eq_true_eq] at hdeep
      exact hagain ⟨List.ne_nil_of_length_pos (Nat.lt_of_succ_lt_succ hlen), hdeep⟩

/-- A fold after an escape where no space follows. -/
theorem doubleRuns_escape_ne {held : List Char} {y : Char}
    (h : IsDoubleWritten indent true (y :: rest)) (hy : y ≠ ' ') (hp : p.fresh = false) :
    ∃ b, WritesDouble p
      (doubleRuns indent true false [] (y :: rest)
        (((p.put held).put (escapeOf x)).doubleFold indent (y :: rest)))
      indent true held (heardDouble (true && lineWidth ≤ indent) false (x :: y :: rest)) b := by
  have hescape : ((p.put held).put (escapeOf x)).fresh = false := hp
  have hhead : (y :: rest).head? ≠ some ' ' := fun heq ↦ hy (Option.some.inj heq)
  rw [doubleFold_of_ne hescape hhead, ← folded_put_nil, heardDouble_cons fun h ↦ hhead h.2.2.1]
  obtain ⟨b, hb⟩ := h false [] (Pen.folded _ indent) rfl (Nat.le_refl _)
  -- Spaces at the beginning of the next line would not be heard, so the body must not have any.
  have hbhead : b.head? ≠ some ' ' := by
    have hbody := hb.body
    rw [heardDouble] at hbody
    split at hbody
    · exact head_ne_of_doubleBody hbody hy
    · exact head_ne_of_doubleBody hbody hy
  exact ⟨_, (hb.folded hbhead).escaped⟩

private theorem doubleRuns_fold_unescaped {held : List Char} (h : IsDoubleWritten indent true rest)
    (hx : isUnescaped x = true) (hp : p.fresh = false) :
    ∃ b, WritesDouble p
      (doubleRuns indent true false [x] rest ((p.put held).doubleFold indent (x :: rest)))
      indent true held (x :: heardDouble (true && lineWidth ≤ indent) false rest) b := by
  have hput : (p.put held).fresh = false := hp
  by_cases hsp : x = ' '
  · subst hsp
    rw [doubleFold_space hput]
    obtain ⟨b, hb⟩ := h false [' '] _ rfl (le_column_folded ['\\'] [' '])
    exact ⟨_, hb.escapedSpace.folded head?_slash_ne⟩
  · have hhead : (x :: rest).head? ≠ some ' ' := fun heq ↦ hsp (Option.some.inj heq)
    rw [doubleFold_of_ne hput hhead]
    obtain ⟨b, hb⟩ := h false [x] ((p.put held).folded indent) rfl (Nat.le_add_right _ _)
    have hraw : WritesDouble ((p.put held).folded indent) _ indent true [] (x :: _) (x :: b) :=
      WritesDouble.unescaped hx hb
    exact ⟨_, hraw.folded fun heq ↦ hsp (Option.some.inj heq)⟩

/-- An escape after which the line goes on. It has two characters at least, so with an indentation
beyond the width the line would have been folded. -/
theorem doubleRuns_escape_stay {held : List Char} {first : Bool}
    (h : IsDoubleWritten indent fold rest) (hp : p.fresh = false)
    (hcol : indent ≤ p.column + held.length)
    (hstay : fold = true → first = false → rest ≠ [] →
      ((p.put held).put (escapeOf x)).column ≤ lineWidth + 1) :
    ∃ b, WritesDouble p (doubleRuns indent fold false [] rest ((p.put held).put (escapeOf x)))
      indent fold held (heardDouble (fold && lineWidth ≤ indent) first (x :: rest)) b := by
  have htwo := two_le_length_escapeOf x
  have hcolumn : ((p.put held).put (escapeOf x)).column
      = p.column + held.length + (escapeOf x).length := rfl
  obtain ⟨b, hb⟩ := h false [] ((p.put held).put (escapeOf x)) hp
    (by rw [hcolumn, List.length_nil]; omega)
  rw [heardDouble_cons]
  · exact ⟨_, hb.escaped⟩
  · rintro ⟨hdeep, hfirst, -, hlen⟩
    simp only [Bool.and_eq_true, decide_eq_true_eq] at hdeep
    have hne : rest ≠ [] := List.ne_nil_of_length_pos (Nat.lt_of_lt_of_le Nat.zero_lt_two hlen)
    have hnarrow := hstay hdeep.1 hfirst hne
    rw [hcolumn] at hnarrow
    omega

/-- **The inside of double quotes.** -/
theorem isDoubleWritten (indent : Nat) (fold : Bool) (s : List Char) :
    IsDoubleWritten indent fold s := by
  -- By length, since a fold after an escape takes the space that follows along.
  induction hn : s.length using Nat.strong_induction_on generalizing s with
  | _ n ih =>
  subst hn
  intro first held p hp hcol
  cases s with
  | nil =>
    refine ⟨[], ?_, .nil, hp, fun _ ↦ rfl⟩
    rw [doubleRuns, List.append_nil]
    rfl
  | cons c rest =>
    have hrest : IsDoubleWritten indent fold rest := ih _ (Nat.lt_succ_self _) rest rfl
    rw [doubleRuns]
    dsimp only
    by_cases hc : isUnescaped c = true
    · rw [if_pos hc, heardDouble_cons_of_isUnescaped hc]
      split
      · next hfold =>
        obtain rfl : fold = true := by
          simp only [Bool.and_eq_true] at hfold
          exact hfold.1.1.2
        exact doubleRuns_fold_unescaped hrest hc hp
      · obtain ⟨b, hb⟩ := hrest false (held ++ [c]) p hp (by rw [List.length_append]; omega)
        exact ⟨_, hb.unescaped hc⟩
    · rw [if_neg hc]
      split
      · next hfold =>
        simp only [Bool.and_eq_true, Bool.not_eq_true', List.isEmpty_eq_false_iff] at hfold
        obtain ⟨⟨⟨rfl, hne⟩, rfl⟩, -⟩ := hfold
        obtain ⟨d, rest, rfl⟩ := List.exists_cons_of_ne_nil hne
        by_cases hd : d = ' '
        · subst hd
          have hlt : rest.length < (c :: ' ' :: rest).length :=
            Nat.lt_succ_of_lt (Nat.lt_succ_self _)
          exact doubleRuns_escape_space (ih _ hlt rest rfl) (Bool.eq_false_iff.mpr hc) hp
        · exact doubleRuns_escape_ne hrest hd hp
      · next hfold =>
        refine doubleRuns_escape_stay hrest hp hcol fun hf hfirst hne ↦ Nat.not_lt.mp fun hwide ↦ ?_
        exact hfold (by simp [hfirst, hne, hf, hwide])

/-! ## Single quotes -/

/-- The line breaks that are written for a run of them. -/
def writtenBreaks (cs : List Char) : List Char := if cs.head? = some '\n' then '\n' :: cs else cs

/-- What is heard of a run of line breaks between single quotes. -/
def heardBreaks (cs : List Char) : List Char :=
  match writtenBreaks cs with
  | [] => []
  | b :: bs => foldBreaks [heardBreak b] (bs.map heardBreak)

/-- What is heard of a run between single quotes. -/
def heardRun (r : RunKind × List Char) : List Char :=
  if r.1 = .breaks then heardBreaks r.2 else r.2

/-- What is heard of a text between single quotes: line breaks are folded again. -/
def heardSingle (s : List Char) : List Char := (runs s).flatMap heardRun

theorem heardSingle_append (hw : w ≠ []) (hk : ∀ x ∈ w, runKind x = k)
    (hrest : ∀ x ∈ rest.head?, runKind x ≠ k) :
    heardSingle (w ++ rest) = heardRun (k, w) ++ heardSingle rest := by
  rw [heardSingle, runs_append hw hk hrest, List.flatMap_cons, heardSingle]

/-- A text that single quotes can hold. -/
structure FitsSingle (s : List Char) : Prop where
  ordinary : ∀ x ∈ s, Style.isOrdinary x = true
  spaceBreak : Style.adjacent Style.isSpace Style.isBreak s = false
  breakSpace : Style.adjacent Style.isBreak Style.isSpace s = false

theorem fitsSingle_of_allowsSingle (h : Style.allowsSingle s = true) : FitsSingle s := by
  simp only [Style.allowsSingle, Style.needsEscapes, Style.hasIndentedLine, Bool.not_eq_true',
    Bool.or_eq_false_iff, Bool.not_eq_false', List.all_eq_true] at h
  exact ⟨h.1.1, h.1.2, h.2⟩

section Adjacent

variable {f g : Char → Bool}

theorem adjacent_cons {y : Char} :
    Style.adjacent f g (x :: y :: rest) = (f x && g y || Style.adjacent f g (y :: rest)) := rfl

theorem adjacent_append_right (h : Style.adjacent f g (w ++ rest) = false) :
    Style.adjacent f g rest = false := by
  induction w with
  | nil => exact h
  | cons x w ih =>
    refine ih ?_
    cases hw : w ++ rest with
    | nil => rfl
    | cons y r =>
      rw [List.cons_append, hw, adjacent_cons, Bool.or_eq_false_iff] at h
      exact h.2

/-- No pair stands where two parts meet. -/
theorem adjacent_append_meet (h : Style.adjacent f g (w ++ rest) = false) (hw : w ≠ [])
    (hf : ∀ x ∈ w, f x = true) : ∀ y ∈ rest.head?, g y = false := by
  intro y hy
  obtain ⟨w, x, rfl⟩ : ∃ w' x, w = w' ++ [x] :=
    ⟨_, _, (List.dropLast_concat_getLast hw).symm⟩
  obtain ⟨r, rfl⟩ : ∃ r, rest = y :: r := by
    cases rest with
    | nil => cases hy
    | cons z r => cases hy; exact ⟨r, rfl⟩
  rw [List.append_assoc] at h
  have hxy := adjacent_append_right h
  rw [List.singleton_append, adjacent_cons, Bool.or_eq_false_iff,
    hf x (List.mem_append_right w List.mem_cons_self), Bool.true_and] at hxy
  exact hxy.1

end Adjacent

theorem FitsSingle.append_right (h : FitsSingle (w ++ rest)) : FitsSingle rest :=
  ⟨fun x hx ↦ h.ordinary x (List.mem_append_right w hx), adjacent_append_right h.spaceBreak,
    adjacent_append_right h.breakSpace⟩

theorem endsWord_of_word (ho : Style.isOrdinary x = true) (hk : runKind x = .word) :
    endsWord x = false := by
  obtain ⟨hsp, hb⟩ := runKind_word hk
  have hne : ∀ y : Char, Style.isOrdinary y = false → x ≠ y := fun y hy heq ↦ by
    rw [heq, hy] at ho
    cases ho
  have h1 : x ≠ '\t' := hne _ (by decide)
  have h2 : x ≠ eos := hne _ (by decide)
  have h3 : x ≠ '\r' := hne _ (by decide)
  simp only [Style.isBreak, Bool.or_eq_false_iff, decide_eq_false_iff_not] at hb
  simp [endsWord, endsField, endsLine, isBreak, hsp, h1, h2, h3, hb]

theorem foldl_newLine (hw : w ≠ []) : w.foldl newLine p = ⟨p.out ++ w, 0, true, true⟩ := by
  induction w generalizing p with
  | nil => exact absurd rfl hw
  | cons b w ih =>
    cases w with
    | nil => rfl
    | cons b' w =>
      rw [List.foldl_cons, ih (List.cons_ne_nil _ _), newLine]
      simp only [List.append_assoc, List.singleton_append]

theorem singleBreaks_eq (hw : w ≠ []) : p.singleBreaks indent w
    = ⟨p.out ++ (writtenBreaks w ++ List.replicate indent ' '), indent, true, true⟩ := by
  rw [singleBreaks, writtenBreaks]
  split
  · rw [foldl_newLine hw, toColumn_of_newLine ⟨rfl, rfl, rfl⟩, newLine]
    simp
  · rw [foldl_newLine hw, toColumn_of_newLine ⟨rfl, rfl, rfl⟩]
    simp

private theorem singleRuns_spaces (first : Bool) (rs : List (RunKind × List Char)) :
    singleRuns indent fold first ((.spaces, List.replicate (n + 1) ' ') :: rs) p =
      if n = 0 ∧ (fold && lineWidth < p.column && !first && !rs.isEmpty) = true then
        singleRuns indent fold false rs (p.toColumn indent)
      else singleRuns indent fold false rs (p.put (List.replicate (n + 1) ' ')) := by
  cases n with
  | zero =>
    change singleRuns indent fold first ((.spaces, [' ']) :: rs) p = _
    rw [singleRuns]
    by_cases hc : (fold && lineWidth < p.column && !first && !rs.isEmpty) = true
    · rw [if_pos hc, if_pos ⟨rfl, hc⟩]
    · rw [if_neg hc, if_neg fun h ↦ hc h.2]
      rfl
  | succ n =>
    rw [if_neg fun h ↦ absurd h.1 (Nat.succ_ne_zero n)]
    rfl

private theorem singleBody_word (hw : ∀ x ∈ w, endsWord x = false) (h : SingleBody n s body) :
    SingleBody n (w ++ s) (doubleQuotes w ++ body) := by
  induction w with
  | nil => exact h
  | cons x w ih =>
    have hrest := ih fun y hy ↦ hw y (List.mem_cons_of_mem x hy)
    have hx := hw x List.mem_cons_self
    by_cases hq : x = '\x27'
    · rw [hq]
      exact .quote hrest
    · have hbody : doubleQuotes (x :: w) = x :: doubleQuotes w := by
        rw [doubleQuotes, List.flatMap_cons, if_neg hq]
        rfl
      rw [hbody]
      refine .char ?_ hrest
      by_cases h1 : x = '"'
      · exact .inr (.inl h1)
      · by_cases h2 : x = '\\'
        · exact .inr (.inr h2)
        · exact .inl (by simp [isQuotedChar, hq, h1, h2, hx])

theorem doubleQuotes_head (hw : w ≠ []) (h : ∀ x ∈ w, endsWord x = false) :
    ∃ x r, doubleQuotes w = x :: r ∧ endsWord x = false := by
  obtain ⟨x, w, rfl⟩ := List.exists_cons_of_ne_nil hw
  rw [doubleQuotes, List.flatMap_cons]
  by_cases hq : x = '\x27'
  · rw [if_pos hq]
    exact ⟨_, _, rfl, by decide⟩
  · rw [if_neg hq]
    exact ⟨_, _, rfl, h x List.mem_cons_self⟩

/-- What is true of the pen after the inside of single quotes. -/
structure WritesSingle (p q : Pen) (indent : Nat) (fold : Bool) (s b : List Char) : Prop where
  out : q.out = p.out ++ b
  body : SingleBody indent (heardSingle s) b
  solid : (∀ x ∈ s.head?, runKind x = .word) → Solid b
  column : fold = false → Style.isMultiline s = false → q.column = p.column + b.length

/-- A pen that can begin a new line before `s`. -/
def CanFold (indent : Nat) (s : List Char) (p : Pen) : Prop :=
  p.fresh = false ∨ indent ≤ p.column ∧ ∀ x ∈ s.head?, runKind x ≠ .word → indent < p.column

theorem writtenBreaks_eq (hw : w ≠ []) (hk : ∀ x ∈ w, Style.isBreak x = true) :
    ∃ b bs, writtenBreaks w = b :: bs ∧ Style.isBreak b = true ∧
      ∀ b ∈ bs, Style.isBreak b = true := by
  obtain ⟨x, w, rfl⟩ := List.exists_cons_of_ne_nil hw
  have hx := hk x List.mem_cons_self
  rw [writtenBreaks]
  split
  · exact ⟨_, _, rfl, by decide, hk⟩
  · exact ⟨_, _, rfl, hx, fun b hb ↦ hk b (List.mem_cons_of_mem x hb)⟩

/-- After blanks that single quotes can hold, a word follows, if anything does. -/
theorem FitsSingle.word_after_blanks (h : FitsSingle (w ++ rest)) (hw : w ≠ [])
    (hk : ∀ x ∈ w, runKind x = k) (hblank : k ≠ .word) (hrest : ∀ x ∈ rest.head?, runKind x ≠ k) :
    ∀ x ∈ rest.head?, runKind x = .word := by
  intro y hy
  have hne := hrest y hy
  cases k with
  | word => exact absurd rfl hblank
  | spaces =>
    have hb : Style.isBreak y = false := adjacent_append_meet h.spaceBreak hw
      (fun x hx ↦ by rw [runKind_spaces (hk x hx)]; rfl) y hy
    cases hkind : runKind y with
    | word => rfl
    | spaces => exact absurd hkind hne
    | breaks => rw [runKind_breaks hkind] at hb; cases hb
  | breaks =>
    have hsp : Style.isSpace y = false := adjacent_append_meet h.breakSpace hw
      (fun x hx ↦ runKind_breaks (hk x hx)) y hy
    cases hkind : runKind y with
    | word => rfl
    | spaces => rw [runKind_spaces hkind] at hsp; cases hsp
    | breaks => exact absurd hkind hne

theorem head?_append_of_ne_nil (hw : w ≠ []) : ∃ x, x ∈ w ∧ (w ++ rest).head? = some x := by
  obtain ⟨x, w, rfl⟩ := List.exists_cons_of_ne_nil hw
  exact ⟨x, List.mem_cons_self, rfl⟩

theorem isMultiline_append (h : Style.isMultiline (w ++ rest) = false) :
    Style.isMultiline rest = false := by
  rw [Style.isMultiline, List.any_append, Bool.or_eq_false_iff] at h
  exact h.2

namespace WritesSingle

theorem word (hw : w ≠ []) (hends : ∀ x ∈ w, endsWord x = false)
    (hheard : heardSingle (w ++ s) = w ++ heardSingle s)
    (h : WritesSingle (p.put (doubleQuotes w)) q indent fold s body) :
    WritesSingle p q indent fold (w ++ s) (doubleQuotes w ++ body) where
  out := by rw [h.out, put, List.append_assoc]
  body := by
    rw [hheard]
    exact singleBody_word hends h.body
  solid _ := by
    obtain ⟨y, r, hy, hyend⟩ := doubleQuotes_head hw hends
    rw [hy]
    intro z hz
    cases hz
    exact hyend
  column hf hm := by
    rw [h.column hf (isMultiline_append hm), put, List.length_append, Nat.add_assoc]

theorem not_word_spaces (h : ∀ x ∈ (List.replicate (n + 1) ' ' ++ s).head?, runKind x = .word) :
    False :=
  absurd (h ' ' rfl) (by decide)

theorem spaces (hword : ∀ x ∈ s.head?, runKind x = .word)
    (hheard : heardSingle (List.replicate (n + 1) ' ' ++ s)
      = List.replicate (n + 1) ' ' ++ heardSingle s)
    (h : WritesSingle (p.put (List.replicate (n + 1) ' ')) q indent fold s body) :
    WritesSingle p q indent fold (List.replicate (n + 1) ' ' ++ s)
      (List.replicate (n + 1) ' ' ++ body) where
  out := by rw [h.out, put, List.append_assoc]
  body := by
    rw [hheard]
    exact .spaces (h.solid hword) h.body
  solid h := (not_word_spaces h).elim
  column hf hm := by
    rw [h.column hf (isMultiline_append hm), put, List.length_append, Nat.add_assoc]

theorem folded (hword : ∀ x ∈ s.head?, runKind x = .word)
    (hheard : heardSingle (List.replicate 1 ' ' ++ s) = ' ' :: heardSingle s)
    (h : WritesSingle ⟨p.out ++ '\n' :: List.replicate indent ' ', indent, true, true⟩ q indent true
      s body) :
    WritesSingle p q indent true (List.replicate 1 ' ' ++ s)
      ('\n' :: (List.replicate indent ' ' ++ body)) where
  out := by rw [h.out, List.append_assoc, List.cons_append]
  body := by
    rw [hheard]
    exact .breaks (b := '\n') (by decide) (fun _ hb ↦ absurd hb List.not_mem_nil) (h.solid hword)
      h.body
  solid h := (not_word_spaces h).elim
  column hf := nomatch hf

theorem breaks (hw : w ≠ []) (hk : ∀ x ∈ w, runKind x = .breaks)
    (hword : ∀ x ∈ s.head?, runKind x = .word)
    (hheard : heardSingle (w ++ s) = heardRun (.breaks, w) ++ heardSingle s)
    (h : WritesSingle (p.singleBreaks indent w) q indent fold s body) :
    WritesSingle p q indent fold (w ++ s)
      (writtenBreaks w ++ (List.replicate indent ' ' ++ body)) where
  out := by rw [h.out, singleBreaks_eq hw, List.append_assoc, List.append_assoc]
  body := by
    obtain ⟨y, ys, hys, hy, hyb⟩ := writtenBreaks_eq hw fun x hx ↦ runKind_breaks (hk x hx)
    rw [hheard, heardRun, if_pos rfl, heardBreaks, hys]
    exact .breaks hy hyb (h.solid hword) h.body
  solid h := by
    obtain ⟨x, hx, hhead⟩ := head?_append_of_ne_nil hw
    exact nomatch (h x hhead).symm.trans (hk x hx)
  column _ hm := by
    obtain ⟨x, hx⟩ := List.exists_mem_of_ne_nil w hw
    rw [Style.isMultiline, List.any_eq_false] at hm
    exact absurd (runKind_breaks (hk x hx)) (hm x (List.mem_append_left s hx))

end WritesSingle

theorem CanFold.put (h : CanFold indent s p) (hword : ∀ x ∈ rest.head?, runKind x = .word)
    (cs : List Char) : CanFold indent rest (p.put cs) := by
  rcases h with h | ⟨hle, -⟩
  · exact .inl h
  · exact .inr ⟨Nat.le_trans hle (Nat.le_add_right _ _), fun x hx hne ↦ absurd (hword x hx) hne⟩

theorem CanFold.put_word (h : CanFold indent s p) (hw : w ≠ [])
    (hends : ∀ x ∈ w, endsWord x = false) : CanFold indent rest (p.put (doubleQuotes w)) := by
  rcases h with h | ⟨hle, -⟩
  · exact .inl h
  · obtain ⟨y, r, hy, -⟩ := doubleQuotes_head hw hends
    have hlt : indent < (p.put (doubleQuotes w)).column := by
      change indent < p.column + (doubleQuotes w).length
      rw [hy, List.length_cons]
      omega
    exact .inr ⟨Nat.le_of_lt hlt, fun _ _ _ ↦ hlt⟩

theorem canFold_newLine (hword : ∀ x ∈ rest.head?, runKind x = .word) {out : List Char} :
    CanFold indent rest ⟨out, indent, true, true⟩ :=
  .inr ⟨Nat.le_refl _, fun x hx hne ↦ absurd (hword x hx) hne⟩

/-- **The inside of single quotes.** -/
theorem singleRuns_writes (fold first : Bool) (hs : FitsSingle s) (hp : CanFold indent s p) :
    ∃ b, WritesSingle p (singleRuns indent fold first (runs s) p) indent fold s b := by
  -- Run by run: what is left after the first run is shorter.
  induction hn : s.length using Nat.strong_induction_on generalizing s first p with
  | _ n ih =>
  subst hn
  by_cases hnil : s = []
  · subst hnil
    exact ⟨[], (List.append_nil _).symm, .nil, fun _ _ hx ↦ (nomatch hx), fun _ _ ↦ rfl⟩
  obtain ⟨k, w, rest, rfl, hw, hk, hrest, hruns⟩ := exists_runs hnil
  have hlt : rest.length < (w ++ rest).length := by
    rw [List.length_append]
    exact Nat.lt_add_of_pos_left (List.length_pos_iff.mpr hw)
  have hfit := hs.append_right
  have hheard := heardSingle_append hw hk hrest
  rw [hruns]
  cases k with
  | word =>
    have hends : ∀ x ∈ w, endsWord x = false := fun x hx ↦
      endsWord_of_word (hs.ordinary x (List.mem_append_left rest hx)) (hk x hx)
    obtain ⟨b, hb⟩ := ih rest.length hlt false hfit (hp.put_word hw hends) rfl
    exact ⟨_, hb.word hw hends hheard⟩
  | spaces =>
    obtain ⟨n, rfl⟩ := eq_replicate_of_spaces hw hk
    have hword := hs.word_after_blanks hw hk (fun h ↦ nomatch h) hrest
    rw [singleRuns_spaces]
    split
    · next hcond =>
      obtain ⟨rfl, hcond⟩ := hcond
      obtain rfl : fold = true := by
        simp only [Bool.and_eq_true] at hcond
        exact hcond.1.1.1
      -- A fold at a space needs the pen beyond the indentation, where it is after any word.
      rw [toColumn_of_not_fresh (hp.imp_right fun h ↦ h.2 ' ' rfl (by decide))]
      obtain ⟨b, hb⟩ := ih rest.length hlt false hfit (canFold_newLine hword) rfl
      exact ⟨_, hb.folded hword hheard⟩
    · obtain ⟨b, hb⟩ := ih rest.length hlt false hfit (hp.put hword _) rfl
      exact ⟨_, hb.spaces hword hheard⟩
  | breaks =>
    have hword := hs.word_after_blanks hw hk (fun h ↦ nomatch h) hrest
    have hfold : CanFold indent rest (p.singleBreaks indent w) := by
      rw [singleBreaks_eq hw]
      exact canFold_newLine hword
    obtain ⟨b, hb⟩ := ih rest.length hlt false hfit hfold rfl
    exact ⟨_, hb.breaks hw hk hword hheard⟩

/-! ## Plain scalars -/

/-- A text that can be written without quotes. -/
structure FitsPlain (s : List Char) : Prop where
  ordinary : ∀ x ∈ s, Style.isOrdinary x = true ∧ Style.isBreak x = false
  first : ∀ x ∈ s.head?, x ≠ ' ' ∧ x ≠ '#'
  last : ∀ x ∈ s.getLast?, x ≠ ' '
  colon : ∀ a b, s = a ++ ':' :: b → Style.atBlank b = false
  hash : ∀ a b, s ≠ a ++ ' ' :: '#' :: b

private theorem atBlank_of_innerIndicator {previous : Char}
    (h : Style.innerIndicator previous (w ++ ':' :: rest) = false) :
    Style.atBlank rest = false := by
  induction w generalizing previous with
  | nil =>
    rw [List.nil_append, Style.innerIndicator, Bool.or_eq_false_iff, Bool.or_eq_false_iff] at h
    exact h.1.1
  | cons x w ih =>
    rw [List.cons_append, Style.innerIndicator, Bool.or_eq_false_iff] at h
    exact ih h.2

private theorem innerIndicator_hash {previous : Char} :
    Style.innerIndicator previous (w ++ ' ' :: '#' :: rest) = true := by
  induction w generalizing previous with
  | nil =>
    have hblank : endsWord ' ' = true := by decide
    simp [Style.innerIndicator, hblank]
  | cons x w ih => rw [List.cons_append, Style.innerIndicator, ih, Bool.or_true]

theorem fitsPlain_of_allowsPlain (hs : s ≠ []) (h : Style.allowsPlain s = true) : FitsPlain s := by
  obtain ⟨c, rest, rfl⟩ := List.exists_cons_of_ne_nil hs
  simp only [Style.allowsPlain, Style.needsEscapes, Style.hasIndentedLine, Style.hasOuterBlank,
    Style.isMultiline, Style.hasIndicator, Bool.not_eq_true', Bool.or_eq_false_iff,
    Bool.not_eq_false', List.all_eq_true, List.any_eq_false, List.head?_cons, Option.map_some,
    Option.getD_some] at h
  obtain ⟨⟨⟨⟨⟨hord, -⟩, -⟩, hfirst, hlast⟩, hbreak⟩, ⟨⟨-, -⟩, hopen⟩, hinner⟩ := h
  have hsp : c ≠ ' ' := fun heq ↦ by
    rw [heq] at hfirst
    cases hfirst
  rw [Style.opensIndicator, Bool.or_eq_false_iff] at hopen
  constructor
  · exact fun x hx ↦ ⟨hord x hx, Bool.eq_false_iff.mpr (hbreak x hx)⟩
  · intro x hx
    cases hx
    refine ⟨hsp, fun heq ↦ ?_⟩
    rw [heq] at hopen
    cases hopen.1
  · intro x hx heq
    rw [Option.mem_def.mp hx, heq] at hlast
    cases hlast
  · intro a b hab
    cases a with
    | nil =>
      cases hab
      have := hopen.2
      simpa using this
    | cons y a =>
      obtain ⟨rfl, rfl⟩ := List.cons.inj (hab.trans List.cons_append)
      exact atBlank_of_innerIndicator hinner
  · intro a b hab
    cases a with
    | nil => cases hab; exact hsp rfl
    | cons y a =>
      obtain ⟨rfl, rfl⟩ := List.cons.inj (hab.trans List.cons_append)
      rw [innerIndicator_hash] at hinner
      cases hinner

theorem FitsPlain.isWord (h : FitsPlain (w ++ rest)) (hw : w ≠ []) (hk : ∀ x ∈ w, runKind x = .word)
    (hrest : Style.atBlank rest = true) : IsWord w := by
  refine ⟨hw, fun x hx ↦ ?_, fun hlast ↦ ?_⟩
  · exact endsWord_of_word (h.ordinary x (List.mem_append_left rest hx)).1 (hk x hx)
  · have hsplit : w = w.dropLast ++ [':'] := by
      have hlast' := List.getLast?_eq_some_getLast hw
      rw [hlast] at hlast'
      rw [Option.some.inj hlast', List.dropLast_concat_getLast]
    have := h.colon w.dropLast rest (by
      rw [hsplit, List.append_assoc, ← hsplit]
      rfl)
    rw [hrest] at this
    cases this

theorem FitsPlain.after_spaces (h : FitsPlain (w ++ (List.replicate (n + 1) ' ' ++ rest)))
    (hrest : ∀ x ∈ rest.head?, runKind x ≠ .spaces) : rest ≠ [] ∧ FitsPlain rest := by
  have hsplit : w ++ (List.replicate (n + 1) ' ' ++ rest)
      = (w ++ List.replicate n ' ') ++ ' ' :: rest := by
    rw [List.replicate_succ', List.append_assoc, List.append_assoc]
    rfl
  rw [hsplit] at h
  -- The spaces are not the end of the scalar, and no hash may stand behind them.
  have hne : rest ≠ [] := by
    rintro rfl
    exact h.last ' ' (by simp) rfl
  refine ⟨hne, fun x hx ↦ h.ordinary x ?_, fun x hx ↦ ⟨fun heq ↦ ?_, fun heq ↦ ?_⟩,
    fun x hx ↦ h.last x ?_, fun a b hab ↦ ?_, fun a b hab ↦ ?_⟩
  · exact List.mem_append_right _ (List.mem_cons_of_mem _ hx)
  · exact hrest x hx (by rw [heq]; rfl)
  · obtain ⟨y, r, rfl⟩ := List.exists_cons_of_ne_nil hne
    cases hx
    exact h.hash (w ++ List.replicate n ' ') r (by rw [heq])
  · obtain ⟨y, r, rfl⟩ := List.exists_cons_of_ne_nil hne
    rw [List.getLast?_append, List.getLast?_cons_cons, Option.mem_def.mp hx]
    rfl
  · refine h.colon (w ++ List.replicate n ' ' ++ ' ' :: a) b ?_
    simp only [hab, List.append_assoc, List.cons_append]
  · refine h.hash (w ++ List.replicate n ' ' ++ ' ' :: a) b ?_
    simp only [hab, List.append_assoc, List.cons_append]

/-- What is true of the pen after a plain scalar. -/
structure WritesPlain (p q : Pen) (indent : Nat) (fold : Bool) (s b : List Char) : Prop where
  out : q.out = p.out ++ b
  body : PlainBody indent s b
  fresh : q.fresh = false
  column : fold = false → q.column = p.column + b.length

private theorem plainRuns_spaces (rs : List (RunKind × List Char)) :
    plainRuns indent fold ((.spaces, List.replicate (n + 1) ' ') :: rs) p =
      if n = 0 ∧ (fold && lineWidth < p.column) = true then
        plainRuns indent fold rs { p.toColumn indent with spaced := false, fresh := false }
      else plainRuns indent fold rs (p.put (List.replicate (n + 1) ' ')) := by
  cases n with
  | zero =>
    change plainRuns indent fold ((.spaces, [' ']) :: rs) p = _
    rw [plainRuns]
    by_cases hc : (fold && lineWidth < p.column) = true
    · rw [if_pos hc, if_pos ⟨rfl, hc⟩]
    · rw [if_neg hc, if_neg fun h ↦ hc h.2]
      rfl
  | succ n =>
    rw [if_neg fun h ↦ absurd h.1 (Nat.succ_ne_zero n)]
    rfl

namespace WritesPlain

theorem spaces (hw : IsWord w) (hhash : s.head? ≠ some '#')
    (h : WritesPlain ((p.put w).put (List.replicate (n + 1) ' ')) q indent fold s body) :
    WritesPlain p q indent fold (w ++ (List.replicate (n + 1) ' ' ++ s))
      (w ++ (List.replicate (n + 1) ' ' ++ body)) where
  out := by
    rw [h.out]
    simp only [put, List.append_assoc]
  body := .spaces hw (by rw [h.body.head?_eq]; exact hhash) h.body
  fresh := h.fresh
  column hf := by
    rw [h.column hf]
    simp only [put, List.length_append, Nat.add_assoc]

theorem folded (hw : IsWord w) (hhash : s.head? ≠ some '#')
    (h : WritesPlain ⟨(p.put w).out ++ '\n' :: List.replicate indent ' ', indent, false, false⟩ q
      indent true s body) :
    WritesPlain p q indent true (w ++ (List.replicate 1 ' ' ++ s))
      (w ++ '\n' :: (List.replicate indent ' ' ++ body)) where
  out := by
    rw [h.out]
    simp [put]
  body := .fold hw (by rw [h.body.head?_eq]; exact hhash) h.body
  fresh := h.fresh
  column hf := nomatch hf

end WritesPlain

theorem FitsPlain.exists_word (h : FitsPlain s) (hs : s ≠ []) : ∃ w rest, s = w ++ rest ∧ w ≠ [] ∧
    (∀ x ∈ w, runKind x = .word) ∧ (∀ x ∈ rest.head?, runKind x ≠ .word) ∧
    runs s = (.word, w) :: runs rest := by
  obtain ⟨k, w, rest, rfl, hw, hk, hrest, hruns⟩ := exists_runs hs
  obtain ⟨x, hxw, hhead⟩ : ∃ x, x ∈ w ∧ (w ++ rest).head? = some x := head?_append_of_ne_nil hw
  have hword : k = .word := by
    have hne := (h.first x hhead).1
    have hb := (h.ordinary x (List.mem_append_left rest hxw)).2
    rw [← hk x hxw, runKind, if_neg hne, hb, if_neg Bool.false_ne_true]
  subst hword
  exact ⟨w, rest, rfl, hw, hk, hrest, hruns⟩

theorem FitsPlain.exists_spaces (h : FitsPlain (w ++ rest)) (hne : rest ≠ [])
    (hrest : ∀ x ∈ rest.head?, runKind x ≠ .word) :
    ∃ n rest', rest = List.replicate (n + 1) ' ' ++ rest' ∧
      (∀ x ∈ rest'.head?, runKind x ≠ .spaces) ∧
      runs rest = (.spaces, List.replicate (n + 1) ' ') :: runs rest' := by
  obtain ⟨k, g, rest', rfl, hg, hkg, hrest', hruns⟩ := exists_runs hne
  obtain ⟨y, hyg, hyhead⟩ : ∃ x, x ∈ g ∧ (g ++ rest').head? = some x := head?_append_of_ne_nil hg
  have hspaces : k = .spaces := by
    have hy := hkg y hyg
    have hb := (h.ordinary y (List.mem_append_right w (List.mem_append_left rest' hyg))).2
    have hne := hrest y hyhead
    rw [hy] at hne
    cases k with
    | word => exact absurd rfl hne
    | spaces => rfl
    | breaks => rw [runKind_breaks hy] at hb; cases hb
  subst hspaces
  obtain ⟨n, rfl⟩ := eq_replicate_of_spaces hg hkg
  exact ⟨n, rest', rfl, hrest', hruns⟩

/-- **A plain scalar.** -/
theorem plainRuns_writes (fold : Bool) (hs : s ≠ []) (h : FitsPlain s) (hp : p.fresh = false) :
    ∃ b, WritesPlain p (plainRuns indent fold (runs s) p) indent fold s b := by
  -- A word and the spaces after it at a time, which leave a shorter scalar.
  induction hn : s.length using Nat.strong_induction_on generalizing s p with
  | _ n ih =>
  subst hn
  obtain ⟨w, rest, rfl, hw, hk, hrest, hruns⟩ := h.exists_word hs
  have hput : plainRuns indent fold ((.word, w) :: runs rest) p
      = plainRuns indent fold (runs rest) (p.put w) := rfl
  rw [hruns, hput]
  by_cases hnil : rest = []
  · subst hnil
    refine ⟨w, rfl, ?_, hp, fun _ ↦ rfl⟩
    rw [List.append_nil]
    exact .word (h.isWord hw hk rfl)
  obtain ⟨m, rest, rfl, hrest', hruns'⟩ := h.exists_spaces hnil hrest
  obtain ⟨hne, hfit⟩ := h.after_spaces hrest'
  have hisWord : IsWord w := h.isWord hw hk rfl
  have hlt : rest.length < (w ++ (List.replicate (m + 1) ' ' ++ rest)).length := by
    rw [List.length_append, List.length_append, List.length_replicate]
    omega
  have hhash : rest.head? ≠ some '#' := fun heq ↦ (hfit.first '#' heq).2 rfl
  rw [hruns', plainRuns_spaces]
  split
  · next hcond =>
    obtain ⟨rfl, hcond⟩ := hcond
    obtain rfl : fold = true := by
      rw [Bool.and_eq_true] at hcond
      exact hcond.1
    have hfresh : (p.put w).fresh = false := hp
    rw [toColumn_of_not_fresh (.inl hfresh)]
    obtain ⟨b, hb⟩ := ih rest.length hlt (p := ⟨_, _, _, _⟩) hne hfit rfl rfl
    exact ⟨_, hb.folded hisWord hhash⟩
  · obtain ⟨b, hb⟩ := ih rest.length hlt (p := (p.put w).put _) hne hfit hp rfl
    exact ⟨_, hb.spaces hisWord hhash⟩

end Pen

end GatewayPrint.Yaml
