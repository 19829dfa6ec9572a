import GatewayPrint.Json.Reader
import GatewayPrint.Json.Writer
import GatewayPrint.Proofs.Json.Strings
import GatewayPrint.Proofs.Numerals
import GatewayPrint.Proofs.Printable

/-!
# Reading what was written

The text of plain data is read as these data, up to the halves of characters in their texts
(`heard`), whatever follows it as long as that does not prolong a number. The relation `Written`
says this of one value together with what the text looks like: it is in printable ASCII apart from
line feeds, and inside a container every line feed is followed by a space. It is proved along the
data. For the elements after the first one, and the entries after the first one, it is carried by
lists of such texts (`WrittenItems`, `WrittenEntries`).

What is heard of data is the data themselves when their texts keep halves apart (`heard_eq_iff`).
Otherwise a text comes back shorter, and keys that differed may come back as one.
-/

namespace GatewayPrint.Json

open Outcome

variable {v x : Value} {xs : List Value} {es : List (Value × Value)} {w t rest s : List Char}
  {c : Char} {depth fuel k : Nat} {n : Int}

/-! ## What is heard of data -/

mutual

/-- What is read of a value: its texts are read as what their units are joined to. -/
def heard : Value → Value
  | .text s => .text (joined s)
  | .list xs => .list (heardItems xs)
  | .map es => Value.mapOf (heardEntries es)
  | v => v

/-- What is read of values in turn. -/
def heardItems : List Value → List Value
  | [] => []
  | x :: xs => heard x :: heardItems xs

/-- What is read of entries in turn. -/
def heardEntries : List (Value × Value) → List (Value × Value)
  | [] => []
  | (k, v) :: es => (heard k, heard v) :: heardEntries es

end

theorem heardItems_eq_iff : heardItems xs = xs ↔ ∀ x ∈ xs, heard x = x := by
  induction xs with
  | nil => exact iff_of_true rfl fun x hx ↦ absurd hx List.not_mem_nil
  | cons x xs ih => rw [heardItems, List.cons.injEq, ih, List.forall_mem_cons]

theorem heardEntries_eq_iff :
    heardEntries es = es ↔ ∀ e ∈ es, heard e.1 = e.1 ∧ heard e.2 = e.2 := by
  induction es with
  | nil => exact iff_of_true rfl fun e he ↦ absurd he List.not_mem_nil
  | cons e es ih =>
    obtain ⟨k, v⟩ := e
    rw [heardEntries, List.cons.injEq, Prod.mk.injEq, ih, List.forall_mem_cons]

private theorem length_heardEntries (es : List (Value × Value)) :
    (heardEntries es).length = es.length := by
  induction es with
  | nil => rfl
  | cons e es ih =>
    obtain ⟨k, v⟩ := e
    rw [heardEntries, List.length_cons, List.length_cons, ih]

/-- **Plain data** are heard as they are when their texts keep halves apart, and only then. -/
theorem heard_eq_iff (h : Printable v) : heard v = v ↔ PrintableWith HalvesApart v := by
  constructor
  · intro heq
    induction h with
    | null => exact .null
    | bool b => exact .bool b
    | int h => exact .int h
    | text _ =>
      rw [heard, Value.text.injEq] at heq
      exact .text (joined_eq_iff.mp heq)
    | list _ ih =>
      rw [heard, Value.list.injEq] at heq
      exact .list fun x hx ↦ ih x hx (heardItems_eq_iff.mp heq x hx)
    | @map es hkeys hnodup _ ih =>
      rw [heard, Value.mapOf, Value.map.injEq] at heq
      -- No two keys have become one, or there would be fewer entries.
      have hheard : heardEntries es = es := by
        rcases Value.collect_cases (heardEntries es) with hall | hfewer
        · exact hall.symm.trans heq
        · rw [heq, length_heardEntries] at hfewer
          exact absurd hfewer (Nat.lt_irrefl _)
      have hes := heardEntries_eq_iff.mp hheard
      refine .map (fun e he ↦ ?_) hnodup fun e he ↦ ih e he (hes e he).2
      obtain ⟨s, -, hs⟩ := hkeys e he
      have hkey := (hes e he).1
      rw [hs, heard, Value.text.injEq] at hkey
      exact ⟨s, joined_eq_iff.mp hkey, hs⟩
  · intro hapart
    clear h
    induction hapart with
    | null | bool | int => rfl
    | text hs => rw [heard, joined_eq_iff.mpr hs]
    | list _ ih => rw [heard, heardItems_eq_iff.mpr ih]
    | @map es hkeys hnodup _ ih =>
      have hheard : heardEntries es = es := by
        refine heardEntries_eq_iff.mpr fun e he ↦ ⟨?_, ih e he⟩
        obtain ⟨s, hs, hk⟩ := hkeys e he
        rw [hk, heard, joined_eq_iff.mpr hs]
      rw [heard, hheard, Value.mapOf, Value.collect_eq (textKeys_of_keys hkeys) hnodup]

/-! ## What a text looks like -/

/-- What may follow a value: nothing that prolongs a number. -/
def Ends (rest : List Char) : Prop := ∀ c ∈ rest.head?, isNumeral c = false

/-- A printable character of ASCII, or a line feed. -/
def isLineAscii (c : Char) : Bool := c == '\n' || isPlainAscii c

/-- Every line feed is followed by a space. -/
def Indented : List Char → Prop
  | [] => True
  | c :: rest => (c = '\n' → rest.head? = some ' ') ∧ Indented rest

theorem indented_append (hw : Indented w) (ht : Indented t) : Indented (w ++ t) := by
  induction w with
  | nil => exact ht
  | cons c w ih =>
    refine ⟨fun hc ↦ ?_, ih hw.2⟩
    change (w ++ t).head? = some ' '
    rw [List.head?_append, hw.1 hc]
    rfl

theorem indented_of_forall (h : ∀ c ∈ w, c ≠ '\n') : Indented w := by
  induction w with
  | nil => trivial
  | cons c w ih =>
    exact ⟨fun hc ↦ absurd hc (h c List.mem_cons_self),
      ih fun d hd ↦ h d (List.mem_cons_of_mem c hd)⟩

theorem indented_newLine (h : 0 < depth) : Indented (newLine depth) := by
  refine ⟨fun _ ↦ ?_, indented_of_forall fun c hc ↦ ?_⟩
  · rw [List.head?_replicate, if_neg (by omega)]
  · rw [List.eq_of_mem_replicate hc]
    decide

theorem isLineAscii_of_mem_newLine (h : c ∈ newLine depth) : isLineAscii c = true := by
  rcases List.mem_cons.mp h with rfl | h
  · rfl
  · rw [List.eq_of_mem_replicate h]
    rfl

theorem isLineAscii_of_isPlainAscii (h : isPlainAscii c = true) : isLineAscii c = true := by
  rw [isLineAscii, h, Bool.or_true]

theorem ne_lineFeed_of_isPlainAscii (h : isPlainAscii c = true) : c ≠ '\n' := by
  rintro rfl
  exact absurd h (by decide)

theorem skipSpace_newLine (hw : w = c :: t) (hc : isSpace c = false) :
    skipSpace (newLine depth ++ w) = w := by
  rw [skipSpace, newLine, List.cons_append, List.dropWhile_cons_of_pos (by decide),
    List.dropWhile_append_of_pos fun d hd ↦ by rw [List.eq_of_mem_replicate hd]; rfl, hw,
    List.dropWhile_cons_of_neg (by rw [hc]; exact Bool.false_ne_true)]

theorem skipSpace_cons (hc : isSpace c = false) : skipSpace (c :: t) = c :: t :=
  List.dropWhile_cons_of_neg (by rw [hc]; exact Bool.false_ne_true)

theorem ends_cons (h : isNumeral c = false) : Ends (c :: rest) := by
  intro d hd
  cases hd
  exact h

/-- The text of a value at a level of indentation. -/
structure Written (depth : Nat) (v : Value) (w : List Char) : Prop where
  writes : writeAt depth v = .ok w
  opens : ∃ c t, w = c :: t ∧ isSpace c = false ∧ c ≠ ']' ∧ c ≠ '\x7d'
  ascii : ∀ c ∈ w, isLineAscii c = true
  indented : 0 < depth → Indented w
  reads : ∀ fuel rest, Ends rest → w.length < fuel →
    readValue? fuel (w ++ rest) = some (heard v, rest)

theorem Written.skipSpace_eq (h : Written depth v w) : skipSpace (w ++ rest) = w ++ rest := by
  obtain ⟨c, t, rfl, hc, -⟩ := h.opens
  exact skipSpace_cons hc

theorem Written.skipSpace_newLine (h : Written depth v w) :
    skipSpace (newLine k ++ (w ++ rest)) = w ++ rest := by
  obtain ⟨c, t, rfl, hc, -⟩ := h.opens
  exact Json.skipSpace_newLine rfl hc

/-! ## Scalars -/

private theorem readValue?_scalar (h : w = c :: t)
    (hlist : c ≠ '[') (hmap : c ≠ '\x7b') (hf : 0 < fuel) :
    readValue? fuel (w ++ rest) = readScalar? (w ++ rest) := by
  obtain ⟨fuel, rfl⟩ := Nat.exists_eq_succ_of_ne_zero (Nat.pos_iff_ne_zero.mp hf)
  rw [h, List.cons_append, readValue?]
  · exact fun _ h ↦ hlist (List.cons.inj h).1
  · exact fun _ h ↦ hmap (List.cons.inj h).1

theorem written_scalar (hw : writeAt depth v = .ok w) (hopen : w = c :: t)
    (hspace : isSpace c = false)
    (hlist : c ≠ '[' ∧ c ≠ ']') (hmap : c ≠ '\x7b' ∧ c ≠ '\x7d')
    (hascii : ∀ d ∈ w, isPlainAscii d = true)
    (hread : ∀ rest, Ends rest → readScalar? (w ++ rest) = some (heard v, rest)) :
    Written depth v w where
  writes := hw
  opens := ⟨c, t, hopen, hspace, hlist.2, hmap.2⟩
  ascii := fun d hd ↦ isLineAscii_of_isPlainAscii (hascii d hd)
  indented := fun _ ↦ indented_of_forall fun d hd ↦ ne_lineFeed_of_isPlainAscii (hascii d hd)
  reads := by
    intro fuel rest hrest hf
    rw [readValue?_scalar hopen hlist.1 hmap.1 (by omega), hread rest hrest]

private theorem written_null (depth : Nat) : Written depth .null "null".toList :=
  written_scalar rfl rfl rfl (by decide) (by decide) (List.all_eq_true.mp rfl) fun _ _ ↦ rfl

private theorem written_bool (depth : Nat) (b : Bool) :
    Written depth (.bool b) (if b then "true".toList else "false".toList) := by
  cases b with
  | true =>
    exact written_scalar rfl rfl rfl (by decide) (by decide) (List.all_eq_true.mp rfl) fun _ _ ↦ rfl
  | false =>
    exact written_scalar rfl rfl rfl (by decide) (by decide) (List.all_eq_true.mp rfl) fun _ _ ↦ rfl

private theorem written_text (depth : Nat) (s : String) :
    Written depth (.text s) (escape s.toList) := by
  refine written_scalar rfl rfl rfl (by decide) (by decide)
    (fun d hd ↦ isPlainAscii_of_mem_escape hd) fun rest _ ↦ ?_
  rw [readScalar?, readString?_escape]
  rfl

/-! ## Numbers -/

theorem readWord?_of_ne {word : List Char} {d : Char} (h : d ≠ c) :
    readWord? (d :: word) (c :: t) = none := by
  rw [readWord?, if_neg]
  rw [List.isPrefixOf, beq_eq_false_iff_ne.mpr h, Bool.false_and]
  exact Bool.false_ne_true

theorem readWord?_cons {word : List Char} : readWord? (c :: word) (c :: t) = readWord? word t := by
  simp only [readWord?, List.isPrefixOf, beq_self_eq_true, Bool.true_and, List.length_cons,
    List.drop_succ_cons]

theorem isNumeral_of_isDigit (h : c.isDigit = true) : isNumeral c = true := by
  rw [isNumeral, h]
  rfl

private theorem numeral?_digits (h : IsNumeral s) : numeral? s = some (.int (digitsValue s)) := by
  obtain ⟨c, t, rfl⟩ := List.exists_cons_of_ne_nil h.ne_nil
  have hc : c ≠ '-' := by
    rintro rfl
    exact absurd (h.digits _ List.mem_cons_self) (by decide)
  rw [numeral?]
  · rw [List.isEmpty_cons, if_neg Bool.false_ne_true,
      if_pos (List.all_eq_true.mpr h.digits), if_neg Bool.false_ne_true]
  · exact fun _ h ↦ hc (List.cons.inj h).1

private theorem numeral?_negative (h : IsNumeral s) :
    numeral? ('-' :: s) = some (.int (-(digitsValue s : Int))) := by
  have hempty : ¬s.isEmpty = true := fun hs ↦ h.ne_nil (List.isEmpty_iff.mp hs)
  rw [numeral?, if_neg hempty, if_pos (List.all_eq_true.mpr h.digits), if_pos rfl]

/-- A run of numeral characters goes as far as the number does. -/
theorem span_numeral (hs : ∀ d ∈ s, isNumeral d = true) (hrest : Ends rest) :
    (s ++ rest).takeWhile isNumeral = s ∧ (s ++ rest).dropWhile isNumeral = rest := by
  rw [List.takeWhile_append_of_pos hs, List.dropWhile_append_of_pos hs]
  cases rest with
  | nil => exact ⟨List.append_nil s, rfl⟩
  | cons r rest =>
    have hr : ¬isNumeral r = true := by
      rw [hrest r rfl]
      exact Bool.false_ne_true
    rw [List.takeWhile_cons_of_neg hr, List.dropWhile_cons_of_neg hr, List.append_nil]
    exact ⟨rfl, rfl⟩

/-- A text that opens like a number: with a digit, or with a minus before a digit. -/
def OpensNumber (s : List Char) : Prop :=
  ∃ c t, s = c :: t ∧ (c.isDigit = true ∨ c = '-' ∧ ∃ d u, t = d :: u ∧ d.isDigit = true)

/-- Neither a string nor a word begins like a number, apart from the negative infinity. -/
theorem OpensNumber.head_ne (h : OpensNumber s) {x : Char} (hx : x.isDigit = false)
    (hminus : x ≠ '-') : ∀ t, s ≠ x :: t := by
  obtain ⟨c, t, rfl, hc⟩ := h
  rintro _ ⟨rfl, rfl⟩
  rcases hc with hc | ⟨hc, -⟩
  · rw [hx] at hc
    cases hc
  · exact hminus hc

theorem OpensNumber.readWord?_eq_none (h : OpensNumber s) {x : Char} (word : List Char)
    (hx : x.isDigit = false) (hminus : x ≠ '-') : readWord? (x :: word) s = none := by
  have hne := h.head_ne hx hminus
  obtain ⟨c, t, rfl, -⟩ := h
  refine readWord?_of_ne ?_
  rintro rfl
  exact hne t rfl

theorem OpensNumber.readWord?_infinity (h : OpensNumber s) :
    readWord? "-Infinity".toList s = none := by
  obtain ⟨c, t, rfl, hc | ⟨rfl, d, u, rfl, hd⟩⟩ := h
  · refine readWord?_of_ne ?_
    rintro rfl
    exact absurd hc (by decide)
  · refine readWord?_cons.trans (readWord?_of_ne ?_)
    rintro rfl
    exact absurd hd (by decide)

theorem OpensNumber.append (h : OpensNumber s) (rest : List Char) : OpensNumber (s ++ rest) := by
  obtain ⟨c, t, rfl, hc⟩ := h
  refine ⟨c, t ++ rest, rfl, hc.imp_right fun ⟨hminus, d, u, ht, hd⟩ ↦ ?_⟩
  exact ⟨hminus, d, u ++ rest, by rw [ht, List.cons_append], hd⟩

/-- A run of numeral characters that opens like a number is read as the number. -/
theorem readScalar?_numeral (hopen : OpensNumber s) (hs : ∀ d ∈ s, isNumeral d = true)
    (hv : numeral? s = some v) (hrest : Ends rest) :
    readScalar? (s ++ rest) = some (v, rest) := by
  have hopen := hopen.append rest
  obtain ⟨htake, hdrop⟩ := span_numeral hs hrest
  have hstring : readString? (s ++ rest) = none := by
    rw [readString?]
    exact hopen.head_ne (by decide) (by decide)
  have hword : ∀ (x : Char) (word : List Char), x.isDigit = false → x ≠ '-' →
      readWord? (x :: word) (s ++ rest) = none := fun x word ↦ hopen.readWord?_eq_none word
  have hnull : readWord? "null".toList (s ++ rest) = none := hword 'n' _ (by decide) (by decide)
  have htrue : readWord? "true".toList (s ++ rest) = none := hword 't' _ (by decide) (by decide)
  have hfalse : readWord? "false".toList (s ++ rest) = none := hword 'f' _ (by decide) (by decide)
  have hnan : readWord? "NaN".toList (s ++ rest) = none := hword 'N' _ (by decide) (by decide)
  have hinf : readWord? "Infinity".toList (s ++ rest) = none := hword 'I' _ (by decide) (by decide)
  rw [readScalar?, hstring, hnull, htrue, hfalse, hnan, hinf, hopen.readWord?_infinity, htake,
    hdrop, hv]
  rfl

theorem isPlainAscii_of_isDigit (h : c.isDigit = true) : isPlainAscii c = true :=
  forall_isDigit (p := fun c ↦ isPlainAscii c = true) (by decide) h

/-- **A whole number** is read back. -/
theorem written_int (depth : Nat) {n : Int} (h : (intText? n).isSome = true) :
    Written depth (.int n) (intText n).toList := by
  obtain ⟨ds, hds, hvalue, hsign, -⟩ := toList_intText n
  have hwrites : writeAt depth (.int n) = .ok (intText n).toList := by
    rw [writeAt, writeScalar, intText?_eq h]
    all_goals exact nofun
  obtain ⟨c, t, hopen⟩ := List.exists_cons_of_ne_nil hds.ne_nil
  have hc : c.isDigit = true := hds.digits c (hopen ▸ List.mem_cons_self)
  rcases hsign with ⟨hn, hpos⟩ | ⟨hn, hneg⟩
  · rw [hn] at hwrites ⊢
    have hbody : numeral? ds = some (.int n) := by
      rw [numeral?_digits hds, hvalue, Int.natAbs_of_nonneg hpos]
    refine written_scalar hwrites hopen ?_ ?_ ?_
      (fun d hd ↦ isPlainAscii_of_isDigit (hds.digits d hd))
      fun rest hrest ↦ readScalar?_numeral ⟨c, t, hopen, .inl hc⟩
        (fun d hd ↦ isNumeral_of_isDigit (hds.digits d hd)) hbody hrest
    · exact forall_isDigit (p := fun c ↦ isSpace c = false) (by decide) hc
    · exact forall_isDigit (p := fun c ↦ c ≠ '[' ∧ c ≠ ']') (by decide) hc
    · exact forall_isDigit (p := fun c ↦ c ≠ '\x7b' ∧ c ≠ '\x7d') (by decide) hc
  · rw [hn] at hwrites ⊢
    have hbody : numeral? ('-' :: ds) = some (.int n) := by
      rw [numeral?_negative hds, hvalue]
      congr 2
      omega
    refine written_scalar hwrites rfl rfl (by decide) (by decide)
      (List.forall_mem_cons.mpr ⟨by decide, fun d hd ↦ isPlainAscii_of_isDigit (hds.digits d hd)⟩)
      fun rest hrest ↦ readScalar?_numeral ⟨'-', ds, rfl, .inr ⟨rfl, c, t, hopen, hc⟩⟩
        (List.forall_mem_cons.mpr ⟨rfl, fun d hd ↦ isNumeral_of_isDigit (hds.digits d hd)⟩)
        hbody hrest

/-! ## Lists -/

private theorem readItems?_last (hx : readValue? fuel (skipSpace s) = some (x, t))
    (ht : skipSpace t = ']' :: rest) : readItems? (fuel + 1) s = some ([x], rest) := by
  rw [readItems?, hx]
  simp only [Option.bind_eq_bind, Option.bind_some, ht]

theorem readItems?_cons (hx : readValue? fuel (skipSpace s) = some (x, t))
    (ht : skipSpace t = ',' :: w) (hxs : readItems? fuel w = some (xs, rest)) :
    readItems? (fuel + 1) s = some (x :: xs, rest) := by
  rw [readItems?, hx]
  simp only [Option.bind_eq_bind, Option.bind_some, ht, hxs]

/-- The text of the elements after the first one. -/
inductive WrittenItems (depth : Nat) : List Value → List Char → Prop where
  | nil : WrittenItems depth [] []
  | cons {x : Value} {xs : List Value} {w t : List Char} (hx : Written depth x w)
      (hxs : WrittenItems depth xs t) :
      WrittenItems depth (x :: xs) (',' :: newLine depth ++ w ++ t)

private theorem readValue?_list (ht : skipSpace t = c :: w) (hc : c ≠ ']')
    (hxs : readItems? fuel (c :: w) = some (xs, rest)) :
    readValue? (fuel + 1) ('[' :: t) = some (.list xs, rest) := by
  rw [readValue?, ht]
  split
  · next heq => exact absurd (List.cons.inj heq).1 hc
  · rw [hxs]
    rfl

namespace WrittenItems

/-- After an element there is a comma, or the line feed before the closing bracket. -/
theorem ends (h : WrittenItems depth xs t) : Ends (t ++ (newLine k ++ rest)) := by
  cases h <;> exact ends_cons rfl

theorem writes (h : WrittenItems depth xs t) : writeItems depth xs = .ok t := by
  induction h with
  | nil => rfl
  | cons hx _ ih => rw [writeItems, hx.writes, ok_bind, ih, ok_bind]

theorem ascii (h : WrittenItems depth xs t) : ∀ c ∈ t, isLineAscii c = true := by
  induction h with
  | nil => exact fun c hc ↦ nomatch hc
  | cons hx _ ih =>
    intro c hc
    rw [List.cons_append, List.cons_append, List.mem_cons, List.mem_append, List.mem_append] at hc
    rcases hc with rfl | (hc | hc) | hc
    · rfl
    · exact isLineAscii_of_mem_newLine hc
    · exact hx.ascii c hc
    · exact ih c hc

theorem indented (h : WrittenItems depth xs t) (hd : 0 < depth) : Indented t := by
  induction h with
  | nil => trivial
  | cons hx _ ih =>
    refine indented_append (indented_append ⟨fun hc ↦ absurd hc (by decide), ?_⟩
      (hx.indented hd)) ih
    exact indented_newLine hd

/-- **The elements** are read up to the closing bracket. -/
theorem reads (hxs : WrittenItems depth xs t) (hx : Written depth x w)
    (hs : skipSpace s = w ++ (t ++ (newLine k ++ ']' :: rest)))
    (hf : w.length + t.length + 1 < fuel) :
    readItems? fuel s = some (heardItems (x :: xs), rest) := by
  have hends : Ends (t ++ (newLine k ++ ']' :: rest)) := hxs.ends
  obtain ⟨fuel, rfl⟩ := Nat.exists_eq_add_one_of_ne_zero (Nat.ne_zero_of_lt hf)
  induction hxs generalizing x w s fuel with
  | nil =>
    refine readItems?_last (hs ▸ hx.reads fuel _ hends (by omega)) ?_
    exact skipSpace_newLine rfl rfl
  | @cons y ys w' t hy hys ih =>
    simp only [List.cons_append, List.length_cons, List.length_append] at hf
    refine readItems?_cons (hs ▸ hx.reads fuel _ hends (by omega)) (skipSpace_cons rfl) ?_
    obtain ⟨fuel, rfl⟩ := Nat.exists_eq_succ_of_ne_zero (n := fuel) (by omega)
    refine ih hy ?_ hys.ends fuel (by omega)
    change skipSpace (newLine depth ++ w' ++ t ++ (newLine k ++ ']' :: rest)) = _
    simp only [List.append_assoc]
    exact hy.skipSpace_newLine

end WrittenItems

/-! ## What containers look like -/

theorem isLineAscii_brackets {o e : Char} (ho : isLineAscii o = true) (he : isLineAscii e = true)
    (hw : ∀ c ∈ w, isLineAscii c = true) (ht : ∀ c ∈ t, isLineAscii c = true) :
    ∀ c ∈ o :: newLine (depth + 1) ++ w ++ t ++ newLine depth ++ [e], isLineAscii c = true := by
  simp only [List.cons_append, List.mem_cons, List.mem_append, List.not_mem_nil, or_false]
  rintro c (rfl | (((hc | hc) | hc) | hc) | rfl)
  · exact ho
  · exact isLineAscii_of_mem_newLine hc
  · exact hw c hc
  · exact ht c hc
  · exact isLineAscii_of_mem_newLine hc
  · exact he

/-- The text of a container up to its last line. -/
theorem indented_opened {o : Char} (ho : o ≠ '\n') (hw : Indented w) (ht : Indented t) :
    Indented (o :: newLine (depth + 1) ++ w ++ t) :=
  indented_append (indented_append
    ⟨fun hc ↦ absurd hc ho, indented_newLine (Nat.succ_pos depth)⟩ hw) ht

theorem indented_closing {e : Char} (he : e ≠ '\n') (hd : 0 < depth) :
    Indented (newLine depth ++ [e]) :=
  indented_append (indented_newLine hd) ⟨fun hc ↦ absurd hc he, trivial⟩

/-- **A list** is read back. -/
theorem written_list (hx : Written (depth + 1) x w) (hxs : WrittenItems (depth + 1) xs t) :
    Written depth (.list (x :: xs))
      ('[' :: newLine (depth + 1) ++ w ++ t ++ newLine depth ++ [']']) where
  writes := by rw [writeAt, hx.writes, ok_bind, hxs.writes, ok_bind]
  opens := ⟨'[', _, rfl, rfl, by decide, by decide⟩
  ascii := isLineAscii_brackets rfl rfl hx.ascii hxs.ascii
  indented := by
    intro hd
    rw [List.append_assoc _ (newLine depth)]
    exact indented_append (indented_opened (by decide) (hx.indented (Nat.succ_pos depth))
      (hxs.indented (Nat.succ_pos depth))) (indented_closing (by decide) hd)
  reads := by
    intro fuel rest _ hf
    obtain ⟨fuel, rfl⟩ := Nat.exists_eq_add_one_of_ne_zero (Nat.ne_zero_of_lt hf)
    simp only [List.cons_append, List.length_cons, List.length_append] at hf
    simp only [List.cons_append, List.append_assoc, List.nil_append]
    obtain ⟨c, u, rfl, hspace, hclose, -⟩ := hx.opens
    exact readValue?_list hx.skipSpace_newLine hclose
      (hxs.reads hx (skipSpace_cons hspace) (by omega))

/-! ## Mappings -/

private theorem readEntries?_last {key : String} {u : List Char}
    (hk : readString? (skipSpace s) = some (key, ':' :: ' ' :: u)) (hu : skipSpace u = u)
    (hv : readValue? fuel u = some (v, t)) (ht : skipSpace t = '\x7d' :: rest) :
    readEntries? (fuel + 1) s = some ([(.text key, v)], rest) := by
  have hcolon : readWord? [':'] (skipSpace (':' :: ' ' :: u)) = some (' ' :: u) := rfl
  have hspace : skipSpace (' ' :: u) = u := hu
  rw [readEntries?, hk]
  simp only [Option.bind_eq_bind, Option.bind_some, hcolon, hspace, hv, ht]

theorem readEntries?_cons {key : String} {u : List Char}
    (hk : readString? (skipSpace s) = some (key, ':' :: ' ' :: u)) (hu : skipSpace u = u)
    (hv : readValue? fuel u = some (v, t)) (ht : skipSpace t = ',' :: w)
    (hes : readEntries? fuel w = some (es, rest)) :
    readEntries? (fuel + 1) s = some ((.text key, v) :: es, rest) := by
  have hcolon : readWord? [':'] (skipSpace (':' :: ' ' :: u)) = some (' ' :: u) := rfl
  have hspace : skipSpace (' ' :: u) = u := hu
  rw [readEntries?, hk]
  simp only [Option.bind_eq_bind, Option.bind_some, hcolon, hspace, hv, ht, hes]

theorem readValue?_map (ht : skipSpace t = c :: w) (hc : c ≠ '\x7d')
    (hes : readEntries? fuel (c :: w) = some (es, rest)) :
    readValue? (fuel + 1) ('\x7b' :: t) = some (Value.mapOf es, rest) := by
  rw [readValue?, ht]
  split
  · next heq => exact absurd (List.cons.inj heq).1 hc
  · rw [hes]
    rfl

def entryText (key : String) (w : List Char) : List Char := escape key.toList ++ ':' :: ' ' :: w

theorem isLineAscii_entryText {key : String} (hw : ∀ c ∈ w, isLineAscii c = true) :
    ∀ c ∈ entryText key w, isLineAscii c = true := by
  intro c hc
  rw [entryText, List.mem_append, List.mem_cons, List.mem_cons] at hc
  rcases hc with hc | rfl | rfl | hc
  · exact isLineAscii_of_isPlainAscii (isPlainAscii_of_mem_escape hc)
  · rfl
  · rfl
  · exact hw c hc

theorem indented_entryText {key : String} (hw : Indented w) : Indented (entryText key w) :=
  indented_append
    (indented_of_forall fun _ hc ↦ ne_lineFeed_of_isPlainAscii (isPlainAscii_of_mem_escape hc))
    ⟨fun hc ↦ absurd hc (by decide), fun hc ↦ absurd hc (by decide), hw⟩

theorem readString?_entryText {key : String} :
    readString? (entryText key w ++ rest) = some (joined key, ':' :: ' ' :: (w ++ rest)) := by
  rw [entryText, List.append_assoc, readString?_escape]
  rfl

private theorem skipSpace_entryText {key : String} :
    skipSpace (entryText key w ++ rest) = entryText key w ++ rest :=
  skipSpace_cons rfl

/-- The text of the entries after the first one. -/
inductive WrittenEntries (depth : Nat) : List (Value × Value) → List Char → Prop where
  | nil : WrittenEntries depth [] []
  | cons {key : String} {v : Value} {es : List (Value × Value)} {w t : List Char}
      (hv : Written depth v w) (hes : WrittenEntries depth es t) :
      WrittenEntries depth ((.text key, v) :: es) (',' :: newLine depth ++ entryText key w ++ t)

namespace WrittenEntries

/-- After an entry there is a comma, or the line feed before the closing brace. -/
theorem ends (h : WrittenEntries depth es t) : Ends (t ++ (newLine k ++ rest)) := by
  cases h <;> exact ends_cons rfl

theorem writes (h : WrittenEntries depth es t) : writeEntries depth es = .ok t := by
  induction h with
  | nil => rfl
  | cons hv _ ih =>
    rw [writeEntries, keyText, ok_bind, hv.writes, ok_bind, ih, ok_bind, entryText,
      ← List.append_assoc]

theorem ascii (h : WrittenEntries depth es t) : ∀ c ∈ t, isLineAscii c = true := by
  induction h with
  | nil => exact fun c hc ↦ nomatch hc
  | cons hv _ ih =>
    intro c hc
    rw [List.cons_append, List.cons_append, List.mem_cons, List.mem_append, List.mem_append] at hc
    rcases hc with rfl | (hc | hc) | hc
    · rfl
    · exact isLineAscii_of_mem_newLine hc
    · exact isLineAscii_entryText hv.ascii c hc
    · exact ih c hc

theorem indented (h : WrittenEntries depth es t) (hd : 0 < depth) : Indented t := by
  induction h with
  | nil => trivial
  | cons hv _ ih =>
    refine indented_append (indented_append ⟨fun hc ↦ absurd hc (by decide), ?_⟩
      (indented_entryText (hv.indented hd))) ih
    exact indented_newLine hd

/-- **The entries** are read up to the closing brace. -/
theorem reads {key : String} (hes : WrittenEntries depth es t) (hv : Written depth v w)
    (hs : skipSpace s = entryText key w ++ (t ++ (newLine k ++ '\x7d' :: rest)))
    (hf : w.length + t.length + 1 < fuel) :
    readEntries? fuel s = some (heardEntries ((.text key, v) :: es), rest) := by
  have hends : Ends (t ++ (newLine k ++ '\x7d' :: rest)) := hes.ends
  obtain ⟨fuel, rfl⟩ := Nat.exists_eq_add_one_of_ne_zero (Nat.ne_zero_of_lt hf)
  -- On the entries after the one that is read first, which goes along as `hv`.
  induction hes generalizing key v w s fuel with
  | nil =>
    exact readEntries?_last (hs ▸ readString?_entryText) hv.skipSpace_eq
      (hv.reads fuel _ hends (by omega)) (skipSpace_newLine rfl rfl)
  | @cons key' v' es w' t hv' hes ih =>
    simp only [List.cons_append, List.length_cons, List.length_append, entryText] at hf
    refine readEntries?_cons (hs ▸ readString?_entryText) hv.skipSpace_eq
      (hv.reads fuel _ hends (by omega)) (skipSpace_cons rfl) ?_
    obtain ⟨fuel, rfl⟩ := Nat.exists_eq_succ_of_ne_zero (n := fuel) (by omega)
    refine ih hv' ?_ hes.ends fuel (by omega)
    change skipSpace (newLine depth ++ entryText key' w' ++ t ++ (newLine k ++ '\x7d' :: rest)) = _
    simp only [List.append_assoc]
    exact skipSpace_newLine rfl rfl

end WrittenEntries

/-- **A mapping** is read back. -/
theorem written_map {key : String} (hv : Written (depth + 1) v w)
    (hes : WrittenEntries (depth + 1) es t) :
    Written depth (.map ((.text key, v) :: es))
      ('\x7b' :: newLine (depth + 1) ++ entryText key w ++ t ++ newLine depth ++ ['\x7d']) where
  writes := by
    rw [writeAt, keyText, ok_bind, hv.writes, ok_bind, hes.writes, ok_bind, entryText]
    simp only [List.append_assoc]
  opens := ⟨'\x7b', _, rfl, rfl, by decide, by decide⟩
  ascii := isLineAscii_brackets rfl rfl (isLineAscii_entryText hv.ascii) hes.ascii
  indented := by
    intro hd
    rw [List.append_assoc _ (newLine depth)]
    exact indented_append (indented_opened (by decide)
      (indented_entryText (hv.indented (Nat.succ_pos depth)))
      (hes.indented (Nat.succ_pos depth))) (indented_closing (by decide) hd)
  reads := by
    intro fuel rest _ hf
    obtain ⟨fuel, rfl⟩ := Nat.exists_eq_add_one_of_ne_zero (Nat.ne_zero_of_lt hf)
    simp only [List.cons_append, List.length_cons, List.length_append, entryText] at hf
    simp only [List.cons_append, List.append_assoc, List.nil_append]
    refine readValue?_map (skipSpace_newLine rfl rfl) (by decide) ?_
    exact hes.reads hv skipSpace_entryText (by omega)

/-! ## Plain data -/

private theorem writtenItems (h : ∀ x ∈ xs, ∃ w, Written depth x w) :
    ∃ t, WrittenItems depth xs t := by
  induction xs with
  | nil => exact ⟨[], .nil⟩
  | cons x xs ih =>
    obtain ⟨w, hx⟩ := h x List.mem_cons_self
    obtain ⟨t, hxs⟩ := ih fun y hy ↦ h y (List.mem_cons_of_mem x hy)
    exact ⟨_, .cons hx hxs⟩

private theorem writtenEntries (hkeys : Value.TextKeys es)
    (h : ∀ e ∈ es, ∃ w, Written depth e.2 w) : ∃ t, WrittenEntries depth es t := by
  induction es with
  | nil => exact ⟨[], .nil⟩
  | cons e es ih =>
    obtain ⟨k, v⟩ := e
    obtain ⟨s, rfl⟩ : ∃ s, k = .text s := hkeys (k, v) List.mem_cons_self
    obtain ⟨w, hv⟩ := h (_, v) List.mem_cons_self
    obtain ⟨t, hes⟩ := ih (fun f hf ↦ hkeys f (List.mem_cons_of_mem _ hf))
      fun f hf ↦ h f (List.mem_cons_of_mem _ hf)
    exact ⟨_, .cons hv hes⟩

private theorem written_emptyList (depth : Nat) : Written depth (.list []) ['[', ']'] where
  writes := rfl
  opens := ⟨'[', _, rfl, rfl, by decide, by decide⟩
  ascii := List.all_eq_true.mp rfl
  indented := fun _ ↦ indented_of_forall (by simp)
  reads := by
    intro fuel rest _ hf
    obtain ⟨fuel, rfl⟩ := Nat.exists_eq_add_one_of_ne_zero (Nat.ne_zero_of_lt hf)
    rfl

private theorem written_emptyMap (depth : Nat) : Written depth (.map []) ['\x7b', '\x7d'] where
  writes := rfl
  opens := ⟨'\x7b', _, rfl, rfl, by decide, by decide⟩
  ascii := List.all_eq_true.mp rfl
  indented := fun _ ↦ indented_of_forall (by simp)
  reads := by
    intro fuel rest _ hf
    obtain ⟨fuel, rfl⟩ := Nat.exists_eq_add_one_of_ne_zero (Nat.ne_zero_of_lt hf)
    rfl

/-- The text of a mapping up to its last line. -/
theorem written_entries {e : Value × Value} (hkeys : Value.TextKeys (e :: es))
    (h : ∀ f ∈ e :: es, ∃ w, Written (depth + 1) f.2 w) :
    ∃ a, Written depth (.map (e :: es)) ('\x7b' :: a ++ (newLine depth ++ ['\x7d'])) ∧
      Indented ('\x7b' :: a) := by
  obtain ⟨k, v⟩ := e
  obtain ⟨s, rfl⟩ : ∃ s, k = .text s := hkeys (k, v) List.mem_cons_self
  obtain ⟨w, hv⟩ := h _ List.mem_cons_self
  obtain ⟨t, hes⟩ := writtenEntries (fun f hf ↦ hkeys f (List.mem_cons_of_mem _ hf))
    fun f hf ↦ h f (List.mem_cons_of_mem _ hf)
  have hmap : Written depth (.map ((.text s, v) :: es)) _ := written_map hv hes
  rw [List.append_assoc _ (newLine depth)] at hmap
  exact ⟨_, hmap, indented_opened (by decide)
    (indented_entryText (hv.indented (Nat.succ_pos depth))) (hes.indented (Nat.succ_pos depth))⟩

/-- **Plain data** are written at every level of indentation, and read back. -/
theorem written (h : Printable v) (depth : Nat) : ∃ w, Written depth v w := by
  induction h generalizing depth with
  | null => exact ⟨_, written_null depth⟩
  | bool b => exact ⟨_, written_bool depth b⟩
  | int h => exact ⟨_, written_int depth h⟩
  | @text s _ => exact ⟨_, written_text depth s⟩
  | @list xs h ih =>
    cases xs with
    | nil => exact ⟨_, written_emptyList depth⟩
    | cons x xs =>
      obtain ⟨w, hx⟩ := ih x List.mem_cons_self (depth + 1)
      obtain ⟨t, hxs⟩ := writtenItems fun y hy ↦ ih y (List.mem_cons_of_mem x hy) (depth + 1)
      exact ⟨_, written_list hx hxs⟩
  | @map es hkeys hnodup h ih =>
    have htexts := textKeys_of_keys hkeys
    cases es with
    | nil => exact ⟨_, written_emptyMap depth⟩
    | cons e es =>
      obtain ⟨a, hw, -⟩ := written_entries htexts fun f hf ↦ ih f hf (depth + 1)
      exact ⟨_, hw⟩

/-- **A document** is read back. -/
theorem read?_of_written (h : Written depth v w) :
    read? (String.ofList (w ++ ['\n'])) = some (heard v) := by
  have hf : w.length < 2 * (w ++ ['\n']).length + 2 := by
    rw [List.length_append]
    omega
  rw [read?, String.toList_ofList, h.skipSpace_eq, h.reads _ ['\n'] (ends_cons rfl) hf]
  rfl

end GatewayPrint.Json
