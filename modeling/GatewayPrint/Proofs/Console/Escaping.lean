import GatewayPrint.Console.Markup
import Mathlib.Data.List.TakeWhile

/-!
# Escaped text in markup

A text that is escaped and put behind markup of the program's own must not act on styles, whatever
brackets and backslashes it holds: a closing tag in it that closes nothing would make the console
refuse the whole message.

## The idea

Escaping cuts a text into the same tokens as reading does. It gives every tag an odd number of
backslashes and leaves the other characters as they are, so that the only thing to see is that the
escaped text falls apart into the same tokens again (`tokens_masking`): no tag comes up between them
(`IsUntagged.masking`). For this, what follows a character in the escaped text differs from what
followed it before in nothing that matters to a tag: it starts with the same character or with a
backslash, and it does not reach a closing bracket any earlier.

Markup of the program's own is made of words in a style, so that its tokens end where the escaped
text begins, and what such a word turns on it turns off again (`isBalanced_inStyle`).
-/

namespace GatewayPrint.Markup

variable {s t body rest : List Char} {c : Char}

/-! ## Reading a tag -/

/-- What may stand between the brackets of a tag. -/
structure IsTag (body : List Char) : Prop where
  starts : ∃ c ∈ body.head?, isTagStart c
  bare : ∀ c ∈ body, c ≠ '[' ∧ c ≠ ']'

/-- A text that does not start with a tag, with backslashes before it or not. -/
def IsUntagged (s : List Char) : Prop := tag? (splitBackslashes s).2 = none

theorem tagEnd?_eq_some_iff :
    tagEnd? s = some (body, rest) ↔ s = body ++ ']' :: rest ∧ ∀ c ∈ body, c ≠ '[' ∧ c ≠ ']' := by
  fun_induction tagEnd? s generalizing body rest with
  | case1 => simp
  | case2 rest' =>
    constructor
    · rintro ⟨⟩
      exact ⟨rfl, by simp⟩
    · rintro ⟨h, hbody⟩
      cases body with
      | nil => simp_all
      | cons c body => exact absurd (List.cons.inj h).1.symm (hbody c (by simp)).2
  | case3 rest' =>
    refine iff_of_false (Option.some_ne_none _).symm ?_
    rintro ⟨h, hbody⟩
    cases body with
    | nil => exact absurd (List.cons.inj h).1 (by decide)
    | cons c body => exact absurd (List.cons.inj h).1.symm (hbody c (by simp)).1
  | case4 c rest' hclose hopen ih =>
    simp only [Option.map_eq_some_iff, Prod.exists, Prod.mk.injEq, ih]
    constructor
    · rintro ⟨inner, rest, ⟨rfl, hinner⟩, rfl, rfl⟩
      exact ⟨rfl, List.forall_mem_cons.mpr ⟨⟨hopen, hclose⟩, hinner⟩⟩
    · rintro ⟨h, hbody⟩
      cases body with
      | nil => exact absurd (List.cons.inj h).1 hclose
      | cons c' body =>
        obtain ⟨rfl, rfl⟩ := List.cons.inj h
        exact ⟨body, rest, ⟨rfl, fun c hc ↦ hbody c (List.mem_cons_of_mem _ hc)⟩, rfl, rfl⟩

theorem isTagStart_ne (h : isTagStart c = true) : c ≠ '[' ∧ c ≠ ']' ∧ c ≠ '\\' := by
  refine ⟨?_, ?_, ?_⟩
  all_goals
    rintro rfl
    exact absurd h (by decide)

theorem tag?_eq_some_iff :
    tag? s = some (body, rest) ↔ s = bracketed body ++ rest ∧ IsTag body := by
  unfold tag?
  split
  · next c s =>
    split
    · next hstart =>
      simp only [Option.map_eq_some_iff, Prod.exists, Prod.mk.injEq, tagEnd?_eq_some_iff]
      constructor
      · rintro ⟨inner, rest, ⟨rfl, hinner⟩, rfl, rfl⟩
        have hc := isTagStart_ne hstart
        exact ⟨by simp [bracketed], ⟨c, rfl, hstart⟩,
          List.forall_mem_cons.mpr ⟨⟨hc.1, hc.2.1⟩, hinner⟩⟩
      · rintro ⟨h, hbody⟩
        obtain ⟨c', hc', -⟩ := hbody.starts
        cases body with
        | nil => cases hc'
        | cons c'' body =>
          obtain ⟨rfl, rfl⟩ := List.cons.inj (List.cons.inj h).2
          refine ⟨body, rest, ⟨by simp, fun c hc ↦ ?_⟩, rfl, rfl⟩
          exact hbody.bare c (List.mem_cons_of_mem _ hc)
    · next hstart =>
      refine iff_of_false (Option.some_ne_none _).symm ?_
      rintro ⟨h, ⟨c', hc', hstart'⟩, -⟩
      cases body with
      | nil => cases hc'
      | cons c'' body =>
        cases hc'
        obtain ⟨rfl, -⟩ := List.cons.inj (List.cons.inj h).2
        exact hstart hstart'
  · next hshape =>
    refine iff_of_false (Option.some_ne_none _).symm ?_
    rintro ⟨rfl, ⟨c, hc, -⟩, -⟩
    cases body with
    | nil => cases hc
    | cons c' body => exact hshape c' (body ++ [']'] ++ rest) rfl

/-! ## Cutting into tokens -/

theorem splitBackslashes_cons_of_ne (hc : c ≠ '\\') (s : List Char) :
    splitBackslashes (c :: s) = (0, c :: s) := by
  simp [splitBackslashes, hc]

theorem splitBackslashes_replicate_append (n : Nat) (s : List Char) (hs : s.head? ≠ some '\\') :
    splitBackslashes (List.replicate n '\\' ++ s) = (n, s) := by
  induction n with
  | zero =>
    cases s with
    | nil => rfl
    | cons c s => exact splitBackslashes_cons_of_ne (fun h ↦ hs (congrArg some h)) s
  | succ n ih =>
    rw [splitBackslashes, Prod.mk.injEq] at ih ⊢
    simpa [List.replicate_succ] using ih

theorem eq_replicate_append_splitBackslashes (s : List Char) :
    s = List.replicate (splitBackslashes s).1 '\\' ++ (splitBackslashes s).2 := by
  have hall : ∀ c ∈ s.takeWhile (· = '\\'), c = '\\' := fun c hc ↦ by
    simpa using List.mem_takeWhile_imp hc
  rw [splitBackslashes, ← List.eq_replicate_of_mem hall, List.takeWhile_append_dropWhile]

theorem isUntagged_cons_backslash : IsUntagged ('\\' :: s) ↔ IsUntagged s := by
  simp [IsUntagged, splitBackslashes]

theorem isUntagged_cons_of_ne (hc : c ≠ '\\') : IsUntagged (c :: s) ↔ tag? (c :: s) = none := by
  rw [IsUntagged, splitBackslashes_cons_of_ne hc]

theorem isUntagged_cons (h : c ≠ '[') (hs : c = '\\' → IsUntagged s) : IsUntagged (c :: s) := by
  by_cases hc : c = '\\'
  · subst hc
    exact isUntagged_cons_backslash.mpr (hs rfl)
  · rw [isUntagged_cons_of_ne hc, tag?.eq_def]
    split
    · next heq => exact absurd (List.cons.inj heq).1 h
    · rfl

theorem isUntagged_backslash : IsUntagged ['\\'] := rfl

theorem tokens_tag (n : Nat) (h : IsTag body) (rest : List Char) :
    tokens (List.replicate n '\\' ++ bracketed body ++ rest) = .tag n body :: tokens rest := by
  have hsplit : splitBackslashes (List.replicate n '\\' ++ bracketed body ++ rest)
      = (n, bracketed body ++ rest) := by
    rw [List.append_assoc]
    exact splitBackslashes_replicate_append n _ (by simp [bracketed])
  have htag : tag? (bracketed body ++ rest) = some (body, rest) := tag?_eq_some_iff.mpr ⟨rfl, h⟩
  cases hs : List.replicate n '\\' ++ bracketed body ++ rest with
  | nil => simp [bracketed] at hs
  | cons c s =>
    rw [hs] at hsplit
    rw [tokens]
    split
    · next hsome =>
      rw [hsplit, htag] at hsome
      cases hsome
      rw [hsplit]
    · next hnone =>
      rw [hsplit, htag] at hnone
      cases hnone

theorem tokens_char (h : IsUntagged (c :: s)) : tokens (c :: s) = .char c :: tokens s := by
  rw [tokens]
  split
  · next hsome =>
    rw [h] at hsome
    cases hsome
  · rfl

/-- Induction along the tokens of a text. -/
theorem tokens_induction {motive : List Char → Prop} (nil : motive [])
    (tag : ∀ n body rest, IsTag body → motive rest →
      motive (List.replicate n '\\' ++ bracketed body ++ rest))
    (char : ∀ c s, IsUntagged (c :: s) → motive s → motive (c :: s)) (s : List Char) :
    motive s := by
  fun_induction tokens s with
  | case1 => exact nil
  | case2 c s body rest h ih =>
    obtain ⟨hrest, hbody⟩ := tag?_eq_some_iff.mp h
    rw [eq_replicate_append_splitBackslashes (c :: s), hrest, ← List.append_assoc]
    exact tag _ body rest hbody ih
  | case3 c s h ih => exact char c s h ih

/-! ## Escaping -/

/-- The tokens of an escaped text: each tag has an odd number of backslashes. -/
def masked : Token → Token
  | .char c => .char c
  | .tag n body => .tag (2 * n + 1) body

/-- A text with its tags escaped. -/
def masking (s : List Char) : List Char := (tokens s).flatMap escapeToken

@[simp] theorem masking_nil : masking [] = [] := by
  rw [masking, tokens, List.flatMap_nil]

theorem masking_tag (n : Nat) (h : IsTag body) (rest : List Char) :
    masking (List.replicate n '\\' ++ bracketed body ++ rest)
      = List.replicate (2 * n + 1) '\\' ++ bracketed body ++ masking rest := by
  rw [masking, tokens_tag n h, List.flatMap_cons, escapeToken, masking]

theorem masking_char (h : IsUntagged (c :: s)) : masking (c :: s) = c :: masking s := by
  rw [masking, tokens_char h, List.flatMap_cons, escapeToken, masking]
  rfl

/-- Escaping brings a closing bracket no closer. -/
theorem tagEnd?_masking (h : tagEnd? s = none) : tagEnd? (masking s) = none := by
  induction s using tokens_induction with
  | nil => rwa [masking_nil]
  | tag n body rest hbody _ =>
    -- The opening bracket of the tag comes first, with nothing but backslashes before it.
    rw [masking_tag n hbody]
    induction 2 * n + 1 with
    | zero => rfl
    | succ k ih =>
      rw [List.replicate_succ, List.cons_append, List.cons_append, tagEnd?, ih]
      · rfl
      all_goals decide
  | char c s hc ih =>
    rw [masking_char hc]
    by_cases hclose : c = ']'
    · subst hclose
      simp [tagEnd?] at h
    · by_cases hopen : c = '['
      · subst hopen
        rfl
      · rw [tagEnd?, Option.map_eq_none_iff] at h ⊢
        · exact ih h
        all_goals assumption

/-- An escaped text starts as the text does, or with a backslash. -/
theorem head?_masking (c : Char) (s : List Char) :
    (masking (c :: s)).head? = some c ∨ (masking (c :: s)).head? = some '\\' := by
  by_cases h : IsUntagged (c :: s)
  · rw [masking_char h]
    exact .inl rfl
  · obtain ⟨⟨body, rest⟩, hsome⟩ := Option.ne_none_iff_exists'.mp h
    obtain ⟨hrest, hbody⟩ := tag?_eq_some_iff.mp hsome
    rw [eq_replicate_append_splitBackslashes (c :: s), hrest, ← List.append_assoc,
      masking_tag _ hbody]
    exact .inr rfl

/-- No tag comes up at the start of an escaped text that did not start with one. -/
theorem IsUntagged.masking (h : IsUntagged s) : IsUntagged (masking s) := by
  induction s with
  | nil => rwa [masking_nil]
  | cons c s ih =>
    rw [masking_char h]
    -- Only a bracket begins a tag, and backslashes in front of it do not matter.
    by_cases hopen : c = '['
    · subst hopen
      rw [isUntagged_cons_of_ne (by decide)] at h ⊢
      cases s with
      | nil => rwa [masking_nil]
      | cons d s =>
        by_cases hd : isTagStart d = true
        · obtain ⟨hd1, -, hd2⟩ := isTagStart_ne hd
          rw [masking_char (isUntagged_cons hd1 fun h ↦ absurd h hd2)]
          rw [tag?, if_pos hd, Option.map_eq_none_iff] at h ⊢
          exact tagEnd?_masking h
        · rcases head?_masking d s with hhead | hhead
          -- Behind the bracket stands the same character or a backslash. Neither starts a tag.
          all_goals
            cases hs : Markup.masking (d :: s) with
            | nil => rfl
            | cons d' s' =>
              rw [hs] at hhead
              cases hhead
              rw [tag?, if_neg]
              first
                | exact hd
                | decide
    · refine isUntagged_cons hopen fun hc ↦ ih ?_
      subst hc
      exact isUntagged_cons_backslash.mp h

/-- **Reading an escaped text.** It falls apart into the same tokens as the text itself, with an odd
number of backslashes before each tag. -/
theorem tokens_masking (s : List Char) : tokens (masking s) = (tokens s).map masked := by
  induction s using tokens_induction with
  | nil => simp [masking, tokens]
  | tag n body rest hbody ih =>
    rw [masking_tag n hbody, tokens_tag _ hbody, tokens_tag _ hbody, List.map_cons, ih, masked]
  | char c s hc ih =>
    have hc' : IsUntagged (c :: masking s) := by
      rw [← masking_char hc]
      exact hc.masking
    rw [masking_char hc, tokens_char hc', tokens_char hc, List.map_cons, ih, masked]

/-! ## A backslash at the end -/

theorem mem_of_tag?_ne_none (h : tag? s ≠ none) : ']' ∈ s := by
  obtain ⟨⟨body, rest⟩, hsome⟩ := Option.ne_none_iff_exists'.mp h
  obtain ⟨rfl, -⟩ := tag?_eq_some_iff.mp hsome
  simp [bracketed]

/-- A text that cannot close a tag may follow without giving rise to one. -/
theorem tag?_append_eq_none (h : tag? s = none) (ht : ']' ∉ t) : tag? (s ++ t) = none := by
  by_contra hsome
  obtain ⟨⟨body, rest⟩, hsome⟩ := Option.ne_none_iff_exists'.mp hsome
  obtain ⟨heq, hbody⟩ := tag?_eq_some_iff.mp hsome
  rcases List.append_eq_append_iff.mp heq with ⟨u, hu, rfl⟩ | ⟨u, rfl, -⟩
  · -- The closing bracket is the last character of the tag, so nothing of the tag is left for `t`.
    rcases List.eq_nil_or_concat u with rfl | ⟨u, c, rfl⟩
    · rw [List.append_nil] at hu
      rw [← hu, ← List.append_nil (bracketed body), tag?_eq_some_iff.mpr ⟨rfl, hbody⟩] at h
      cases h
    · have hlast := congrArg List.getLast? hu
      simp only [bracketed, List.cons_append, List.concat_eq_append, ← List.append_assoc,
        List.getLast?_append, List.getLast?_singleton, Option.some_or] at hlast
      rw [← List.cons_append, List.getLast?_append, List.getLast?_singleton, Option.some_or,
        Option.some.injEq] at hlast
      exact ht (by simp [← hlast])
  · rw [tag?_eq_some_iff.mpr ⟨rfl, hbody⟩] at h
    cases h

theorem IsUntagged.append (h : IsUntagged s) (ht : ']' ∉ t) : IsUntagged (s ++ t) := by
  induction s with
  | nil =>
    by_contra hsome
    refine ht ?_
    rw [List.nil_append] at hsome
    rw [eq_replicate_append_splitBackslashes t]
    exact List.mem_append_right _ (mem_of_tag?_ne_none hsome)
  | cons c s ih =>
    by_cases hc : c = '\\'
    · subst hc
      exact isUntagged_cons_backslash.mpr (ih (isUntagged_cons_backslash.mp h))
    · rw [List.cons_append, isUntagged_cons_of_ne hc, ← List.cons_append]
      exact tag?_append_eq_none ((isUntagged_cons_of_ne hc).mp h) ht

theorem tokens_append_of_notMem (s : List Char) (ht : ']' ∉ t) :
    tokens (s ++ t) = tokens s ++ tokens t := by
  induction s using tokens_induction with
  | nil => rw [tokens, List.nil_append, List.nil_append]
  | tag n body rest hbody ih =>
    rw [List.append_assoc, tokens_tag n hbody, tokens_tag n hbody, ih, List.cons_append]
  | char c s hc ih =>
    have hc' : IsUntagged (c :: (s ++ t)) := hc.append ht
    rw [List.cons_append, tokens_char hc', tokens_char hc, ih, List.cons_append]

theorem closeBackslash_cases (s : List Char) :
    closeBackslash s = s ∨ closeBackslash s = s ++ ['\\'] := by
  rw [closeBackslash]
  split
  · exact .inr rfl
  · exact .inl rfl

/-- Tokens whose tags do not act. -/
def AreMuted (ts : List Token) : Prop := ∀ n body, .tag n body ∈ ts → n % 2 = 1

private theorem areMuted_map_masked (ts : List Token) : AreMuted (ts.map masked) := by
  intro n body h
  obtain ⟨t, -, ht⟩ := List.mem_map.mp h
  cases t with
  | char c => cases ht
  | tag k body' =>
    cases ht
    omega

/-- **No tag of an escaped text acts.** -/
theorem areMuted_tokens_escape (s : List Char) : AreMuted (tokens (escape s)) := by
  have hmasked : AreMuted (tokens (masking s)) := by
    rw [tokens_masking]
    exact areMuted_map_masked _
  rcases closeBackslash_cases (masking s) with h | h
  · rwa [escape, ← masking, h]
  · intro n body hmem
    rw [escape, ← masking, h, tokens_append_of_notMem _ (by decide),
      tokens_char isUntagged_backslash, List.mem_append] at hmem
    rcases hmem with hmem | hmem
    · exact hmasked n body hmem
    · simp [tokens] at hmem

/-! ## Tags that act -/

/-- The tag that a token is, if it acts. -/
def Token.acting? : Token → Option (List Char)
  | .char _ => none
  | .tag n body => if n % 2 = 1 then none else some body

@[simp] theorem filterMap_text_cons (u : List Char) (ps : List Piece) :
    (Piece.text u :: ps).filterMap Piece.tag? = ps.filterMap Piece.tag? :=
  List.filterMap_cons_none rfl

@[simp] theorem filterMap_tag_cons (body : List Char) (ps : List Piece) :
    (Piece.tag body :: ps).filterMap Piece.tag? = body :: ps.filterMap Piece.tag? :=
  List.filterMap_cons_some rfl

private theorem filterMap_openText (c : Char) (ps : List (Bool × Piece)) :
    ((openText c ps).map Prod.snd).filterMap Piece.tag?
      = (ps.map Prod.snd).filterMap Piece.tag? := by
  unfold openText
  split <;> simp only [List.map_cons, filterMap_text_cons]

/-- The doubled backslashes before a tag are one text more, or none. -/
theorem filterMap_piecesOf_tag (n : Nat) (body : List Char) (ts : List Token) :
    ((piecesOf (.tag n body :: ts)).map Prod.snd).filterMap Piece.tag?
      = ((if n % 2 = 1 then Piece.text (bracketed body) else Piece.tag body) ::
        (piecesOf ts).map Prod.snd).filterMap Piece.tag? := by
  rw [piecesOf]
  split <;> simp only [List.nil_append, List.cons_append, List.map_cons, filterMap_text_cons]

theorem tags_eq (s : List Char) : tags s = (tokens s).filterMap Token.acting? := by
  rw [tags, pieces]
  induction tokens s with
  | nil => rfl
  | cons t ts ih =>
    cases t with
    | char c => rw [piecesOf, filterMap_openText, ih, List.filterMap_cons_none rfl]
    | tag n body =>
      rw [filterMap_piecesOf_tag]
      by_cases hodd : n % 2 = 1
      · rw [if_pos hodd, filterMap_text_cons, ih,
          List.filterMap_cons_none (by rw [Token.acting?, if_pos hodd])]
      · rw [if_neg hodd, filterMap_tag_cons, ih,
          List.filterMap_cons_some (by rw [Token.acting?, if_neg hodd])]

theorem AreMuted.filterMap_acting? {ts : List Token} (h : AreMuted ts) :
    ts.filterMap Token.acting? = [] := by
  rw [List.filterMap_eq_nil_iff]
  intro t ht
  cases t with
  | char c => rfl
  | tag n body => rw [Token.acting?, if_pos (h n body ht)]

theorem AreMuted.faultFrom {ts : List Token} (h : AreMuted ts) (reader : StyleReader)
    (position : Nat) (on : List Opened) : faultFrom reader position on ts = none := by
  induction ts generalizing position with
  | nil => rfl
  | cons t ts ih =>
    have hrest : AreMuted ts := fun n body ht ↦ h n body (List.mem_cons_of_mem _ ht)
    cases t with
    | char c => exact ih hrest _
    | tag n body =>
      rw [Markup.faultFrom, if_pos (h n body List.mem_cons_self)]
      exact ih hrest _

/-! ## Markup before an escaped text -/

/-- Markup that ends outside of all tags, whatever comes next, and leaves on what was on. -/
structure IsBalanced (s : List Char) : Prop where
  tokens_append : ∀ t, tokens (s ++ t) = tokens s ++ tokens t
  faultFrom_append : ∀ reader position on ts,
    ∃ next, faultFrom reader position on (tokens s ++ ts) = faultFrom reader next on ts

theorem IsBalanced.append (hs : IsBalanced s) (ht : IsBalanced t) : IsBalanced (s ++ t) where
  tokens_append u := by
    rw [List.append_assoc, hs.tokens_append, ht.tokens_append, hs.tokens_append, List.append_assoc]
  faultFrom_append reader position on ts := by
    rw [hs.tokens_append, List.append_assoc]
    obtain ⟨next, h⟩ := hs.faultFrom_append reader position on (tokens t ++ ts)
    rw [h]
    exact ht.faultFrom_append reader next on ts

/-- A text with nothing that could begin a tag. -/
def IsQuiet (s : List Char) : Prop := ∀ c ∈ s, c ≠ '[' ∧ c ≠ '\\'

-- Given by name, since a search through all characters would be found as well.
instance (s : List Char) : Decidable (IsQuiet s) :=
  List.decidableBAll (fun c ↦ c ≠ '[' ∧ c ≠ '\\') s

theorem tokens_append_of_isQuiet (hs : IsQuiet s) (t : List Char) :
    tokens (s ++ t) = s.map .char ++ tokens t := by
  induction s with
  | nil => rfl
  | cons c s ih =>
    obtain ⟨hopen, hback⟩ := hs c List.mem_cons_self
    rw [List.cons_append, tokens_char (isUntagged_cons hopen fun h ↦ absurd h hback),
      ih fun d hd ↦ hs d (List.mem_cons_of_mem _ hd), List.map_cons, List.cons_append]

theorem tokens_of_isQuiet (hs : IsQuiet s) : tokens s = s.map .char := by
  have h := tokens_append_of_isQuiet hs []
  rwa [List.append_nil, tokens, List.append_nil] at h

theorem faultFrom_map_char (reader : StyleReader) (position : Nat) (on : List Opened)
    (s : List Char) (ts : List Token) :
    ∃ next, faultFrom reader position on (s.map .char ++ ts) = faultFrom reader next on ts := by
  induction s generalizing position with
  | nil => exact ⟨position, rfl⟩
  | cons c s ih => exact ih _

theorem isBalanced_of_isQuiet (hs : IsQuiet s) : IsBalanced s where
  tokens_append t := by rw [tokens_append_of_isQuiet hs, tokens_of_isQuiet hs]
  faultFrom_append reader position on ts := by
    rw [tokens_of_isQuiet hs]
    exact faultFrom_map_char reader position on s ts

theorem isTag_iff {body : List Char} : IsTag body ↔
    body.head?.any isTagStart = true ∧ body.all (fun c ↦ c ≠ '[' ∧ c ≠ ']') = true := by
  rw [Option.any_eq_true, List.all_eq_true]
  simp only [decide_eq_true_eq]
  exact ⟨fun h ↦ ⟨h.starts, h.bare⟩, fun h ↦ ⟨h.1, h.2⟩⟩

instance (body : List Char) : Decidable (IsTag body) := decidable_of_iff _ isTag_iff.symm

/-- The name of a style, as it stands in a tag. -/
structure IsStyle (name : List Char) : Prop where
  isTag : IsTag name
  opens : name.head? ≠ some '/'
  whole : '=' ∉ name
  stripped : Text.strip name = name

instance (name : List Char) : Decidable (IsStyle name) :=
  decidable_of_iff
    (IsTag name ∧ name.head? ≠ some '/' ∧ '=' ∉ name ∧ Text.strip name = name)
    ⟨fun ⟨htag, hopens, hwhole, hstrip⟩ ↦ ⟨htag, hopens, hwhole, hstrip⟩,
      fun h ↦ ⟨h.isTag, h.opens, h.whole, h.stripped⟩⟩

theorem IsStyle.isTag_slash {style : List Char} (h : IsStyle style) : IsTag ('/' :: style) :=
  ⟨⟨'/', rfl, by decide⟩, List.forall_mem_cons.mpr ⟨by decide, h.isTag.bare⟩⟩

theorem named_eq (h : '=' ∉ body) : named body = ⟨body, none⟩ := by
  have hall : ∀ c ∈ body, decide (c ≠ '=') = true := by
    intro c hc
    exact decide_eq_true fun heq ↦ h (heq ▸ hc)
  rw [named, List.takeWhile_eq_self_iff.mpr hall, List.dropWhile_eq_nil_iff.mpr hall]

private theorem turn_style {style : List Char} (h : IsStyle style) (reader : StyleReader)
    (position : Nat) (on : List Opened) :
    turn reader position style on = .ok (⟨reader.normal style, none⟩ :: on) := by
  rw [turn, named_eq h.whole]
  dsimp only
  split
  · exact absurd rfl h.opens
  · rfl

private theorem turn_slash_style {style : List Char} (h : IsStyle style) (reader : StyleReader)
    (position : Nat) (on : List Opened) :
    turn reader position ('/' :: style) (⟨reader.normal style, none⟩ :: on) = .ok on := by
  have hname : named ('/' :: style) = ⟨'/' :: style, none⟩ :=
    named_eq (by simpa using h.whole)
  have hne : style.isEmpty = false := by
    obtain ⟨c, hc, -⟩ := h.isTag.starts
    cases style with
    | nil => cases hc
    | cons c style => rfl
  have hfault : (⟨reader.normal style, none⟩ : Opened).fault? reader = none := by
    rw [Opened.fault?.eq_def]
    split
    · next heq => cases heq
    · rfl
  rw [turn, hname]
  simp [h.stripped, hne, hfault]

theorem tokens_inStyle_append {style text : String} (hstyle : IsStyle style.toList)
    (htext : IsQuiet text.toList) (t : List Char) :
    tokens ((inStyle style text).toList ++ t)
      = .tag 0 style.toList ::
        (text.toList.map .char ++ .tag 0 ('/' :: style.toList) :: tokens t) := by
  have hshape : (inStyle style text).toList
      = bracketed style.toList ++ (text.toList ++ bracketed ('/' :: style.toList)) := by
    simp [inStyle, bracketed]
  have hopen := tokens_tag 0 hstyle.isTag (text.toList ++ (bracketed ('/' :: style.toList) ++ t))
  have hclose := tokens_tag 0 hstyle.isTag_slash t
  rw [List.replicate_zero, List.nil_append] at hopen hclose
  rw [hshape, List.append_assoc, List.append_assoc, hopen, tokens_append_of_isQuiet htext, hclose]

theorem tokens_inStyle {style text : String} (hstyle : IsStyle style.toList)
    (htext : IsQuiet text.toList) :
    tokens (inStyle style text).toList
      = .tag 0 style.toList :: (text.toList.map .char ++ [.tag 0 ('/' :: style.toList)]) := by
  have h := tokens_inStyle_append hstyle htext []
  rwa [List.append_nil, tokens] at h

theorem isBalanced_inStyle {style text : String} (hstyle : IsStyle style.toList)
    (htext : IsQuiet text.toList) : IsBalanced (inStyle style text).toList where
  tokens_append t := by
    rw [tokens_inStyle_append hstyle htext, tokens_inStyle hstyle htext]
    simp
  faultFrom_append reader position on ts := by
    obtain ⟨next, h⟩ := faultFrom_map_char reader (position + (Token.tag 0 style.toList).length)
      (⟨reader.normal style.toList, none⟩ :: on) text.toList
      ([.tag 0 ('/' :: style.toList)] ++ ts)
    -- What the opening tag turns on is still the last style when the closing tag comes.
    rw [tokens_inStyle hstyle htext, List.cons_append, faultFrom, if_neg (by decide),
      turn_style hstyle, List.append_assoc]
    dsimp only
    rw [h, List.singleton_append, faultFrom, if_neg (by decide), turn_slash_style hstyle]
    exact ⟨_, rfl⟩

theorem IsBalanced.tags_append (h : IsBalanced s) (t : List Char) :
    tags (s ++ t) = tags s ++ tags t := by
  rw [tags_eq, tags_eq, tags_eq, h.tokens_append, List.filterMap_append]

theorem filterMap_map_char (s : List Char) : (s.map Token.char).filterMap Token.acting? = [] := by
  rw [List.filterMap_map]
  exact List.filterMap_eq_nil_iff.mpr fun _ _ ↦ rfl

theorem tags_of_isQuiet (hs : IsQuiet s) : tags s = [] := by
  rw [tags_eq, tokens_of_isQuiet hs, filterMap_map_char]

theorem tags_inStyle {style text : String} (hstyle : IsStyle style.toList)
    (htext : IsQuiet text.toList) :
    tags (inStyle style text).toList = [style.toList, '/' :: style.toList] := by
  have hopen : (Token.tag 0 style.toList).acting? = some style.toList := rfl
  have hclose : (Token.tag 0 ('/' :: style.toList)).acting? = some ('/' :: style.toList) := rfl
  rw [tags_eq, tokens_inStyle hstyle htext, List.filterMap_cons_some hopen,
    List.filterMap_append, filterMap_map_char, List.nil_append, List.filterMap_cons_some hclose,
    List.filterMap_nil]

/-- Markup that leaves on what was on is not refused. -/
theorem IsBalanced.fault? (h : IsBalanced s) (reader : StyleReader) :
    Markup.fault? reader s = none := by
  obtain ⟨next, hnext⟩ := h.faultFrom_append reader 0 [] []
  rw [List.append_nil] at hnext
  rw [Markup.fault?, hnext, faultFrom]

/-- **An escaped text is never refused**, whatever the console makes of the names of styles. -/
theorem IsBalanced.fault?_append_escape (h : IsBalanced s) (reader : StyleReader)
    (text : List Char) : Markup.fault? reader (s ++ escape text) = none := by
  obtain ⟨next, hnext⟩ := h.faultFrom_append reader 0 [] (tokens (escape text))
  rw [Markup.fault?, h.tokens_append, hnext]
  exact (areMuted_tokens_escape text).faultFrom reader next []

private theorem tags_escape (text : List Char) : tags (escape text) = [] := by
  rw [tags_eq, (areMuted_tokens_escape text).filterMap_acting?]

/-- **An escaped text neither turns a style on nor off.** -/
theorem IsBalanced.tags_append_escape (h : IsBalanced s) (text : List Char) :
    tags (s ++ escape text) = tags s := by
  rw [h.tags_append, tags_escape, List.append_nil]

end GatewayPrint.Markup
