import GatewayPrint.Proofs.Console.EmojiCodes
import GatewayPrint.Proofs.Console.Escaping
import GatewayPrint.Proofs.Console.Wrapping

/-!
# What the console shows of an escaped text

An escaped text should be shown as it is. The console takes it apart at what would be tags, and
treats each part on its own: a backslash before a bracket is left out, and emoji codes are replaced.
Escaping protects the tags only, and doubles a single backslash at the end of the text, which no
one takes back.

## The idea

Whether a text is shown as it is can be told from the parts (`IsIntact`). If it is not, then this is
seen in what is shown: a replaced code takes away colons, which nothing brings back
(`colons_shown_le`); and the first character that is left out or added makes a difference at its
place, since what follows is different from it (`eq_of_solid_flatMap_unescape`).
-/

namespace GatewayPrint.Markup

open Text

variable {s t x y : List Char} {c : Char} {ts : List Token}

/-! ## Removing backslashes -/

/-- A text in which no backslash stands before an opening bracket. -/
def IsUnescaped (s : List Char) : Prop := ¬ ['\\', '['] <:+: s

theorem unescape_sublist (s : List Char) : (unescape s).Sublist s := by
  fun_induction unescape s with
  | case1 rest ih => exact (ih.cons_cons '[').cons '\\'
  | case2 c rest _ ih => exact ih.cons_cons c
  | case3 => exact List.Sublist.refl _

private theorem colons_unescape (s : List Char) : colons (unescape s) = colons s := by
  fun_induction unescape s with
  | case1 rest ih =>
    rw [colons_cons_of_ne (by decide), colons_cons_of_ne (by decide), colons_cons_of_ne (by decide),
      ih]
  | case2 c rest _ ih =>
    by_cases hc : c = ':'
    · rw [hc, colons_cons_self, colons_cons_self, ih]
    · rw [colons_cons_of_ne hc, colons_cons_of_ne hc, ih]
  | case3 => rfl

private theorem unescape_concat (hc : c ≠ '[') (s : List Char) :
    unescape (s ++ [c]) = unescape s ++ [c] := by
  fun_induction unescape s with
  | case1 rest ih =>
    rw [List.cons_append, List.cons_append, unescape, ih, List.cons_append]
  | case2 d rest hd ih =>
    rw [List.cons_append, unescape, ih, List.cons_append]
    rintro rest' rfl hrest
    cases rest with
    | nil => exact hc (List.cons.inj hrest).1
    | cons e rest => exact hd rest rfl (by rw [(List.cons.inj hrest).1])
  | case3 =>
    rw [List.nil_append, unescape, unescape]
    rintro rest rfl hrest
    cases hrest

theorem unescape_eq_self_iff : unescape s = s ↔ IsUnescaped s := by
  rw [IsUnescaped]
  fun_induction unescape s with
  | case1 rest ih =>
    refine iff_of_false (fun h ↦ ?_) (not_not.mpr ⟨[], rest, rfl⟩)
    exact absurd (List.cons.inj h).1 (by decide)
  | case2 c rest hne ih =>
    rw [List.cons.injEq, eq_self, true_and, ih, List.infix_cons_iff, not_or]
    refine (and_iff_right ?_).symm
    rintro ⟨rest', hrest'⟩
    obtain ⟨rfl, hrest⟩ := List.cons.inj hrest'
    exact hne rest' rfl hrest.symm
  | case3 => simp

-- By removing the backslashes, since a search for the pair looks through all parts of the text.
instance (s : List Char) : Decidable (IsUnescaped s) := decidable_of_iff _ unescape_eq_self_iff

/-- **The first backslash that is left out** makes a difference at its place. -/
theorem eq_of_solid_unescape (h : solid (unescape t) ++ x = solid t ++ y) :
    unescape t = t ∧ x = y := by
  fun_induction unescape t with
  | case1 rest ih => exact absurd (List.cons.inj h).1 (by decide)
  | case2 c rest _ ih =>
    rw [solid, List.filter_cons, solid, List.filter_cons] at h
    split at h
    · obtain ⟨hrest, hxy⟩ := ih (List.cons.inj h).2
      exact ⟨congrArg _ hrest, hxy⟩
    · obtain ⟨hrest, hxy⟩ := ih h
      exact ⟨congrArg _ hrest, hxy⟩
  | case3 => exact ⟨rfl, h⟩

private theorem eq_of_solid_flatMap_unescape {l : List (List Char)}
    (h : solid (l.flatMap unescape) ++ x = solid l.flatten ++ y) :
    (∀ t ∈ l, unescape t = t) ∧ x = y := by
  induction l with
  | nil => exact ⟨nofun, h⟩
  | cons t l ih =>
    rw [List.flatMap_cons, solid_append, List.flatten_cons, solid_append, List.append_assoc,
      List.append_assoc] at h
    obtain ⟨ht, h⟩ := eq_of_solid_unescape h
    obtain ⟨hl, hxy⟩ := ih h
    exact ⟨List.forall_mem_cons.mpr ⟨ht, hl⟩, hxy⟩

/-! ## Parts -/

/-- What is shown of a part. -/
def shownText (s : List Char) : List Char := (Piece.text s).shown

/-- The parts of a text: the tags, the backslashes before them, and what is between them. -/
def segments : List Token → List (List Char)
  | [] => [[]]
  | .char c :: ts => (segments ts).modifyHead (c :: ·)
  | .tag n body :: ts => [] :: List.replicate n '\\' :: bracketed body :: segments ts

theorem exists_segments (ts : List Token) : ∃ r rs, segments ts = r :: rs := by
  induction ts with
  | nil => exact ⟨[], [], rfl⟩
  | cons t ts ih =>
    cases t with
    | char c =>
      obtain ⟨r, rs, h⟩ := ih
      exact ⟨c :: r, rs, by rw [segments, h, List.modifyHead_cons]⟩
    | tag n body => exact ⟨_, _, rfl⟩

theorem flatten_segments (s : List Char) : (segments (tokens s)).flatten = s := by
  induction s using tokens_induction with
  | nil => rw [tokens, segments, List.flatten_singleton]
  | tag n body rest hbody ih =>
    rw [tokens_tag n hbody, segments]
    simp [ih]
  | char c s hc ih =>
    obtain ⟨r, rs, h⟩ := exists_segments (tokens s)
    rw [h, List.flatten_cons] at ih
    rw [tokens_char hc, segments, h, List.modifyHead_cons, List.flatten_cons, List.cons_append, ih]

theorem exists_segments_concat (ts : List Token) (c : Char) :
    ∃ l r, segments ts = l ++ [r] ∧ segments (ts ++ [.char c]) = l ++ [r ++ [c]] := by
  induction ts with
  | nil => exact ⟨[], [], rfl, rfl⟩
  | cons t ts ih =>
    obtain ⟨l, r, hts, hconcat⟩ := ih
    cases t with
    | char d =>
      rw [List.cons_append, segments, segments, hts, hconcat]
      cases l with
      | nil => exact ⟨[], d :: r, rfl, rfl⟩
      | cons r' l => exact ⟨(d :: r') :: l, r, rfl, rfl⟩
    | tag n body =>
      rw [List.cons_append, segments, segments, hts, hconcat]
      exact ⟨[] :: List.replicate n '\\' :: bracketed body :: l, r, rfl, rfl⟩

theorem shownText_nil : shownText [] = [] := by
  rw [shownText, Piece.shown, unescape, replaceEmoji]
  rfl

private theorem openText_of_head {ps : List (Bool × Piece)} (h : ∀ p ∈ ps.head?, p.1 = false)
    (c : Char) : openText c ps = (true, .text [c]) :: ps := by
  rw [openText.eq_def]
  split
  · next s rest => exact nomatch h _ rfl
  · rfl

/-- A piece that may be left out, as it is empty then. -/
theorem flatMap_optional {p : Prop} [Decidable p] {u : List Char} (h : p → u = []) (b : Bool) :
    (if p then [] else [(b, Piece.text u)]).flatMap (fun q ↦ q.2.shown) = shownText u := by
  split
  · next hp => rw [h hp, shownText_nil, List.flatMap_nil]
  · rw [List.flatMap_singleton, shownText]

/-- The pieces of an escaped text: running text, if it begins with any, and then what is shown of
the other parts. -/
theorem exists_piecesOf_masked {r : List Char} {rs : List (List Char)}
    (h : segments ts = r :: rs) :
    ∃ ps, piecesOf (ts.map masked) = (if r = [] then [] else [(true, .text r)]) ++ ps ∧
      (∀ p ∈ ps.head?, p.1 = false) ∧
      ps.flatMap (fun p ↦ p.2.shown) = rs.flatMap shownText := by
  induction ts generalizing r rs with
  | nil =>
    cases h
    exact ⟨[], rfl, nofun, rfl⟩
  | cons t ts ih =>
    obtain ⟨r', rs', hts⟩ := exists_segments ts
    obtain ⟨ps, hps, hhead, hshown⟩ := ih hts
    cases t with
    | char c =>
      rw [segments, hts, List.modifyHead_cons] at h
      cases h
      refine ⟨ps, ?_, hhead, hshown⟩
      rw [List.map_cons, masked, piecesOf, hps, if_neg (List.cons_ne_nil c r')]
      -- The character begins running text, or goes in front of the running text that is there.
      by_cases hr : r' = []
      · rw [if_pos hr, hr, List.nil_append]
        exact openText_of_head hhead c
      · rw [if_neg hr]
        rfl
    | tag n body =>
      rw [segments, hts] at h
      cases h
      -- Half of the backslashes are shown, and the odd one makes the tag text.
      have hhalf : (2 * n + 1) / 2 = n := by omega
      have hodd : (2 * n + 1) % 2 = 1 := by omega
      refine ⟨piecesOf ((Token.tag n body :: ts).map masked), ?_, ?_, ?_⟩
      · rw [if_pos rfl, List.nil_append]
      · rw [List.map_cons, masked, piecesOf, hhalf]
        intro p hp
        split at hp
        · cases hp
          rfl
        · cases hp
          rfl
      · have hempty : n = 0 → List.replicate n '\\' = [] := by
          rintro rfl
          rfl
        rw [List.map_cons, masked, piecesOf, hhalf, if_pos hodd, hps, List.flatMap_append,
          flatMap_optional hempty, List.flatMap_cons, List.flatMap_append, flatMap_optional id,
          hshown]
        rfl

/-- **What is shown of an escaped text** is what is shown of its parts. -/
theorem shown_piecesOf_masked (ts : List Token) :
    ((piecesOf (ts.map masked)).map Prod.snd).flatMap Piece.shown
      = (segments ts).flatMap shownText := by
  obtain ⟨r, rs, hts⟩ := exists_segments ts
  obtain ⟨ps, hps, -, hshown⟩ := exists_piecesOf_masked hts
  rw [hps, hts, List.flatMap_map, List.flatMap_append, List.flatMap_cons, hshown,
    flatMap_optional id]

/-! ## A backslash at the end -/

/-- The text ends in a backslash that stands alone. -/
def EndsInOne (s : List Char) : Prop := ['\\'] <:+ s ∧ ¬ ['\\', '\\'] <:+ s

instance (s : List Char) : Decidable (EndsInOne s) := inferInstanceAs (Decidable (_ ∧ _))

theorem closeBackslash_eq (s : List Char) :
    closeBackslash s = s ++ if EndsInOne s then ['\\'] else [] := by
  have hcond : (['\\'].isSuffixOf s && ['\\', '\\'].isSuffixOf s = false) = true ↔ EndsInOne s := by
    rw [EndsInOne, Bool.and_eq_true, List.isSuffixOf_iff_suffix, decide_eq_true_eq,
      ← Bool.not_eq_true, List.isSuffixOf_iff_suffix]
  rw [closeBackslash]
  by_cases h : EndsInOne s
  · rw [if_pos (hcond.mpr h), if_pos h]
  · rw [if_neg fun hends ↦ h (hcond.mp hends), if_neg h, List.append_nil]

private theorem sublist_masking (s : List Char) : s.Sublist (masking s) := by
  induction s using tokens_induction with
  | nil => exact List.nil_sublist _
  | tag n body rest hbody ih =>
    rw [masking_tag n hbody]
    have hmore : (List.replicate n '\\').Sublist (List.replicate (2 * n + 1) '\\') := by
      rw [List.replicate_sublist_iff, List.count_replicate_self]
      omega
    exact (hmore.append (List.Sublist.refl _)).append ih
  | char c s hc ih =>
    rw [masking_char hc]
    exact ih.cons_cons c

theorem masking_of_notMem (h : ']' ∉ s) : masking s = s := by
  induction s using tokens_induction with
  | nil => exact masking_nil
  | tag n body rest hbody ih => exact absurd (by simp [bracketed]) h
  | char c s hc ih =>
    rw [masking_char hc, ih fun hmem ↦ h (List.mem_cons_of_mem c hmem)]

theorem suffix_append_cons_iff (ht : c ∉ t) (s u : List Char) : t <:+ s ++ c :: u ↔ t <:+ u := by
  constructor
  · rintro ⟨v, hv⟩
    rcases List.append_eq_append_iff.mp hv with ⟨w, -, hw⟩ | ⟨w, -, hw⟩
    · rw [hw] at ht
      exact absurd (List.mem_append_right w List.mem_cons_self) ht
    · cases w with
      | nil =>
        rw [List.nil_append] at hw
        rw [← hw] at ht
        exact absurd List.mem_cons_self ht
      | cons d w => exact ⟨w, (List.cons.inj hw).2.symm⟩
  · exact fun h ↦ h.trans ((List.suffix_cons c u).trans (List.suffix_append s _))

/-- Escaping tags changes nothing at the end of a text. -/
theorem suffix_masking_iff (ht : ']' ∉ t) : t <:+ masking s ↔ t <:+ s := by
  induction s using tokens_induction with
  | nil => rw [masking_nil]
  | tag n body rest hbody ih =>
    have hsplit : ∀ (k : Nat) (u : List Char), List.replicate k '\\' ++ bracketed body ++ u
        = (List.replicate k '\\' ++ '[' :: body) ++ ']' :: u := by
      intro k u
      simp [bracketed]
    rw [masking_tag n hbody, hsplit, hsplit, suffix_append_cons_iff ht, suffix_append_cons_iff ht,
      ih]
  | char c s hc ih =>
    have hwhole : t = c :: masking s ↔ t = c :: s := by
      constructor
      · rintro rfl
        rw [masking_of_notMem]
        exact fun hmem ↦ ht (List.mem_cons_of_mem c ((sublist_masking s).subset hmem))
      · rintro rfl
        rw [masking_of_notMem fun hmem ↦ ht (List.mem_cons_of_mem c hmem)]
    rw [masking_char hc, List.suffix_cons_iff, List.suffix_cons_iff, hwhole, ih]

theorem escape_eq (s : List Char) :
    escape s = masking s ++ if EndsInOne s then ['\\'] else [] := by
  have hends : EndsInOne (masking s) ↔ EndsInOne s :=
    and_congr (suffix_masking_iff (by decide)) (not_congr (suffix_masking_iff (by decide)))
  rw [escape, ← masking, closeBackslash_eq]
  simp only [hends]

/-! ## What is shown -/

private theorem shownText_cons_space (s : List Char) :
    shownText (' ' :: s) = ' ' :: shownText s := by
  rw [shownText, Piece.shown, unescape, replaceEmoji_cons_of_ne (by decide)]
  · rfl
  · rintro rest ⟨⟩

private theorem shownText_concat_backslash (s : List Char) :
    shownText (s ++ ['\\']) = shownText s ++ ['\\'] := by
  rw [shownText, Piece.shown, unescape_concat (by decide), replaceEmoji_concat (by decide), visible,
    List.filter_append]
  rfl

/-- What is shown of an escaped text: its parts, each on its own, and a second backslash behind a
single one at the end. -/
def shown (s : List Char) : List Char :=
  (segments (tokens s)).flatMap shownText ++ if EndsInOne s then ['\\'] else []

private theorem shown_piecesOf_escape (s : List Char) :
    ((piecesOf (tokens (escape s))).map Prod.snd).flatMap Piece.shown = shown s := by
  rw [escape_eq, shown]
  by_cases h : EndsInOne s
  · have hback : tokens ['\\'] = [Token.char '\\'].map masked := by
      rw [tokens_char isUntagged_backslash, tokens]
      rfl
    obtain ⟨l, r, hts, hconcat⟩ := exists_segments_concat (tokens s) '\\'
    rw [if_pos h, tokens_append_of_notMem _ (by decide), tokens_masking, hback,
      ← List.map_append, shown_piecesOf_masked, hconcat, hts, List.flatMap_append,
      List.flatMap_append, List.flatMap_singleton, List.flatMap_singleton,
      shownText_concat_backslash, List.append_assoc]
  · rw [if_neg h, List.append_nil, List.append_nil, tokens_masking, shown_piecesOf_masked]

private theorem flatMap_openText_space (ps : List (Bool × Piece)) :
    ((openText ' ' ps).map Prod.snd).flatMap Piece.shown
      = ' ' :: (ps.map Prod.snd).flatMap Piece.shown := by
  have hcons := shownText_cons_space
  rw [openText.eq_def]
  split
  · next s rest =>
    rw [List.map_cons, List.flatMap_cons, List.map_cons, List.flatMap_cons]
    exact congrArg (· ++ _) (hcons s)
  · rw [List.map_cons, List.flatMap_cons]
    have hspace : (Piece.text [' ']).shown = [' '] := (hcons []).trans (by rw [shownText_nil])
    rw [hspace]
    rfl

private theorem piecesOf_word (word body : List Char) (ts : List Token) :
    piecesOf (word.map .char ++ .tag 0 body :: ts)
      = (if word = [] then [] else [(true, .text word)]) ++ (false, .tag body) :: piecesOf ts := by
  induction word with
  | nil => rfl
  | cons c word ih =>
    rw [List.map_cons, List.cons_append, piecesOf, ih, if_neg (List.cons_ne_nil c word)]
    by_cases hword : word = []
    · rw [if_pos hword, hword]
      rfl
    · rw [if_neg hword]
      rfl

/-- **What is shown of an escaped text** behind a word in a style. -/
theorem plain_inStyle_escape {style word : String} (hstyle : IsStyle style.toList)
    (hword : IsQuiet word.toList) (s : List Char) :
    plain ((inStyle style word).toList ++ ' ' :: escape s)
      = shownText word.toList ++ ' ' :: shown s := by
  have hspace : tokens (' ' :: escape s) = .char ' ' :: tokens (escape s) :=
    tokens_char (isUntagged_cons (by decide) fun h ↦ absurd h (by decide))
  have hopen : piecesOf (.tag 0 style.toList :: (word.toList.map .char
      ++ .tag 0 ('/' :: style.toList) :: .char ' ' :: tokens (escape s)))
      = (false, .tag style.toList) ::
        ((if word.toList = [] then [] else [(true, .text word.toList)])
          ++ (false, .tag ('/' :: style.toList)) ::
            openText ' ' (piecesOf (tokens (escape s)))) := by
    rw [piecesOf, piecesOf_word, piecesOf]
    rfl
  rw [plain, pieces, tokens_inStyle_append hstyle hword, hspace, hopen, List.map_cons,
    List.map_append, List.map_cons, List.flatMap_cons, List.flatMap_append, List.flatMap_cons,
    flatMap_openText_space, shown_piecesOf_escape, List.flatMap_map, flatMap_optional id]
  rfl

/-! ## Texts that are shown as they are -/

/-- A text that is shown as it is: it does not end in a single backslash, and outside of what would
be a tag there is neither a backslash before an opening bracket nor the code of an emoji; inside of
a tag there is no such code either. -/
structure IsIntact (s : List Char) : Prop where
  closed : ¬ EndsInOne s
  unescaped : ∀ t ∈ segments (tokens s), IsUnescaped t
  uncoded : ∀ t ∈ segments (tokens s), replaceEmoji t = t

/-- No emoji is shown for a part of the text. -/
def IsUncoded (l : List (List Char)) : Prop := ∀ t ∈ l, replaceEmoji (unescape t) = unescape t

theorem visible_of_isPlain (h : IsPlain s) : visible s = s := by
  rw [visible, List.filter_eq_self]
  intro c hc
  obtain ⟨hlow, hhigh⟩ := h c hc
  have hnone : c.toNat ∉ [7, 8, 11, 12, 13] := by
    simp
    omega
  simpa [isDropped] using hnone

theorem isUnescaped_of_isQuiet (h : IsQuiet s) : IsUnescaped s := by
  rintro ⟨u, v, rfl⟩
  exact (h '[' (by simp)).1 rfl

theorem shownText_of_isQuiet (hplain : IsPlain s) (hquiet : IsQuiet s) (hcolons : colons s < 2) :
    shownText s = s := by
  rw [shownText, Piece.shown, unescape_eq_self_iff.mpr (isUnescaped_of_isQuiet hquiet),
    replaceEmoji_of_colons hcolons, visible_of_isPlain hplain]

private theorem flatMap_shownText {l : List (List Char)} (hplain : IsPlain l.flatten)
    (h : IsUncoded l) : l.flatMap shownText = l.flatMap unescape := by
  rw [List.flatMap_def, List.flatMap_def]
  refine congrArg List.flatten (List.map_congr_left fun t ht ↦ ?_)
  have ht' := hplain.of_sublist (List.sublist_flatten_of_mem ht)
  rw [shownText, Piece.shown, h t ht, visible_of_isPlain (ht'.of_sublist (unescape_sublist t))]

private theorem colons_shownText (t : List Char) : colons (shownText t) ≤ colons t ∧
    (colons (shownText t) = colons t → replaceEmoji (unescape t) = unescape t) := by
  have hvisible : colons (shownText t) ≤ colons (replaceEmoji (unescape t)) :=
    List.Sublist.count_le ':' List.filter_sublist
  rw [← colons_unescape t]
  rcases replaceEmoji_cases (unescape t) with hsame | hfewer
  · rw [hsame] at hvisible
    exact ⟨hvisible, fun _ ↦ hsame⟩
  · exact ⟨by omega, fun _ ↦ by omega⟩

private theorem colons_flatMap_shownText (l : List (List Char)) :
    colons (l.flatMap shownText) ≤ colons l.flatten ∧
      (colons (l.flatMap shownText) = colons l.flatten → IsUncoded l) := by
  induction l with
  | nil => exact ⟨Nat.le_refl _, fun _ ↦ nofun⟩
  | cons t l ih =>
    rw [List.flatMap_cons, List.flatten_cons, colons_append, colons_append]
    obtain ⟨ht, htsame⟩ := colons_shownText t
    obtain ⟨hl, hlsame⟩ := ih
    refine ⟨by omega, fun h ↦ List.forall_mem_cons.mpr ⟨htsame ?_, hlsame ?_⟩⟩
    · omega
    · omega

/-- **Nothing brings back the colons** of an emoji code. -/
theorem colons_shown (s : List Char) : colons (shown s) ≤ colons s ∧
    (colons (shown s) = colons s → IsUncoded (segments (tokens s))) := by
  have htail : colons (if EndsInOne s then ['\\'] else []) = 0 := by
    split <;> rfl
  have h := colons_flatMap_shownText (segments (tokens s))
  rwa [flatten_segments, ← Nat.add_zero (colons ((segments (tokens s)).flatMap shownText)), ← htail,
    ← colons_append, ← shown] at h

theorem isLine_shown (h : IsPlain s) : Console.IsLine (shown s) := by
  have hpart : ∀ t ∈ segments (tokens s), Console.IsLine (shownText t) := by
    intro t ht c hc
    have hplain : IsPlain t := by
      rw [← flatten_segments s] at h
      exact h.of_sublist (List.sublist_flatten_of_mem ht)
    rcases mem_replaceEmoji (List.mem_filter.mp hc).1 with hmem | hpicture
    · exact Console.isLine_of_isPlain hplain c ((unescape_sublist t).subset hmem)
    · exact hpicture.2
  intro c hc
  rcases List.mem_append.mp hc with hc | hc
  · obtain ⟨t, ht, hc⟩ := List.mem_flatMap.mp hc
    exact hpart t ht c hc
  · split at hc
    · rw [List.mem_singleton.mp hc]
      decide
    · cases hc

/-- What is shown of a plain text without emoji. -/
theorem shown_of_isUncoded (hplain : IsPlain s) (h : IsUncoded (segments (tokens s))) :
    shown s = (segments (tokens s)).flatMap unescape ++ if EndsInOne s then ['\\'] else [] := by
  rw [shown, flatMap_shownText (by rwa [flatten_segments]) h]

theorem isPlain_shown (hplain : IsPlain s) (h : IsUncoded (segments (tokens s))) :
    IsPlain (shown s) := by
  rw [shown_of_isUncoded hplain h]
  refine IsPlain.append (hplain.of_sublist ?_) ?_
  · have hsub : ((segments (tokens s)).flatMap unescape).Sublist
        ((segments (tokens s)).flatMap id) :=
      List.Sublist.flatMap_right _ fun t _ ↦ unescape_sublist t
    rwa [List.flatMap_id, flatten_segments] at hsub
  · split
    · decide
    · exact nofun

theorem IsIntact.unescape_eq (h : IsIntact s) (ht : t ∈ segments (tokens s)) : unescape t = t :=
  unescape_eq_self_iff.mpr (h.unescaped t ht)

theorem IsIntact.isUncoded (h : IsIntact s) : IsUncoded (segments (tokens s)) := fun t ht ↦ by
  rw [h.unescape_eq ht, h.uncoded t ht]

/-- **A text that is shown as it is.** -/
theorem IsIntact.shown_eq (hplain : IsPlain s) (h : IsIntact s) : shown s = s := by
  have hsame : (segments (tokens s)).flatMap unescape = s := by
    rw [List.flatMap_def, List.map_congr_left fun t ht ↦ h.unescape_eq ht, List.map_id',
      flatten_segments]
  rw [shown_of_isUncoded hplain h.isUncoded, if_neg h.closed, List.append_nil, hsame]

/-- A text that is shown as far as its characters go, before what does not begin with a backslash,
is shown as it is. -/
theorem isIntact_of_solid (hplain : IsPlain s) (hcodes : IsUncoded (segments (tokens s)))
    (hy : y.head? ≠ some '\\') (h : solid (shown s) ++ x = solid s ++ y) :
    IsIntact s ∧ x = y := by
  have hflat : solid s = solid (segments (tokens s)).flatten := by
    rw [flatten_segments]
  rw [shown_of_isUncoded hplain hcodes, solid_append, List.append_assoc, hflat] at h
  obtain ⟨hunescape, h⟩ := eq_of_solid_flatMap_unescape h
  have hclosed : ¬ EndsInOne s := by
    intro hends
    rw [if_pos hends] at h
    exact hy (by rw [← h]; rfl)
  rw [if_neg hclosed] at h
  refine ⟨⟨hclosed, fun t ht ↦ unescape_eq_self_iff.mp (hunescape t ht), fun t ht ↦ ?_⟩, h⟩
  rw [← hunescape t ht, hcodes t ht]

/-- In a text without two colons there are no codes. -/
theorem isIntact_of_colons (hcolons : colons s < 2) (hclosed : ¬ EndsInOne s)
    (hunescaped : ∀ t ∈ segments (tokens s), IsUnescaped t) : IsIntact s := by
  refine ⟨hclosed, hunescaped, fun t ht ↦ replaceEmoji_of_colons (Nat.lt_of_le_of_lt ?_ hcolons)⟩
  have hsub := List.sublist_flatten_of_mem ht
  rw [flatten_segments] at hsub
  exact hsub.count_le ':'

private theorem segments_map_char (s : List Char) : segments (s.map .char) = [s] := by
  induction s with
  | nil => rfl
  | cons c s ih => rw [List.map_cons, segments, ih, List.modifyHead_cons]

theorem isIntact_of_isQuiet (h : IsQuiet s) (hcolons : colons s < 2) : IsIntact s := by
  refine isIntact_of_colons hcolons (fun hends ↦ ?_) fun t ht ↦ ?_
  · exact (h '\\' (hends.1.subset List.mem_cons_self)).2 rfl
  · rw [tokens_of_isQuiet h, segments_map_char, List.mem_singleton] at ht
    rw [ht]
    exact isUnescaped_of_isQuiet h

end GatewayPrint.Markup
