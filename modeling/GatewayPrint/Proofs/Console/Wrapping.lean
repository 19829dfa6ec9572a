import GatewayPrint.Console.Message
import Mathlib.Data.List.Flatten
import Mathlib.Data.List.TakeWhile

/-!
# Wrapping loses nothing but white space

A message is laid out in lines, and what is beyond the width of the console is cut off. For text of
which every character takes one cell, nothing but white space is ever beyond it.

## The idea

Dividing a line keeps account of the piece it is filling. What it maintains is that all pieces so
far fit when the white space at their ends is left out, and that the account is right
(`Fills`, `IsFilled.add`). So the only thing that is dropped of a piece is white space
(`length_dropExcess`), and the cutting that follows finds nothing to cut.

For text of any kind it still holds that a console shows nothing that is not there, other than white
space (`solid_display_sublist`).
-/

namespace GatewayPrint

namespace Text

variable {c : Char} {s t : List Char} {limit : Nat}

/-- A text without spaces and line ends. -/
def solid (s : List Char) : List Char := s.filter fun c ↦ c ≠ ' ' && c ≠ '\n'

@[simp] theorem solid_append (s t : List Char) : solid (s ++ t) = solid s ++ solid t :=
  List.filter_append ..

private theorem solid_spaces (n : Nat) : solid (List.replicate n ' ') = [] := by
  simp [solid]

/-! ## Printable ASCII -/

def IsAscii (c : Char) : Prop := 0x20 ≤ c.toNat ∧ c.toNat < 0x7f

instance (c : Char) : Decidable (IsAscii c) := inferInstanceAs (Decidable (_ ∧ _))

/-- All characters are printable ones of ASCII. -/
def IsPlain (s : List Char) : Prop := ∀ c ∈ s, IsAscii c

-- Given by name, since a search through all characters would be found as well.
instance (s : List Char) : Decidable (IsPlain s) := List.decidableBAll IsAscii s

theorem IsPlain.cons (h : IsPlain (c :: s)) : IsAscii c ∧ IsPlain s := List.forall_mem_cons.mp h

theorem IsPlain.append (hs : IsPlain s) (ht : IsPlain t) : IsPlain (s ++ t) := by
  intro c hc
  rcases List.mem_append.mp hc with hc | hc
  · exact hs c hc
  · exact ht c hc

theorem IsPlain.of_sublist (h : IsPlain t) (hs : s.Sublist t) : IsPlain s := fun c hc ↦
  h c (hs.subset hc)

theorem IsAscii.ne (h : IsAscii c) {d : Char} (hd : ¬ IsAscii d) : c ≠ d := by
  rintro rfl
  exact hd h

theorem IsAscii.isBlank (h : IsAscii c) (hc : isBlank c = true) : c = ' ' := by
  obtain ⟨hlow, hhigh⟩ := h
  refine Char.ext (UInt32.toNat_inj.mp ?_)
  change c.toNat = 32
  simp only [Text.isBlank, Bool.or_eq_true, Bool.and_eq_true, decide_eq_true_eq, beq_iff_eq] at hc
  omega

theorem width_of_isPlain (h : IsPlain s) : width s = s.length := by
  induction s with
  | nil => rfl
  | cons c s ih =>
    obtain ⟨hc, hs⟩ := h.cons
    have hselector : emojiSelector ∉ c :: s := fun hmem ↦ (h _ hmem).ne (by decide) rfl
    rw [width_cons (hc.ne (by decide)) hselector, charWidth_ascii hc.1 hc.2, ih hs,
      List.length_cons, Nat.add_comm]

/-! ## Clusters -/

private theorem flatMap_attach (c : Char) (ks : List Cluster) :
    (Cluster.attach c ks).reverse.flatMap Cluster.text
      = ks.reverse.flatMap Cluster.text ++ [c] := by
  cases ks with
  | nil => rfl
  | cons k ks => simp [Cluster.attach]

private theorem flatMap_widen (ks : List Cluster) :
    (Cluster.widen ks).reverse.flatMap Cluster.text = ks.reverse.flatMap Cluster.text := by
  cases ks with
  | nil => rfl
  | cons k ks => simp [Cluster.widen]

private theorem flatMap_clustersRev (joined : Bool) (measured : Option Char) (ks : List Cluster)
    (s : List Char) :
    (clustersRev joined measured ks s).reverse.flatMap Cluster.text
      = ks.reverse.flatMap Cluster.text ++ s := by
  induction s generalizing joined measured ks with
  | nil => rw [clustersRev, List.append_nil]
  | cons c s ih =>
    have hattach := flatMap_attach c ks
    rw [clustersRev]
    split
    · rw [ih, hattach, List.append_assoc, List.singleton_append]
    · split
      · rw [ih, hattach, List.append_assoc, List.singleton_append]
      · split
        · split
          · rw [ih, flatMap_widen, hattach, List.append_assoc, List.singleton_append]
          · rw [ih, hattach, List.append_assoc, List.singleton_append]
        · split
          · rw [ih, hattach, List.append_assoc, List.singleton_append]
          · rw [ih]
            simp

private theorem flatMap_clusters (s : List Char) : (clusters s).flatMap Cluster.text = s :=
  flatMap_clustersRev false none [] s

private theorem clustersRev_of_isPlain (h : IsPlain s) (measured : Option Char)
    (ks : List Cluster) :
    clustersRev false measured ks s = (s.map fun c ↦ ⟨[c], 1⟩).reverse ++ ks := by
  induction s generalizing measured ks with
  | nil => rfl
  | cons c s ih =>
    obtain ⟨hc, hs⟩ := h.cons
    have hwidth := charWidth_ascii hc.1 hc.2
    rw [clustersRev, if_neg Bool.false_ne_true, if_neg (hc.ne (by decide)),
      if_neg (hc.ne (by decide)), if_neg (by omega), ih hs, hwidth]
    simp

private theorem clusters_of_isPlain (h : IsPlain s) : clusters s = s.map fun c ↦ ⟨[c], 1⟩ := by
  rw [clusters, clustersRev_of_isPlain h, List.append_nil, List.reverse_reverse]

/-! ## Cutting a text -/

/-- Fitting a text into cells adds nothing but spaces. -/
theorem solid_cropGo_sublist (limit size : Nat) (ks : List Cluster) :
    (solid (cropGo limit size ks)).Sublist (solid (ks.flatMap Cluster.text)) := by
  induction ks generalizing size with
  | nil => exact List.Sublist.refl _
  | cons k ks ih =>
    rw [cropGo, List.flatMap_cons, solid_append]
    split
    · rw [solid_append]
      exact (ih _).append_left _
    · split <;> exact List.nil_sublist _

theorem solid_fit_sublist (limit : Nat) (s : List Char) :
    (solid (fit limit s)).Sublist (solid s) := by
  rw [fit]
  split
  · exact List.nil_sublist _
  · split
    · simp [solid_spaces]
    · have h := solid_cropGo_sublist limit 0 (clusters s)
      rwa [flatMap_clusters] at h

/-- A piece that is not empty and takes no more cells than there are. -/
def IsShort (limit : Nat) (p : List Char) : Prop := p ≠ [] ∧ p.length ≤ limit

private theorem chopGo_of_isPlain (hlimit : 0 < limit) {line : List Char}
    (hline : line.length ≤ limit) (s : List Char) :
    (chopGo limit line line.length (s.map fun c ↦ ⟨[c], 1⟩)).flatten = line ++ s ∧
      ∀ p ∈ chopGo limit line line.length (s.map fun c ↦ ⟨[c], 1⟩), IsShort limit p := by
  induction s generalizing line with
  | nil =>
    rw [List.map_nil, chopGo]
    split
    · next h => simp [List.length_eq_zero_iff.mp h]
    · next h =>
      refine ⟨by simp, fun p hp ↦ ?_⟩
      rw [List.mem_singleton.mp hp]
      exact ⟨fun hnil ↦ h (by rw [hnil, List.length_nil]), hline⟩
  | cons c s ih =>
    rw [List.map_cons, chopGo]
    split
    · next hfull =>
      -- The line is full: it is handed out, and the character begins the next one.
      have hone : [c].length ≤ limit := hlimit
      obtain ⟨htext, hshort⟩ := ih hone
      refine ⟨?_, List.forall_mem_cons.mpr ⟨⟨?_, hline⟩, hshort⟩⟩
      · rw [List.flatten_cons]
        exact congrArg (line ++ ·) htext
      · rintro rfl
        simp only [List.length_nil] at hfull
        omega
    · next hroom =>
      have hlength : (line ++ [c]).length = line.length + 1 := List.length_append
      have hline' : (line ++ [c]).length ≤ limit := by
        rw [hlength]
        exact not_lt.mp hroom
      obtain ⟨htext, hshort⟩ := ih hline'
      rw [hlength] at htext hshort
      exact ⟨by rw [htext, List.append_assoc, List.singleton_append], hshort⟩

/-- A word that is too long is cut into short pieces. -/
theorem chop_of_isPlain (hlimit : 0 < limit) (h : IsPlain s) :
    (chop limit s).flatten = s ∧ ∀ p ∈ chop limit s, IsShort limit p := by
  rw [chop, clusters_of_isPlain h]
  exact chopGo_of_isPlain hlimit (List.length_nil.trans_le (Nat.zero_le limit)) s

end Text

namespace Wrap

open Text

variable {limit : Nat} {s t : List Char}

/-! ## White space at the end -/

theorem exists_trimEnd (s : List Char) :
    ∃ b, trimEnd s ++ b = s ∧ ∀ c ∈ b, isBlank c = true := by
  refine ⟨(s.reverse.takeWhile isBlank).reverse, ?_, fun c hc ↦ ?_⟩
  · rw [trimEnd, ← List.reverse_append, List.takeWhile_append_dropWhile, List.reverse_reverse]
  · exact List.mem_takeWhile_imp (List.mem_reverse.mp hc)

theorem trimEnd_sublist (s : List Char) : (trimEnd s).Sublist s := by
  obtain ⟨b, hb, -⟩ := exists_trimEnd s
  have h := List.sublist_append_left (trimEnd s) b
  rwa [hb] at h

private theorem trimEnd_append_of_isBlank (s : List Char) (h : ∀ c ∈ t, isBlank c = true) :
    trimEnd (s ++ t) = trimEnd s := by
  have hall : ∀ c ∈ t.reverse, isBlank c = true := fun c hc ↦ h c (List.mem_reverse.mp hc)
  rw [trimEnd, List.reverse_append, List.dropWhile_append_of_pos hall, trimEnd]

theorem length_trimEnd_append (s t : List Char) :
    (trimEnd (s ++ t)).length ≤ s.length + (trimEnd t).length := by
  rw [trimEnd, trimEnd, List.reverse_append, List.dropWhile_append]
  split
  · have h := (List.dropWhile_sublist isBlank (l := s.reverse)).length_le
    simp only [List.length_reverse] at h ⊢
    omega
  · simp only [List.length_reverse, List.length_append]
    omega

/-! ## Words -/

private theorem word?_eq_some {word rest : List Char} (h : word? s = some (word, rest)) :
    word ++ rest = s ∧ word ≠ [] := by
  rw [word?] at h
  dsimp only at h
  split at h
  · cases h
  · next hne =>
    obtain ⟨rfl, rfl⟩ := Prod.mk.inj (Option.some.inj h)
    refine ⟨?_, fun hnil ↦ hne ?_⟩
    · simp only [List.append_assoc, List.takeWhile_append_dropWhile]
    · -- What comes after the white space begins with a character of the word.
      simp only [List.append_eq_nil_iff] at hnil
      have hhead := List.head?_dropWhile_not isBlank s
      cases hrest : s.dropWhile isBlank with
      | nil => rfl
      | cons c rest =>
        rw [hrest] at hhead hnil
        simp only [List.head?_cons] at hhead
        rw [List.takeWhile_cons_of_pos (by simpa using hhead)] at hnil
        exact nomatch hnil.1.2

private theorem isBlank_of_word?_eq_none (h : word? s = none) {c : Char} (hc : c ∈ s) :
    isBlank c = true := by
  rw [word?] at h
  dsimp only at h
  split at h
  · next hnil => exact List.dropWhile_eq_nil_iff.mp (List.isEmpty_iff.mp hnil) c hc
  · cases h

/-- The words of a line are the line, unless it is white space. -/
theorem exists_flatten_words (s : List Char) :
    (∃ b, (words s).flatten ++ b = s ∧ ∀ c ∈ b, isBlank c = true) ∧
      ∀ word ∈ words s, word ≠ [] ∧ word.Sublist s := by
  fun_induction words s with
  | case1 s word rest h ih =>
    obtain ⟨rfl, hne⟩ := word?_eq_some h
    obtain ⟨⟨b, hb, hblank⟩, hwords⟩ := ih
    refine ⟨⟨b, by rw [List.flatten_cons, List.append_assoc, hb], hblank⟩, ?_⟩
    refine List.forall_mem_cons.mpr ⟨⟨hne, List.sublist_append_left ..⟩, fun w hw ↦ ?_⟩
    exact ⟨(hwords w hw).1, (hwords w hw).2.trans (List.sublist_append_right ..)⟩
  | case2 s h => exact ⟨⟨s, rfl, fun c hc ↦ isBlank_of_word?_eq_none h hc⟩, nofun⟩

/-! ## Dividing a line -/

/-- The places where pieces end, counted from `start` on. -/
def ends {α : Type} (start : Nat) : List (List α) → List Nat
  | [] => []
  | p :: ps => (start + p.length) :: ends (start + p.length) ps

private theorem ends_concat {α : Type} (start : Nat) (ps : List (List α)) (q : List α) :
    ends start (ps ++ [q]) = ends start ps ++ [start + (ps.flatten ++ q).length] := by
  induction ps generalizing start with
  | nil => rfl
  | cons p ps ih =>
    rw [List.cons_append, ends, ih, ends, List.cons_append]
    simp [Nat.add_assoc]

private theorem cutAt_ends {α : Type} (start : Nat) (ps : List (List α)) (q : List α) :
    cutAt start (ends start ps) (ps.flatten ++ q) = ps ++ [q] := by
  induction ps generalizing start with
  | nil => rfl
  | cons p ps ih =>
    rw [ends, cutAt, List.flatten_cons, List.append_assoc, Nat.add_sub_cancel_left,
      List.take_left, List.drop_left, ih, List.cons_append]

theorem map_cutAt {α β : Type} (f : α → β) (start : Nat) (places : List Nat) (xs : List α) :
    (cutAt start places xs).map (List.map f) = cutAt start places (xs.map f) := by
  induction places generalizing start xs with
  | nil => rfl
  | cons place places ih => rw [cutAt, cutAt, List.map_cons, ih, List.map_take, List.map_drop]

/-- A piece fits when the white space at its end is left out. -/
def Fits (limit : Nat) (s : List Char) : Prop := (trimEnd s).length ≤ limit

/-- The state of dividing after the text `done`: it is cut into the pieces `ps`, which are filled,
and the piece `q`, which is being filled. -/
structure Fills (limit : Nat) (done : List Char) (d : Division) (ps : List (List Char))
    (q : List Char) : Prop where
  text : ps.flatten ++ q = done
  breaks : d.breaks.reverse = ends 0 ps
  start : d.start = done.length
  size : d.size = q.length
  filled : ∀ p ∈ ps, p ≠ [] ∧ Fits limit p
  fits : Fits limit q
  first : q = [] → ps = []

/-- Dividing keeps its account right, and all pieces fit. -/
def IsFilled (limit : Nat) (done : List Char) (d : Division) : Prop :=
  ∃ ps q, Fills limit done d ps q

variable {done word : List Char} {d : Division}

theorem isFilled_nil (limit : Nat) : IsFilled limit [] ⟨[], 0, 0⟩ :=
  ⟨[], [], rfl, rfl, rfl, rfl, nofun, Nat.zero_le limit, fun _ ↦ rfl⟩

/-- Something is being filled only if something has been taken in. -/
theorem IsFilled.start_ne (h : IsFilled limit done d) (hsize : d.size ≠ 0) : d.start ≠ 0 := by
  obtain ⟨ps, q, h⟩ := h
  intro hstart
  have hdone : done = [] := List.length_eq_zero_iff.mp (h.start.symm.trans hstart)
  have hq : q = [] := (List.append_eq_nil_iff.mp (h.text.trans hdone)).2
  exact hsize (h.size.trans (by rw [hq, List.length_nil]))

/-- A word that fits goes into the piece that is being filled. -/
theorem IsFilled.extend (h : IsFilled limit done d) (hne : word ≠ [])
    (hfits : d.size + (trimEnd word).length ≤ limit) :
    IsFilled limit (done ++ word) ⟨d.breaks, d.start + word.length, d.size + word.length⟩ := by
  obtain ⟨ps, q, h⟩ := h
  refine ⟨ps, q ++ word, ?_, h.breaks, ?_, ?_, h.filled, ?_, fun hnil ↦ ?_⟩
  · rw [← List.append_assoc, h.text]
  · rw [List.length_append, ← h.start]
  · rw [List.length_append, ← h.size]
  · exact (length_trimEnd_append q word).trans (h.size ▸ hfits)
  · exact absurd (List.append_eq_nil_iff.mp hnil).2 hne

/-- A word that fits on a line of its own goes there. -/
theorem IsFilled.wrap (h : IsFilled limit done d) (hne : word ≠ []) (hfits : Fits limit word) :
    IsFilled limit (done ++ word)
      ⟨Division.breakAt d.start d.breaks, d.start + word.length, word.length⟩ := by
  obtain ⟨ps, q, h⟩ := h
  by_cases hstart : d.start = 0
  · -- Nothing has been taken in yet, so that there is nothing to break.
    have hdone : done = [] := List.length_eq_zero_iff.mp (h.start.symm.trans hstart)
    obtain ⟨hflat, rfl⟩ := List.append_eq_nil_iff.mp (h.text.trans hdone)
    obtain rfl := h.first rfl
    refine ⟨[], word, ?_, ?_, ?_, rfl, nofun, hfits, fun _ ↦ rfl⟩
    · rw [hdone, List.flatten_nil]
    · rw [Division.breakAt, if_pos hstart]
      exact h.breaks
    · rw [List.length_append, ← h.start]
  · have hq : q ≠ [] := by
      intro hq
      have htext := h.text
      rw [hq, h.first hq] at htext
      exact hstart (h.start.trans (by rw [← htext]; rfl))
    refine ⟨ps ++ [q], word, ?_, ?_, ?_, rfl, fun p hp ↦ ?_, hfits, fun hnil ↦ absurd hnil hne⟩
    · rw [List.flatten_append, List.flatten_singleton, h.text]
    · rw [Division.breakAt, if_neg hstart, List.reverse_cons, h.breaks, ends_concat, h.text,
        Nat.zero_add, h.start]
    · rw [List.length_append, ← h.start]
    · rcases List.mem_append.mp hp with hp | hp
      · exact h.filled p hp
      · rw [List.mem_singleton.mp hp]
        exact ⟨hq, h.fits⟩

/-- The pieces of a word go on lines of their own. -/
theorem IsFilled.fold {pieces : List (List Char)} (h : IsFilled limit done d)
    (hpieces : ∀ p ∈ pieces, IsShort limit p ∧ IsPlain p) :
    IsFilled limit (done ++ pieces.flatten)
      ⟨(Division.fold d.start d.size d.breaks pieces).1, d.start + pieces.flatten.length,
        (Division.fold d.start d.size d.breaks pieces).2⟩ := by
  induction pieces generalizing done d with
  | nil => simpa [Division.fold] using h
  | cons p pieces ih =>
    obtain ⟨⟨⟨hne, hshort⟩, hplain⟩, hrest⟩ := List.forall_mem_cons.mp hpieces
    have hnext := ih (h.wrap hne ((trimEnd_sublist p).length_le.trans hshort)) hrest
    rw [Division.fold, width_of_isPlain hplain, List.flatten_cons, ← List.append_assoc,
      List.length_append, ← Nat.add_assoc]
    exact hnext

/-- **Taking in a word** keeps the account right. -/
theorem IsFilled.add (hlimit : 0 < limit) (h : IsFilled limit done d) (hne : word ≠ [])
    (hword : IsPlain word) : IsFilled limit (done ++ word) (Division.add limit true d word) := by
  have htrim : IsPlain (trimEnd word) := hword.of_sublist (trimEnd_sublist word)
  rw [Division.add]
  dsimp only
  rw [width_of_isPlain htrim, width_of_isPlain hword]
  split
  · next hfits => exact h.extend hne hfits
  · next hfull =>
    split
    · rw [if_pos rfl]
      obtain ⟨htext, hshort⟩ := chop_of_isPlain hlimit hword
      have hpieces : ∀ p ∈ chop limit word, IsShort limit p ∧ IsPlain p := fun p hp ↦
        ⟨hshort p hp, hword.of_sublist (htext ▸ List.sublist_flatten_of_mem hp)⟩
      have hfold := h.fold hpieces
      rwa [htext] at hfold
    · next hfits =>
      have hsize : d.size ≠ 0 := by omega
      have hstart := h.start_ne hsize
      have hwrap := h.wrap hne (not_lt.mp hfits)
      rw [Division.breakAt, if_neg hstart] at hwrap
      rw [if_pos]
      · exact hwrap
      · simp [hsize, hstart]

private theorem isFilled_foldl (hlimit : 0 < limit) {ws : List (List Char)}
    (h : IsFilled limit done d) (hws : ∀ word ∈ ws, word ≠ [] ∧ IsPlain word) :
    IsFilled limit (done ++ ws.flatten) (ws.foldl (Division.add limit true) d) := by
  induction ws generalizing done d with
  | nil => simpa using h
  | cons word ws ih =>
    obtain ⟨⟨hne, hword⟩, hrest⟩ := List.forall_mem_cons.mp hws
    rw [List.foldl_cons, List.flatten_cons, ← List.append_assoc]
    exact ih (h.add hlimit hne hword) hrest

theorem isPlain_of_mem_divide {line p : Styled} (hline : IsPlain line.text)
    (hp : p ∈ divide limit true line) : IsPlain p.text := by
  have hsub := List.sublist_flatten_of_mem hp
  rw [flatten_divide] at hsub
  exact hline.of_sublist (hsub.map Glyph.char)

/-- **All pieces of a divided line fit**, when the white space at their ends is left out. -/
theorem fits_of_mem_divide (hlimit : 0 < limit) {line p : Styled} (hline : IsPlain line.text)
    (hp : p ∈ divide limit true line) : Fits limit p.text := by
  obtain ⟨⟨b, htext, hblank⟩, hwords⟩ := exists_flatten_words line.text
  have hplain : ∀ word ∈ words line.text, word ≠ [] ∧ IsPlain word := fun word hw ↦
    ⟨(hwords word hw).1, hline.of_sublist (hwords word hw).2⟩
  obtain ⟨ps, q, h⟩ := isFilled_foldl hlimit (isFilled_nil limit) hplain
  have hline : line.text = ps.flatten ++ (q ++ b) := by
    rw [← List.append_assoc, h.text]
    exact htext.symm
  have hcut : (divide limit true line).map Styled.text = ps ++ [q ++ b] := by
    calc (divide limit true line).map Styled.text
        = cutAt 0 (breaks limit true line.text) line.text := map_cutAt ..
      _ = cutAt 0 (ends 0 ps) (ps.flatten ++ (q ++ b)) := by rw [breaks, h.breaks, ← hline]
      _ = ps ++ [q ++ b] := cutAt_ends ..
  have hmem : p.text ∈ ps ++ [q ++ b] := hcut ▸ List.mem_map_of_mem hp
  rcases List.mem_append.mp hmem with hmem | hmem
  · exact (h.filled _ hmem).2
  · rw [List.mem_singleton.mp hmem, Fits, trimEnd_append_of_isBlank q hblank]
    exact h.fits

/-! ## Cutting off what is beyond the width -/

theorem solid_of_isBlank {b : List Char} (hb : IsPlain b) (h : ∀ c ∈ b, isBlank c = true) :
    solid b = [] := by
  rw [solid, List.filter_eq_nil_iff]
  intro c hc
  rw [(hb c hc).isBlank (h c hc)]
  decide

theorem text_take (line : Styled) (n : Nat) : Styled.text (line.take n) = line.text.take n :=
  List.map_take ..

theorem length_text (line : Styled) : line.text.length = line.length := List.length_map ..

variable {line : Styled}

theorem text_dropExcess_sublist (limit : Nat) (line : Styled) :
    (dropExcess limit line).text.Sublist line.text := by
  rw [dropExcess, text_take]
  exact List.take_sublist ..

/-- A piece that fits is short enough when the white space beyond the limit is dropped. -/
theorem length_dropExcess (h : Fits limit line.text) : (dropExcess limit line).length ≤ limit := by
  have htrim := (trimEnd_sublist line.text).length_le
  rw [length_text] at htrim
  rw [dropExcess, List.length_take]
  rw [Fits] at h
  omega

/-- Nothing but white space is dropped. -/
theorem solid_dropExcess (hplain : IsPlain line.text) (limit : Nat) :
    solid (dropExcess limit line).text = solid line.text := by
  obtain ⟨b, hb, hblank⟩ := exists_trimEnd line.text
  have hb' : IsPlain b := by
    rw [← hb] at hplain
    exact hplain.of_sublist (List.sublist_append_right ..)
  have hlength : line.length = (trimEnd line.text).length + b.length := by
    rw [← length_text, ← List.length_append, hb]
  -- What is kept goes at least as far as the text without the white space at its end.
  obtain ⟨n, hn⟩ : ∃ n, (dropExcess limit line).text = trimEnd line.text ++ b.take n := by
    have htake := fun n ↦ congrArg (List.take n) hb.symm
    rw [dropExcess, text_take, htake, List.take_append, List.take_of_length_le (by omega)]
    exact ⟨_, rfl⟩
  have htake : solid (b.take n) = [] :=
    solid_of_isBlank (hb'.of_sublist (List.take_sublist ..)) fun c hc ↦
      hblank c ((List.take_sublist ..).subset hc)
  calc solid (dropExcess limit line).text
      = solid (trimEnd line.text ++ b.take n) := congrArg solid hn
    _ = solid (trimEnd line.text ++ b) := by
      rw [solid_append, htake, solid_append, solid_of_isBlank hb' hblank]
    _ = solid line.text := congrArg solid hb

private theorem solid_truncate_sublist (limit : Nat) (line : Styled) :
    (solid (truncate limit .fold line).text).Sublist (solid line.text) := by
  rw [truncate]
  split
  · exact List.Sublist.refl _
  · rw [Styled.text_setText]
    exact solid_fit_sublist limit line.text

private theorem truncate_of_isPlain (hplain : IsPlain line.text) (h : line.length ≤ limit) :
    truncate limit .fold line = line := by
  rw [truncate, if_pos]
  rw [Styled.width, width_of_isPlain hplain, length_text]
  exact h

theorem lines_eq (limit : Nat) (h : ∀ c ∈ line.text, c ≠ '\n' ∧ c ≠ '\t') :
    lines limit .fold .natural line
      = (divide limit true line).map fun p ↦ truncate limit .fold (dropExcess limit p) := by
  have hbreaks : ∀ g ∈ line, decide (g.char = '\n') = false := fun g hg ↦
    decide_eq_false (h g.char (List.mem_map_of_mem hg)).1
  have htabs : line.text.contains '\t' = false := by
    rw [List.contains_eq_mem, decide_eq_false_iff_not]
    exact fun hmem ↦ (h _ hmem).2 rfl
  rw [lines, List.splitOnP_eq_singleton hbreaks, List.flatMap_singleton, expandTabs]
  simp only [htabs]
  rfl

end Wrap

namespace Console

open Text Wrap

variable {markup : List Char} {width : Nat} {line : Styled}

private theorem solid_cut_sublist (limit size : Nat) (ps : Pieces) :
    (solid (ps.cut limit size).flatten).Sublist (solid ps.flatten) := by
  induction ps generalizing size with
  | nil => exact List.Sublist.refl _
  | cons p ps ih =>
    rw [Pieces.cut, List.flatten_cons, solid_append]
    split
    · rw [List.flatten_cons, solid_append]
      exact (ih _).append_left _
    · rw [List.flatten_singleton]
      exact (solid_fit_sublist _ p).trans (List.sublist_append_left ..)

theorem solid_lineText_sublist (width : Nat) (line : Styled) :
    (solid (lineText width line.pieces)).Sublist (solid line.text) := by
  have hend : solid ['\n'] = [] := by decide
  rw [lineText, solid_append, hend, List.append_nil, ← Styled.flatten_pieces, Pieces.crop]
  split
  · exact solid_cut_sublist ..
  · exact List.Sublist.refl _

private theorem width_of_isPlain_flatten {ps : Pieces} (h : IsPlain ps.flatten) :
    ps.width = ps.flatten.length := by
  induction ps with
  | nil => rfl
  | cons p ps ih =>
    rw [List.flatten_cons] at h
    have hp := h.of_sublist (List.sublist_append_left ..)
    have hps := ih (h.of_sublist (List.sublist_append_right ..))
    rw [List.flatten_cons, List.length_append, ← hps, ← width_of_isPlain hp]
    rfl

private theorem lineText_of_isPlain (hplain : IsPlain line.text) (h : line.length ≤ width) :
    lineText width line.pieces = line.text ++ ['\n'] := by
  have hwidth : Pieces.width line.pieces ≤ width := by
    rw [width_of_isPlain_flatten (by rwa [Styled.flatten_pieces]), Styled.flatten_pieces,
      length_text]
    exact h
  rw [lineText, Pieces.crop_of_le hwidth, Styled.flatten_pieces]

/-- What a console shows of a piece of a line. -/
def shownPiece (width : Nat) (p : Styled) : List Char :=
  lineText width (truncate width .fold (dropExcess width p)).pieces

private theorem solid_shownPiece_sublist (width : Nat) (p : Styled) :
    (solid (shownPiece width p)).Sublist (solid p.text) :=
  (solid_lineText_sublist ..).trans <|
    (solid_truncate_sublist ..).trans ((text_dropExcess_sublist ..).filter _)

private theorem solid_shownPiece {p : Styled} (hplain : IsPlain p.text) (h : Fits width p.text) :
    solid (shownPiece width p) = solid p.text := by
  have hplain' := hplain.of_sublist (text_dropExcess_sublist width p)
  have hlength := length_dropExcess h
  have hend : solid ['\n'] = [] := by decide
  rw [shownPiece, truncate_of_isPlain hplain' hlength, lineText_of_isPlain hplain' hlength,
    solid_append, hend, List.append_nil, solid_dropExcess hplain]

theorem solid_shownPiece_zero {p : Styled} (hplain : IsPlain p.text) :
    solid (shownPiece 0 p) = [] := by
  have hplain' := hplain.of_sublist (text_dropExcess_sublist 0 p)
  have hnil : (truncate 0 .fold (dropExcess 0 p)).text = [] := by
    rw [truncate]
    split
    · next h =>
      rw [Styled.width, width_of_isPlain hplain'] at h
      exact List.length_eq_zero_iff.mp (Nat.le_zero.mp h)
    · exact Styled.text_setText ..
  have h := solid_lineText_sublist 0 (truncate 0 .fold (dropExcess 0 p))
  rw [hnil] at h
  exact List.sublist_nil.mp h

/-- All characters stand on one line. -/
def IsLine (s : List Char) : Prop := ∀ c ∈ s, c ≠ '\n' ∧ c ≠ '\t'

theorem isLine_of_isPlain {s : List Char} (h : IsPlain s) : IsLine s := fun c hc ↦
  ⟨(h c hc).ne (by decide), (h c hc).ne (by decide)⟩

theorem solid_display_eq (h : IsLine (Markup.plain markup)) (width : Nat) :
    solid (display width markup)
      = (divide width true (styled markup)).flatMap fun p ↦ solid (shownPiece width p) := by
  have htext : (styled markup).text = Markup.plain markup := Styled.text_mark ..
  rw [display, lines_eq width (by rwa [htext]), List.flatMap_map, solid, List.filter_flatMap]
  rfl

theorem solid_plain_eq (width : Nat) (markup : List Char) :
    solid (Markup.plain markup)
      = (divide width true (styled markup)).flatMap fun p ↦ solid p.text := by
  have htext : (styled markup).text = Markup.plain markup := Styled.text_mark ..
  have hflat : (divide width true (styled markup)).flatMap Styled.text
      = (styled markup).text := by
    have h := congrArg Styled.text (flatten_divide width true (styled markup))
    rwa [Styled.text, List.map_flatten, ← List.flatMap_def] at h
  rw [← htext, ← hflat, solid, List.filter_flatMap]
  rfl

/-- **A console shows nothing that is not there**, other than white space. -/
theorem solid_display_sublist (h : IsLine (Markup.plain markup)) (width : Nat) :
    (solid (display width markup)).Sublist (solid (Markup.plain markup)) := by
  rw [solid_display_eq h, solid_plain_eq width]
  exact List.Sublist.flatMap_right _ fun p _ ↦ solid_shownPiece_sublist width p

/-- **Wrapping loses nothing** of plain text but white space. -/
theorem solid_display (hwidth : 0 < width) (h : IsPlain (Markup.plain markup)) :
    solid (display width markup) = solid (Markup.plain markup) := by
  have htext : (styled markup).text = Markup.plain markup := Styled.text_mark ..
  rw [solid_display_eq (isLine_of_isPlain h), solid_plain_eq width, List.flatMap_def,
    List.flatMap_def]
  refine congrArg List.flatten (List.map_congr_left fun p hp ↦ ?_)
  rw [← htext] at h
  exact solid_shownPiece (isPlain_of_mem_divide h hp) (fits_of_mem_divide hwidth h hp)

/-- A console without cells shows nothing of plain text. -/
theorem solid_display_zero (h : IsPlain (Markup.plain markup)) : solid (display 0 markup) = [] := by
  have htext : (styled markup).text = Markup.plain markup := Styled.text_mark ..
  rw [solid_display_eq (isLine_of_isPlain h), List.flatMap_eq_nil_iff]
  rw [← htext] at h
  exact fun p hp ↦ solid_shownPiece_zero (isPlain_of_mem_divide h hp)

end Console

end GatewayPrint
