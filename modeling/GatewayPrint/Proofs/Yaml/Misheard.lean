import GatewayPrint.Proofs.Sorting
import GatewayPrint.Proofs.Yaml.Faithful
import Mathlib.Data.List.Forall2
import Mathlib.Data.List.Perm.Basic

/-!
# Data that are misheard

Data that are not heard as they are, are heard as data with other texts, and not just in another
order (`keeps_of_spoken`). Entries that are heard with one key make fewer texts; a text between
single quotes that is misheard loses next line characters, which no text gains; and a text between
double quotes that is misheard gains characters.
-/

namespace GatewayPrint.Yaml

variable {v w : Value} {xs : List Value} {es fs : List (Value × Value)} {n : Nat}
  {ss us : List (List Char)} {ts as : List PlacedText}

/-! ## The texts of a value -/

def spokenKey : Value → List (List Char)
  | .text s => [s.toList]
  | _ => []

mutual

/-- The texts of a value, keys among them. -/
def spoken : Value → List (List Char)
  | .text s => [s.toList]
  | .list xs => spokenItems xs
  | .map es => spokenEntries es
  | _ => []

def spokenItems : List Value → List (List Char)
  | [] => []
  | x :: xs => spoken x ++ spokenItems xs

def spokenEntries : List (Value × Value) → List (List Char)
  | [] => []
  | (k, v) :: es => spokenKey k ++ (spoken v ++ spokenEntries es)

end

theorem spokenEntries_eq (es : List (Value × Value)) :
    spokenEntries es = es.flatMap fun e ↦ spokenKey e.1 ++ spoken e.2 := by
  induction es with
  | nil => rfl
  | cons e es ih => rw [spokenEntries, ih, List.flatMap_cons, List.append_assoc]

theorem spokenEntries_append (es fs : List (Value × Value)) :
    spokenEntries (es ++ fs) = spokenEntries es ++ spokenEntries fs := by
  rw [spokenEntries_eq, List.flatMap_append, ← spokenEntries_eq, ← spokenEntries_eq]

private theorem perm_spokenItems {ys : List Value}
    (h : List.Forall₂ (fun x y ↦ (spoken x).Perm (spoken y)) xs ys) :
    (spokenItems xs).Perm (spokenItems ys) := by
  induction h with
  | nil => exact .refl _
  | cons hx _ ih => exact hx.append ih

private theorem perm_spokenEntries (hkeys : es.map Prod.fst = fs.map Prod.fst)
    (h : List.Forall₂ (fun e f ↦ (spoken e.2).Perm (spoken f.2)) es fs) :
    (spokenEntries es).Perm (spokenEntries fs) := by
  induction h with
  | nil => exact .refl _
  | @cons e f es fs he _ ih =>
    obtain ⟨hkey, hkeys⟩ := List.cons.inj hkeys
    have hfirst : (spokenKey e.1 ++ (spoken e.2 ++ spokenEntries es)).Perm
        (spokenKey f.1 ++ (spoken f.2 ++ spokenEntries fs)) := by
      rw [hkey]
      exact (he.append (ih hkeys)).append_left _
    exact hfirst

/-- Reordered values have the same texts, in any order. -/
theorem perm_of_reorders (h : v.Reorders w) : (spoken v).Perm (spoken w) := by
  induction h with
  | refl => exact .refl _
  | list hlen _ ih => exact perm_spokenItems (List.forall₂_iff_zip.mpr ⟨hlen, fun hp ↦ ih _ hp⟩)
  | @map es fs gs hkeys _ hperm ih =>
    -- The values change where they stand, and only then do the entries move.
    have hlen : es.length = fs.length := by
      rw [← List.length_map Prod.fst, hkeys, List.length_map]
    have hreordered := perm_spokenEntries hkeys
      (List.forall₂_iff_zip.mpr ⟨hlen, fun hp ↦ ih _ hp⟩)
    have hmoved : (spokenEntries fs).Perm (spokenEntries gs) := by
      rw [spokenEntries_eq, spokenEntries_eq]
      exact hperm.flatMap_right _
    exact hreordered.trans hmoved

/-! ## The texts that are heard -/

/-- No more texts are heard than are written, and if as many are heard, they are what is heard of
the texts. -/
def Hears (ss : List (List Char)) (ts : List PlacedText) : Prop :=
  ss.length ≤ ts.length ∧ (ss.length = ts.length → ss = ts.map PlacedText.heard)

theorem hears_nil : Hears [] [] := ⟨Nat.le_refl _, fun _ ↦ rfl⟩

theorem Hears.append (h : Hears ss ts) (h' : Hears us as) : Hears (ss ++ us) (ts ++ as) := by
  obtain ⟨hle, heq⟩ := h
  obtain ⟨hle', heq'⟩ := h'
  rw [Hears, List.length_append, List.length_append]
  refine ⟨Nat.add_le_add hle hle', fun hlen ↦ ?_⟩
  rw [heq (by omega), heq' (by omega), List.map_append]

theorem hears_placed (key : Bool) (s : String) :
    Hears [(String.ofList (placed n key s).heard).toList] [placed n key s] :=
  ⟨Nat.le_refl _, fun _ ↦ by rw [String.toList_ofList]; rfl⟩

/-- An entry that replaces another one makes fewer texts. -/
theorem insert_cases (s : String) (v : Value) (es : List (Value × Value)) :
    Value.insert (.text s) v es = es ++ [(.text s, v)] ∨
      (spokenEntries (Value.insert (.text s) v es)).length
        < (spokenEntries (es ++ [(.text s, v)])).length := by
  induction es with
  | nil => exact .inl rfl
  | cons e rest ih =>
    obtain ⟨k, u⟩ := e
    rw [Value.insert]
    split
    · next hsame =>
      have hkey : k = .text s := Value.same_text.mp hsame
      subst hkey
      refine .inr ?_
      simp only [spokenEntries_append, spokenEntries, spokenKey, List.length_append,
        List.length_cons, List.length_nil, List.cons_append]
      omega
    · refine ih.imp (fun h ↦ congrArg ((k, u) :: ·) h) fun h ↦ ?_
      simp only [List.cons_append, spokenEntries, List.length_append] at h ⊢
      omega

theorem foldl_insert_cases (hkeys : Value.TextKeys es) (done : List (Value × Value)) :
    es.foldl (fun done e ↦ Value.insert e.1 e.2 done) done = done ++ es ∨
      (spokenEntries (es.foldl (fun done e ↦ Value.insert e.1 e.2 done) done)).length
        < (spokenEntries (done ++ es)).length := by
  induction es generalizing done with
  | nil => exact .inl (List.append_nil done).symm
  | cons e es ih =>
    obtain ⟨k, v⟩ := e
    obtain ⟨s, rfl⟩ : ∃ s, k = .text s := hkeys (k, v) List.mem_cons_self
    have hrest := ih (fun f hf ↦ hkeys f (List.mem_cons_of_mem _ hf))
      (Value.insert (.text s) v done)
    rw [List.foldl_cons, List.append_cons]
    dsimp only
    -- Once an entry has replaced another one, no later entry makes up for it.
    rcases insert_cases s v done with hnew | hold
    · rwa [hnew] at hrest ⊢
    · refine .inr ?_
      rw [spokenEntries_append, List.length_append] at hrest ⊢
      rcases hrest with heq | hlt
      · rw [heq, spokenEntries_append, List.length_append]
        omega
      · omega

/-- Entries of which some replace others make fewer texts. -/
theorem Hears.collect (hkeys : Value.TextKeys es) (h : Hears (spokenEntries es) ts) :
    Hears (spokenEntries (Value.collect es)) ts := by
  rcases foldl_insert_cases hkeys [] with heq | hlt
  · have hcollect : Value.collect es = es := heq
    rwa [hcollect]
  · have hfewer : (spokenEntries (Value.collect es)).length < (spokenEntries es).length := hlt
    have hle := h.1
    exact ⟨by omega, fun hlen ↦ absurd hlen (by omega)⟩

theorem textKeys_heardEntries (hkeys : Value.TextKeys es) :
    Value.TextKeys (heardEntries n es) := by
  induction es with
  | nil => exact fun e he ↦ absurd he List.not_mem_nil
  | cons e es ih =>
    obtain ⟨k, v⟩ := e
    obtain ⟨s, rfl⟩ : ∃ s, k = .text s := hkeys (k, v) List.mem_cons_self
    intro f hf
    rw [heardEntries] at hf
    rcases List.mem_cons.mp hf with rfl | hf
    · exact ⟨_, rfl⟩
    · exact ih (fun f hf ↦ hkeys f (List.mem_cons_of_mem _ hf)) f hf

/-- A value of which no more texts are heard than it has. -/
def IsHeard (v : Value) : Prop := ∀ n inline, Hears (spoken (heard n inline v)) (textsOf n inline v)

private theorem hears_items (h : ∀ x ∈ xs, IsHeard x) :
    Hears (spokenItems (heardItems n xs)) (itemTexts n xs) := by
  induction xs with
  | nil => exact hears_nil
  | cons x xs ih =>
    exact (h x List.mem_cons_self n false).append (ih fun y hy ↦ h y (List.mem_cons_of_mem x hy))

theorem hears_entries (hkeys : Value.TextKeys es) (h : ∀ e ∈ es, IsHeard e.2) :
    Hears (spokenEntries (heardEntries n es)) (entryTexts n es) := by
  induction es with
  | nil => exact hears_nil
  | cons e es ih =>
    obtain ⟨k, v⟩ := e
    obtain ⟨s, rfl⟩ : ∃ s, k = .text s := hkeys (k, v) List.mem_cons_self
    have hv := h (.text s, v) List.mem_cons_self n (isOnLine (.text s))
    have hes := ih (fun f hf ↦ hkeys f (List.mem_cons_of_mem _ hf))
      fun f hf ↦ h f (List.mem_cons_of_mem _ hf)
    rw [heardEntries, entryTexts]
    exact (hears_placed true s).append (hv.append hes)

/-- No more texts are heard of plain data than they have. -/
theorem isHeard (h : Printable v) : IsHeard v := by
  induction h with
  | null | bool | int => exact fun n inline ↦ hears_nil
  | text => exact fun n inline ↦ hears_placed false _
  | list _ ih => exact fun n inline ↦ hears_items ih
  | map hkeys _ _ ih =>
    intro n inline
    have htexts := textKeys_of_keys hkeys
    exact (hears_entries htexts ih).collect (textKeys_heardEntries htexts)

/-! ## The texts that are written -/

/-- A value whose texts are written, wherever it stands. -/
def IsSpoken (v : Value) : Prop :=
  ∀ n inline, (textsOf n inline v).map PlacedText.chars = spoken v

theorem chars_itemTexts (h : ∀ x ∈ xs, IsSpoken x) :
    (itemTexts n xs).map PlacedText.chars = spokenItems xs := by
  induction xs with
  | nil => rfl
  | cons x xs ih =>
    rw [itemTexts, spokenItems, List.map_append, h x List.mem_cons_self n false,
      ih fun y hy ↦ h y (List.mem_cons_of_mem x hy)]

theorem chars_entryTexts (hkeys : Value.TextKeys es) (h : ∀ e ∈ es, IsSpoken e.2) :
    (entryTexts n es).map PlacedText.chars = spokenEntries es := by
  induction es with
  | nil => rfl
  | cons e es ih =>
    obtain ⟨k, v⟩ := e
    obtain ⟨s, rfl⟩ : ∃ s, k = .text s := hkeys (k, v) List.mem_cons_self
    have hv := h (.text s, v) List.mem_cons_self n (isOnLine (.text s))
    have hes := ih (fun f hf ↦ hkeys f (List.mem_cons_of_mem _ hf))
      fun f hf ↦ h f (List.mem_cons_of_mem _ hf)
    rw [entryTexts, spokenEntries, List.map_cons, List.map_append, hv, hes]
    rfl

private theorem isSpoken (h : Printable v) : IsSpoken v := by
  induction h with
  | null | bool | int | text => exact fun n inline ↦ rfl
  | list _ ih => exact fun n inline ↦ chars_itemTexts ih
  | map hkeys _ _ ih =>
    exact fun n inline ↦ chars_entryTexts (textKeys_of_keys hkeys) ih

/-! ## Texts that are misheard -/

/-- The next line characters of a text. -/
def nextLines (s : List Char) : List Char := s.filter (· = '\u0085')

theorem nextLines_eq_nil {s : List Char} (h : '\u0085' ∉ s) : nextLines s = [] := by
  refine List.filter_eq_nil_iff.mpr fun c hc heq ↦ h ?_
  rwa [← of_decide_eq_true heq]

private theorem nextLines_heardDouble (deep first : Bool) (s : List Char) :
    nextLines (Pen.heardDouble deep first s) = nextLines s := by
  induction s generalizing first with
  | nil => rfl
  | cons c s ih =>
    -- What a second fold adds is a backslash and a space, and neither is a next line character.
    have hcons : ∀ {l : List Char}, nextLines l = nextLines s →
        nextLines (c :: l) = nextLines (c :: s) := by
      intro l hl
      rw [nextLines, List.filter_cons, ← nextLines, hl, nextLines, nextLines, List.filter_cons]
    rw [Pen.heardDouble]
    split
    · exact hcons (ih false)
    · exact hcons (ih false)

private theorem heardDouble_eq_or (deep first : Bool) (s : List Char) :
    Pen.heardDouble deep first s = s ∨ s.length < (Pen.heardDouble deep first s).length := by
  induction s generalizing first with
  | nil => exact .inl rfl
  | cons c s ih =>
    rw [Pen.heardDouble]
    split
    · refine .inr ?_
      rcases ih false with h | h
      · rw [h]
        simp only [List.length_cons]
        omega
      · simp only [List.length_cons]
        omega
    · exact (ih false).imp (congrArg (c :: ·)) Nat.succ_lt_succ

/-- A text that is misheard has lost next line characters or gained others. -/
theorem misheard_cases (t : PlacedText) : t.heard = t.chars ∨
    ('\u0085' ∈ t.chars ∧ '\u0085' ∉ t.heard) ∨
      (nextLines t.heard = nextLines t.chars ∧ t.chars.length < t.heard.length) := by
  cases hline : t.onLine with
  | true => exact .inl (heard_of_onLine hline)
  | false =>
    rw [heard_of_not_onLine hline, Tree.heardText]
    cases Tree.styleOf false .text t.chars false with
    | plain => exact .inl rfl
    | literal => exact .inl rfl
    | single =>
      by_cases hnel : '\u0085' ∈ t.chars
      · exact .inr (.inl ⟨hnel, Pen.not_mem_heardSingle _⟩)
      · exact .inl (Pen.heardSingle_eq_iff.mpr hnel)
    | double =>
      exact (heardDouble_eq_or t.deep true t.chars).imp id fun h ↦
        .inr ⟨nextLines_heardDouble _ _ _, h⟩

section Measure

variable {f g : PlacedText → List Char}

theorem length_flatMap_le (h : ∀ t ∈ ts, (f t).length ≤ (g t).length) :
    (ts.flatMap f).length ≤ (ts.flatMap g).length := by
  induction ts with
  | nil => exact Nat.le_refl _
  | cons t ts ih =>
    rw [List.flatMap_cons, List.flatMap_cons, List.length_append, List.length_append]
    exact Nat.add_le_add (h t List.mem_cons_self) (ih fun u hu ↦ h u (List.mem_cons_of_mem t hu))

/-- Parts that are no longer than others make up as much only if each of them is as long. -/
theorem length_eq_of_flatMap (h : ∀ t ∈ ts, (f t).length ≤ (g t).length)
    (hlen : (ts.flatMap f).length = (ts.flatMap g).length) :
    ∀ t ∈ ts, (f t).length = (g t).length := by
  induction ts with
  | nil => exact fun t ht ↦ absurd ht List.not_mem_nil
  | cons t ts ih =>
    have hrest : ∀ u ∈ ts, (f u).length ≤ (g u).length := fun u hu ↦
      h u (List.mem_cons_of_mem t hu)
    have hfirst := h t List.mem_cons_self
    have hle := length_flatMap_le hrest
    rw [List.flatMap_cons, List.flatMap_cons, List.length_append, List.length_append] at hlen
    intro u hu
    rcases List.mem_cons.mp hu with rfl | hu
    · omega
    · exact ih hrest (by omega) u hu

end Measure

/-- **Texts that are heard as the same texts**, in any order, are heard as they are. -/
theorem keeps_of_perm (h : (ts.map PlacedText.heard).Perm (ts.map PlacedText.chars)) :
    Keeps ts := by
  have hmeasure : ∀ f : List Char → List Char, (ts.flatMap fun t ↦ f t.heard).length
      = (ts.flatMap fun t ↦ f t.chars).length := by
    intro f
    have hflat := h.flatMap_right f
    rw [List.flatMap_map, List.flatMap_map] at hflat
    exact hflat.length_eq
  -- No text gains next line characters, so none loses any.
  have hlines : ∀ t ∈ ts, (nextLines t.heard).length = (nextLines t.chars).length := by
    refine length_eq_of_flatMap (fun t _ ↦ ?_) (hmeasure nextLines)
    rcases misheard_cases t with heq | ⟨-, hnot⟩ | ⟨heq, -⟩
    · rw [heq]
    · rw [nextLines_eq_nil hnot]
      exact Nat.zero_le _
    · rw [heq]
  have hcases : ∀ t ∈ ts, t.heard = t.chars ∨ t.chars.length < t.heard.length := by
    intro t ht
    rcases misheard_cases t with heq | ⟨hmem, hnot⟩ | ⟨-, hlt⟩
    · exact .inl heq
    · have hline : '\u0085' ∈ nextLines t.chars := List.mem_filter.mpr ⟨hmem, rfl⟩
      have hlen := hlines t ht
      rw [nextLines_eq_nil hnot] at hlen
      exact absurd hlen (Nat.ne_of_lt (List.length_pos_of_mem hline))
    · exact .inr hlt
  -- So no text loses characters, and none gains any.
  have hlengths : ∀ t ∈ ts, t.chars.length = t.heard.length := by
    refine length_eq_of_flatMap (fun t ht ↦ ?_) (hmeasure id).symm
    rcases hcases t ht with heq | hlt
    · rw [heq]
    · exact Nat.le_of_lt hlt
  intro t ht
  rw [← PlacedText.heard_eq_iff]
  rcases hcases t ht with heq | hlt
  · exact heq
  · exact absurd (hlengths t ht) (Nat.ne_of_lt hlt)

/-- **Entries that are heard as the same texts**, in any order, are heard as they are. -/
theorem keeps_of_spoken (h : Printable (.map es))
    (hperm : (spokenEntries (Value.collect (heardEntries n es))).Perm (spokenEntries es)) :
    Keeps (entryTexts n es) := by
  cases h with
  | map hkeys hnodup h =>
    have htexts := textKeys_of_keys hkeys
    have hchars := chars_entryTexts (n := n) htexts fun e he ↦ isSpoken (h e he)
    obtain ⟨-, hheard⟩ := (hears_entries (n := n) htexts fun e he ↦ isHeard (h e he)).collect
      (textKeys_heardEntries htexts)
    have hlen : (spokenEntries (Value.collect (heardEntries n es))).length
        = (entryTexts n es).length := by
      rw [hperm.length_eq, ← hchars, List.length_map]
    rw [hheard hlen, ← hchars] at hperm
    exact keeps_of_perm hperm

end GatewayPrint.Yaml
