import GatewayPrint.Proofs.Yaml.Heard

/-!
# Data that are heard as they are

A text is heard as it is just where it is kept (`PlacedText.heard_eq_iff`): between single quotes a
next line character is never heard, and between double quotes what a second fold adds is never taken
away. So plain data are heard as they are if all their texts are kept (`heardIfKept`).
-/

namespace GatewayPrint.Yaml

variable {s cs : List Char} {n : Nat} {deep first inline : Bool} {v : Value} {xs : List Value}
  {es : List (Value × Value)}

/-! ## Texts -/

namespace Pen

theorem heardBreak_ne (c : Char) : heardBreak c ≠ '\u0085' := by
  rw [heardBreak]
  split
  · decide
  · assumption

theorem map_heardBreak (h : ∀ c ∈ cs, c ≠ '\u0085') : cs.map heardBreak = cs :=
  (List.map_congr_left fun c hc ↦ if_neg (h c hc)).trans (List.map_id cs)

/-- Line breaks other than next line characters are heard as they are. -/
theorem heardBreaks_eq (h : ∀ c ∈ cs, c ≠ '\u0085') : heardBreaks cs = cs := by
  cases cs with
  | nil => rfl
  | cons b bs =>
    by_cases hn : b = '\n'
    · subst hn
      -- A leading line feed is written twice, and the two are folded to one.
      change foldBreaks ['\n'] (('\n' :: bs).map heardBreak) = '\n' :: bs
      rw [map_heardBreak h]
      rfl
    · have hwritten : writtenBreaks (b :: bs) = b :: bs :=
        if_neg fun heq ↦ hn (Option.some.inj heq)
      have hb : heardBreak b = b := if_neg (h b List.mem_cons_self)
      have hbs : bs.map heardBreak = bs :=
        map_heardBreak fun c hc ↦ h c (List.mem_cons_of_mem b hc)
      rw [heardBreaks, hwritten]
      dsimp only
      rw [hb, hbs, foldBreaks, if_pos fun heq ↦ hn (List.cons.inj heq).1]
      rfl

theorem not_mem_heardBreaks (cs : List Char) : '\u0085' ∉ heardBreaks cs := by
  have hmap : ∀ l : List Char, '\u0085' ∉ l.map heardBreak := by
    intro l hl
    obtain ⟨c, -, hc⟩ := List.mem_map.mp hl
    exact heardBreak_ne c hc
  rw [heardBreaks]
  split
  · exact List.not_mem_nil
  · next b bs _ =>
    rw [foldBreaks]
    split
    · exact hmap (b :: bs)
    · split
      · decide
      · exact hmap bs

theorem not_mem_heardSingle (s : List Char) : '\u0085' ∉ heardSingle s := by
  intro hmem
  rw [heardSingle] at hmem
  obtain ⟨r, hr, hmem⟩ := List.mem_flatMap.mp hmem
  rw [heardRun] at hmem
  split at hmem
  · exact not_mem_heardBreaks _ hmem
  · next hk => exact hk (((Tree.runs_flatMap s).2 r hr).2 _ hmem).symm

/-- **Between single quotes** a text is heard as it is if it has no next line character. -/
theorem heardSingle_eq_iff : heardSingle s = s ↔ '\u0085' ∉ s := by
  obtain ⟨hflat, -⟩ := Tree.runs_flatMap s
  constructor
  · intro h hmem
    exact not_mem_heardSingle s (h.symm ▸ hmem)
  · intro h
    have hrun : ∀ r ∈ runs s, heardRun r = r.2 := by
      intro r hr
      have hr : ∀ c ∈ r.2, c ≠ '\u0085' := by
        rintro c hc rfl
        exact h (hflat ▸ List.mem_flatMap.mpr ⟨r, hr, hc⟩)
      rw [heardRun]
      split
      · exact heardBreaks_eq hr
      · rfl
    rw [heardSingle, List.flatMap_def, List.map_congr_left hrun, ← List.flatMap_def, hflat]

/-- **Between double quotes** a text is heard as it is if no space is folded twice. -/
theorem heardDouble_eq_iff :
    heardDouble deep first s = s ↔ (deep && foldsTwice first s) = false := by
  induction s generalizing first with
  | nil =>
    rw [foldsTwice, Bool.and_false]
    exact ⟨fun _ ↦ rfl, fun _ ↦ rfl⟩
  | cons c rest ih =>
    have hfolds : (deep && foldsTwice first (c :: rest))
        = (deep && !first && !isUnescaped c && rest.head? = some ' ' && 2 ≤ rest.length ||
          deep && foldsTwice false rest) := by
      rw [foldsTwice, Bool.and_or_distrib_left]
      simp only [Bool.and_assoc]
    rw [heardDouble, hfolds]
    by_cases hclash : (deep && !first && !isUnescaped c && rest.head? = some ' ' &&
      2 ≤ rest.length) = true
    · rw [if_pos hclash, hclash, Bool.true_or]
      -- A backslash is heard where the text goes on with a space.
      have hhead : rest.head? = some ' ' := by
        simp only [Bool.and_eq_true, decide_eq_true_eq] at hclash
        exact hclash.1.2
      refine ⟨fun heq ↦ ?_, fun h ↦ absurd h.symm Bool.false_ne_true⟩
      rw [← (List.cons.inj heq).2] at hhead
      exact absurd (Option.some.inj hhead) (by decide)
    · rw [if_neg hclash, Bool.eq_false_iff.mpr hclash, Bool.false_or, List.cons.injEq]
      exact (and_iff_right rfl).trans ih

end Pen

/-- **A text is heard as it is** just where it is kept. -/
theorem PlacedText.heard_eq_iff {t : PlacedText} : t.heard = t.chars ↔ t.kept = true := by
  rw [PlacedText.kept]
  cases hline : t.onLine with
  | true =>
    rw [heard_of_onLine hline]
    exact ⟨fun _ ↦ rfl, fun _ ↦ rfl⟩
  | false =>
    rw [Bool.false_or, heard_of_not_onLine hline, Tree.heardText, keepsText]
    cases Tree.styleOf false .text t.chars false with
    | single =>
      refine Pen.heardSingle_eq_iff.trans ?_
      rw [keepsAs, Bool.not_eq_true', ← Bool.not_eq_true, List.contains_iff_mem]
    | double =>
      refine Pen.heardDouble_eq_iff.trans ?_
      rw [keepsAs, Bool.not_eq_true']
    | plain => exact ⟨fun _ ↦ rfl, fun _ ↦ rfl⟩
    | literal => exact ⟨fun _ ↦ rfl, fun _ ↦ rfl⟩

/-! ## Plain data -/

/-- All texts are heard as they are. -/
def Keeps (ts : List PlacedText) : Prop := ∀ t ∈ ts, t.kept = true

theorem keeps_append {as bs : List PlacedText} : Keeps (as ++ bs) ↔ Keeps as ∧ Keeps bs :=
  List.forall_mem_append

theorem keeps_cons {t : PlacedText} {ts : List PlacedText} :
    Keeps (t :: ts) ↔ t.kept = true ∧ Keeps ts := List.forall_mem_cons

theorem heard_placed {key : Bool} {s : String} (h : (placed n key s).kept = true) :
    String.ofList (placed n key s).heard = s := by
  rw [PlacedText.heard_eq_iff.mpr h]
  exact String.ofList_toList

/-- A value that is heard as it is, wherever it stands, if its texts are kept. -/
def HeardIfKept (v : Value) : Prop :=
  ∀ n inline, Keeps (textsOf n inline v) → heard n inline v = v

theorem heardItems_eq (h : ∀ x ∈ xs, HeardIfKept x) (hk : Keeps (itemTexts n xs)) :
    heardItems n xs = xs := by
  induction xs with
  | nil => rfl
  | cons x xs ih =>
    obtain ⟨hx, hxs⟩ := keeps_append.mp hk
    rw [heardItems, h x List.mem_cons_self n false hx,
      ih (fun y hy ↦ h y (List.mem_cons_of_mem x hy)) hxs]

theorem heardEntries_eq (hkeys : Value.TextKeys es) (h : ∀ e ∈ es, HeardIfKept e.2)
    (hk : Keeps (entryTexts n es)) : heardEntries n es = es := by
  induction es with
  | nil => rfl
  | cons e es ih =>
    obtain ⟨k, v⟩ := e
    obtain ⟨k, rfl⟩ : ∃ s, k = .text s := hkeys (k, v) List.mem_cons_self
    rw [entryTexts, keeps_cons, keeps_append] at hk
    obtain ⟨hkey, hv, hes⟩ := hk
    rw [heardEntries, heard_placed hkey, h (.text k, v) List.mem_cons_self n _ hv,
      ih (fun f hf ↦ hkeys f (List.mem_cons_of_mem _ hf))
        (fun f hf ↦ h f (List.mem_cons_of_mem _ hf)) hes]

/-- Entries that are heard as they are make the mapping that they are of. -/
theorem collect_heardEntries_eq (hkeys : Value.TextKeys es) (hnodup : (es.map Prod.fst).Nodup)
    (h : ∀ e ∈ es, HeardIfKept e.2) (hk : Keeps (entryTexts n es)) :
    Value.collect (heardEntries n es) = es := by
  rw [heardEntries_eq hkeys h hk]
  exact Value.collect_eq hkeys hnodup

/-- **Plain data** are heard as they are if their texts are kept. -/
theorem heardIfKept (h : Printable v) : HeardIfKept v := by
  induction h with
  | null | bool | int => exact fun n inline _ ↦ rfl
  | text =>
    intro n inline hk
    rw [heard, heard_placed (hk _ List.mem_cons_self)]
  | list _ ih =>
    intro n inline hk
    rw [heard, heardItems_eq ih hk]
  | map hkeys hnodup _ ih =>
    intro n inline hk
    rw [heard, collect_heardEntries_eq (textKeys_of_keys hkeys) hnodup ih hk]

end GatewayPrint.Yaml
