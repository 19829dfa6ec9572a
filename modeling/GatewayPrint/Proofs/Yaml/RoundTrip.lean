import GatewayPrint.Proofs.Elementwise
import GatewayPrint.Proofs.Printer.Stream
import GatewayPrint.Proofs.Sorting
import GatewayPrint.Proofs.Yaml.Documents
import GatewayPrint.Proofs.Yaml.Misheard

/-!
# What a YAML printer writes is read again

A mapping of plain data is written with its entries in the order of their keys, on all levels
(`IsWrittenAs`). It is read again as just that, if each of its texts fits and is kept, and only then
(`Printer.yaml_reads_back`).
-/

namespace GatewayPrint

namespace Yaml

open Outcome

variable {v w : Value} {xs ys : List Value} {es fs gs : List (Value × Value)} {n : Nat}
  {t : PlacedText}

/-- A value of which the tree is that of a reordered one. -/
structure IsWrittenAs (v w : Value) : Prop where
  reorders : v.Reorders w
  tree : Tree.ofValue v = .ok (treeOf w)
  printable : Printable w
  texts : ∀ n inline t, t ∈ textsOf n inline w ↔ t ∈ textsOf n inline v

/-! ## Items -/

theorem ofItems_eq (h : List.Forall₂ IsWrittenAs xs ys) : Tree.ofItems xs = .ok (treesOf ys) := by
  induction h with
  | nil => rfl
  | cons hx _ ih => rw [Tree.ofItems, hx.tree, ok_bind, ih, ok_bind, treesOf]

theorem mem_itemTexts (h : List.Forall₂ IsWrittenAs xs ys) :
    t ∈ itemTexts n ys ↔ t ∈ itemTexts n xs := by
  induction h with
  | nil => exact Iff.rfl
  | cons hx _ ih => rw [itemTexts, itemTexts, List.mem_append, List.mem_append, hx.texts, ih]

theorem isWrittenAs_list (h : List.Forall₂ IsWrittenAs xs ys) :
    IsWrittenAs (.list xs) (.list ys) where
  reorders := by
    obtain ⟨hlen, hzip⟩ := List.forall₂_iff_zip.mp h
    exact .list hlen fun p hp ↦ (hzip hp).reorders
  tree := by
    rw [Tree.ofValue, ofItems_eq h, treeOf]
    rfl
  printable := by
    refine .list fun y hy ↦ ?_
    induction h with
    | nil => exact absurd hy List.not_mem_nil
    | cons hx _ ih =>
      rcases List.mem_cons.mp hy with rfl | hy
      · exact hx.printable
      · exact ih hy
  texts := fun n inline t ↦ mem_itemTexts h

/-! ## Entries -/

/-- An entry with the same text as its key and a value that is written as another one. -/
structure IsEntryWrittenAs (e f : Value × Value) : Prop where
  key : e.1 = f.1
  isText : ∃ s, e.1 = .text s
  value : IsWrittenAs e.2 f.2

/-- The trees of an entry, under its key. -/
def entryTree (e : Value × Value) : Value × Except WriteError (Tree × Tree) :=
  (e.1, do
    let t ← Tree.ofValue e.1
    let u ← Tree.ofValue e.2
    .ok (t, u))

theorem ofEntries_eq_map (es : List (Value × Value)) : Tree.ofEntries es = es.map entryTree := by
  induction es with
  | nil => rfl
  | cons e es ih =>
    rw [List.map_cons, ← ih]
    rfl

theorem IsEntryWrittenAs.entryTree_eq {e f : Value × Value} (h : IsEntryWrittenAs e f) :
    entryTree e = (f.1, .ok (treeOf f.1, treeOf f.2)) := by
  obtain ⟨k, v⟩ := e
  obtain ⟨k', w⟩ := f
  obtain ⟨rfl, ⟨s, rfl⟩, hvalue⟩ := h
  have hkey : Tree.ofValue (.text s) = .ok (treeOf (.text s)) := rfl
  rw [entryTree, hkey, ok_bind, hvalue.tree, ok_bind]

theorem ofEntries_eq (h : List.Forall₂ IsEntryWrittenAs es fs) :
    Tree.ofEntries es = fs.map fun f ↦ (f.1, .ok (treeOf f.1, treeOf f.2)) := by
  rw [ofEntries_eq_map]
  exact map_eq_of_forall₂ (h.imp fun _ _ he ↦ he.entryTree_eq)

/-- A permutation of a list of images is the list of images of a permutation. -/
theorem exists_map_of_perm {α β : Type} {f : α → β} {l : List α} {l' : List β}
    (h : l'.Perm (l.map f)) : ∃ k : List α, l' = k.map f ∧ k.Perm l := by
  have hcomp := congrFun (congrFun (List.eq_map_comp_perm f) l') l
  exact hcomp.mpr h

theorem collectEntries_eq (gs : List (Value × Value)) :
    Tree.collectEntries (gs.map fun g ↦ (g.1, .ok (treeOf g.1, treeOf g.2)))
      = .ok (entryTrees gs) := by
  induction gs with
  | nil => rfl
  | cons g gs ih =>
    obtain ⟨k, v⟩ := g
    rw [List.map_cons, Tree.collectEntries, ok_bind, ih, ok_bind, entryTrees]

theorem entryTexts_eq (hkeys : Value.TextKeys es) :
    entryTexts n es = es.flatMap fun e ↦ entryTexts n [e] := by
  induction es with
  | nil => rfl
  | cons e es ih =>
    obtain ⟨k, v⟩ := e
    obtain ⟨k, rfl⟩ : ∃ s, k = .text s := hkeys (k, v) List.mem_cons_self
    rw [List.flatMap_cons, ← ih fun f hf ↦ hkeys f (List.mem_cons_of_mem _ hf), entryTexts,
      entryTexts, entryTexts, List.append_nil, List.cons_append]

theorem mem_entryTexts_of_perm (hkeys : Value.TextKeys fs) (h : gs.Perm fs) :
    t ∈ entryTexts n gs ↔ t ∈ entryTexts n fs := by
  rw [entryTexts_eq hkeys, entryTexts_eq fun e he ↦ hkeys e (h.mem_iff.mp he)]
  exact (h.flatMap_right _).mem_iff

theorem mem_entryTexts (h : List.Forall₂ IsEntryWrittenAs es fs) :
    t ∈ entryTexts n fs ↔ t ∈ entryTexts n es := by
  induction h with
  | nil => exact Iff.rfl
  | @cons e f _ _ he _ ih =>
    obtain ⟨k, v⟩ := e
    obtain ⟨k', w⟩ := f
    obtain ⟨rfl, ⟨s, rfl⟩, hvalue⟩ := he
    rw [entryTexts, entryTexts, List.mem_cons, List.mem_cons, List.mem_append, List.mem_append,
      hvalue.texts, ih]

theorem keys_eq (h : List.Forall₂ IsEntryWrittenAs es fs) : es.map Prod.fst = fs.map Prod.fst := by
  induction h with
  | nil => rfl
  | cons he _ ih => rw [List.map_cons, List.map_cons, he.key, ih]

private theorem printable_entries (h : List.Forall₂ IsEntryWrittenAs es fs) :
    ∀ f ∈ fs, (∃ s, True ∧ f.1 = .text s) ∧ Printable f.2 := by
  induction h with
  | nil => exact fun f hf ↦ absurd hf List.not_mem_nil
  | cons he _ ih =>
    intro f hf
    rcases List.mem_cons.mp hf with rfl | hf
    · obtain ⟨s, hs⟩ := he.isText
      exact ⟨⟨s, trivial, he.key.symm.trans hs⟩, he.value.printable⟩
    · exact ih f hf

/-- **A mapping** is written with its entries in the order of their keys. -/
theorem exists_map (hnodup : (es.map Prod.fst).Nodup) (h : List.Forall₂ IsEntryWrittenAs es fs) :
    ∃ gs, IsWrittenAs (.map es) (.map gs) ∧ gs.length = es.length ∧
      ∀ n t, t ∈ entryTexts n gs ↔ t ∈ entryTexts n es := by
  have hfs := printable_entries h
  have hpayload : ∀ e ∈ fs.map fun f ↦ (f.1, (.ok (treeOf f.1, treeOf f.2) :
      Except WriteError (Tree × Tree))), ∃ s, e.1 = .text s := by
    intro e he
    obtain ⟨f, hf, rfl⟩ := List.mem_map.mp he
    exact (hfs f hf).1.imp fun _ ↦ And.right
  -- Sorting moves entries together with their trees, so the sorted trees are those of some entries.
  obtain ⟨sorted, hsort, hperm⟩ := Value.sortByKey_perm hpayload
  obtain ⟨gs, rfl, hgs⟩ := exists_map_of_perm hperm
  have htexts : ∀ n t, t ∈ entryTexts n gs ↔ t ∈ entryTexts n es := fun n t ↦
    (mem_entryTexts_of_perm (textKeys_of_keys fun f hf ↦ (hfs f hf).1) hgs).trans
      (mem_entryTexts h)
  have hvalues : ∀ p ∈ es.zip fs, p.1.2.Reorders p.2.2 := fun p hp ↦
    ((List.forall₂_iff_zip.mp h).2 hp).value.reorders
  have hkeys : (gs.map Prod.fst).Nodup := by
    rw [(hgs.map Prod.fst).nodup_iff, ← keys_eq h]
    exact hnodup
  refine ⟨gs, ?_, hgs.length_eq.trans h.length_eq.symm, htexts⟩
  constructor
  · exact .map (keys_eq h) hvalues hgs.symm
  · rw [Tree.ofValue, ofEntries_eq h, sortEntries, hsort]
    dsimp only
    rw [ok_bind, collectEntries_eq, treeOf]
    rfl
  · exact .map (fun g hg ↦ (hfs g (hgs.mem_iff.mp hg)).1) hkeys
      fun g hg ↦ (hfs g (hgs.mem_iff.mp hg)).2
  · exact fun n _ t ↦ htexts (n + 2) t

theorem isWrittenAs_self (hv : Printable v) (h : Tree.ofValue v = .ok (treeOf v)) :
    IsWrittenAs v v where
  reorders := .refl v
  tree := h
  printable := hv
  texts := fun _ _ _ ↦ Iff.rfl

theorem exists_entries (hkeys : Value.TextKeys es) (h : ∀ e ∈ es, ∃ w, IsWrittenAs e.2 w) :
    ∃ fs, List.Forall₂ IsEntryWrittenAs es fs := by
  refine exists_forall₂ fun e he ↦ ?_
  obtain ⟨w, hw⟩ := h e he
  exact ⟨(e.1, w), rfl, hkeys e he, hw⟩

/-- **Plain data** are written as data that differ in the order of entries alone. -/
theorem exists_isWrittenAs (h : Printable v) : ∃ w, IsWrittenAs v w := by
  induction h with
  | null => exact ⟨_, isWrittenAs_self .null rfl⟩
  | bool b => exact ⟨_, isWrittenAs_self (.bool b) rfl⟩
  | @int n h =>
    refine ⟨_, isWrittenAs_self (.int h) ?_⟩
    change Tree.ofScalar (.int n) = _
    rw [Tree.ofScalar, intText?_eq h, (writesPlain_int h).tree]
  | text h => exact ⟨_, isWrittenAs_self (.text h) rfl⟩
  | list _ ih =>
    obtain ⟨ys, hys⟩ := exists_forall₂ ih
    exact ⟨_, isWrittenAs_list hys⟩
  | map hkeys hnodup _ ih =>
    obtain ⟨fs, hfs⟩ := exists_entries (textKeys_of_keys hkeys) ih
    obtain ⟨gs, hgs, -, -⟩ := exists_map hnodup hfs
    exact ⟨_, hgs⟩

/-! ## Documents -/

/-- A mapping of plain data is written as one with the same texts. -/
theorem exists_mapping (h : Printable (.map es)) (hne : es ≠ []) :
    ∃ gs, gs ≠ [] ∧ IsWrittenAs (.map es) (.map gs) ∧
      ∀ n t, t ∈ entryTexts n gs ↔ t ∈ entryTexts n es := by
  cases h with
  | map hkeys hnodup h =>
    obtain ⟨fs, hfs⟩ := exists_entries (textKeys_of_keys hkeys) fun e he ↦
      exists_isWrittenAs (h e he)
    obtain ⟨gs, hgs, hlen, htexts⟩ := exists_map hnodup hfs
    refine ⟨gs, ?_, hgs, htexts⟩
    rintro rfl
    exact hne (List.eq_nil_of_length_eq_zero hlen.symm)

/-- A mapping of plain data is written as a document of the same data. -/
theorem exists_document (h : Printable (.map es)) (hne : es ≠ []) :
    ∃ s, write (.map es) = .ok s ∧
      ((∃ w, (Value.map es).Reorders w ∧ loadText s.toList = .ok ⟨w, []⟩)
        ↔ ∀ t ∈ entryTexts 0 es, t.fits = true ∧ t.kept = true) := by
  obtain ⟨gs, hne, hgs, htexts⟩ := exists_mapping h hne
  have htexts := htexts 0
  have hprintable := hgs.printable
  refine ⟨String.ofList (treeOf (.map gs)).text, ?_, ?_⟩
  · rw [write, hgs.tree, map_ok]
  · rw [String.toList_ofList]
    constructor
    · rintro ⟨w, hw, hload⟩
      -- What could be read has texts that fit, and what was read has the texts that were written.
      have hfits : Fits (entryTexts 0 gs) := by
        by_contra hnot
        obtain ⟨f, hf⟩ := loadText_of_not_fits hprintable hne hnot
        rw [hf] at hload
        cases hload
      rw [loadText_of_fits hprintable hne hfits] at hload
      obtain rfl : Value.map (Value.collect (heardEntries 0 gs)) = w :=
        congrArg Document.root (Except.ok.inj hload)
      have hkeeps : Keeps (entryTexts 0 gs) :=
        keeps_of_spoken hprintable
          ((perm_of_reorders hw).symm.trans (perm_of_reorders hgs.reorders))
      exact fun t ht ↦ ⟨hfits t ((htexts t).mpr ht), hkeeps t ((htexts t).mpr ht)⟩
    · intro h
      have hfits : Fits (entryTexts 0 gs) := fun t ht ↦ (h t ((htexts t).mp ht)).1
      have hkeeps : Keeps (entryTexts 0 gs) := fun t ht ↦ (h t ((htexts t).mp ht)).2
      refine ⟨.map gs, hgs.reorders, ?_⟩
      rw [loadText_of_fits hprintable hne hfits]
      cases hprintable with
      | map hkeys hnodup h =>
        rw [collect_heardEntries_eq (textKeys_of_keys hkeys) hnodup
          (fun e he ↦ heardIfKept (h e he)) hkeeps]

end Yaml

/-- **What a YAML printer writes is read again** as the same data, up to the order of entries, if
each text fits and is kept in its place, and only then. -/
theorem Printer.yaml_reads_back {es : List (Value × Value)} (h : Printable (.map es))
    (hkind : NamesKind es) :
    ∃ s, (Printer.new .yaml).print (.map es) = ⟨⟨.yaml, 1⟩, s, none⟩ ∧
      ((∃ w, (Value.map es).Reorders w ∧ Yaml.loadText s.toList = .ok ⟨w, []⟩)
        ↔ ∀ t ∈ Yaml.entryTexts 0 es, t.fits = true ∧ t.kept = true) := by
  obtain ⟨s, hs, hload⟩ := Yaml.exists_document h hkind.ne_nil
  refine ⟨s, ?_, hload⟩
  rw [print, Resource.normalize_eq h.plainData hkind]
  dsimp only [new]
  rw [printYaml, hs]
  dsimp only
  rw [if_pos rfl, String.empty_append]

theorem Printer.yaml_reads_back_words :
    let es := [(.text "kind", .text "List"), (.text "no", .list [.text "yes", .int 0, .null])]
    Printable (.map es) ∧ NamesKind es ∧ ∃ s w,
      (Printer.new .yaml).print (.map es) = ⟨⟨.yaml, 1⟩, s, none⟩ ∧
        (Value.map es).Reorders w ∧ Yaml.loadText s.toList = .ok ⟨w, []⟩ := by
  intro es
  have hitems : ∀ x ∈ [Value.text "yes", .int 0, .null], Printable x := by
    simp only [List.forall_mem_cons]
    exact ⟨.text trivial, .int rfl, .null, fun x hx ↦ absurd hx List.not_mem_nil⟩
  have h : Printable (.map es) := by
    refine .map ?_ ?_ ?_
    · simp only [es, List.forall_mem_cons]
      exact ⟨⟨_, trivial, rfl⟩, ⟨_, trivial, rfl⟩, fun x hx ↦ absurd hx List.not_mem_nil⟩
    · simp [es]
    · simp only [es, List.forall_mem_cons]
      exact ⟨.text trivial, .list hitems, fun x hx ↦ absurd hx List.not_mem_nil⟩
  have hkind : NamesKind es := .inr rfl
  obtain ⟨s, hs, hload⟩ := yaml_reads_back h hkind
  have htexts : (Yaml.entryTexts 0 es).all (fun t ↦ t.fits && t.kept) = true := by decide
  obtain ⟨w, hw, hload⟩ := hload.mpr fun t ht ↦
    Bool.and_eq_true_iff.mp (List.all_eq_true.mp htexts t ht)
  exact ⟨h, hkind, s, w, hs, hw, hload⟩

end GatewayPrint
