import GatewayPrint.Proofs.KeyOrder
import GatewayPrint.Proofs.Resource.Idempotent
import GatewayPrint.Proofs.Yaml.RoundTrip
import Mathlib.Data.List.Perm.Basic

/-!
# The order of insertion is not printed

Normalising keeps the order of entries, and trees are made of sorted ones. So two mappings that
differ in the order of entries alone are normalised to such mappings again (`plain_shuffles`), which
have one tree (`ofValue_shuffles`) and one text.

Only entries whose keys are different texts may be moved, since other keys need not have an order;
what stands under them, and all other values, may be anything.
-/

namespace GatewayPrint

open Outcome Resource

variable {v w d : Value} {xs ys ds : List Value} {es fs gs : List (Value × Value)} {key : String}

namespace Value

/-- Values that differ, on any level, in the order of entries whose keys are different texts. -/
inductive Shuffles : Value → Value → Prop where
  | refl (v : Value) : Shuffles v v
  | list {xs ys : List Value} (hlen : xs.length = ys.length)
      (h : ∀ p ∈ xs.zip ys, Shuffles p.1 p.2) : Shuffles (list xs) (list ys)
  | tuple {xs ys : List Value} (hlen : xs.length = ys.length)
      (h : ∀ p ∈ xs.zip ys, Shuffles p.1 p.2) : Shuffles (tuple xs) (tuple ys)
  | map {es fs gs : List (Value × Value)} (htext : TextKeys es) (hnodup : (es.map Prod.fst).Nodup)
      (hkeys : es.map Prod.fst = fs.map Prod.fst) (h : ∀ p ∈ es.zip fs, Shuffles p.1.2 p.2.2)
      (hperm : fs.Perm gs) : Shuffles (map es) (map gs)

theorem Reorders.shuffles (h : v.Reorders w) (hv : PlainData v) : v.Shuffles w := by
  induction h with
  | refl v => exact .refl v
  | list hlen _ ih =>
    cases hv with
    | list hxs => exact .list hlen fun p hp ↦ ih p hp (hxs p.1 (List.of_mem_zip hp).1)
  | map hkeys _ hperm ih =>
    cases hv with
    | map htext hnodup hes =>
      exact .map htext hnodup hkeys (fun p hp ↦ ih p hp (hes p.1 (List.of_mem_zip hp).1)) hperm

/-- Entries with the same keys and shuffled values, one by one. -/
def EntryShuffles (e f : Value × Value) : Prop := e.1 = f.1 ∧ e.2.Shuffles f.2

theorem forall₂_entryShuffles (hkeys : es.map Prod.fst = fs.map Prod.fst)
    (h : ∀ p ∈ es.zip fs, Shuffles p.1.2 p.2.2) : List.Forall₂ EntryShuffles es fs := by
  have heq : List.Forall₂ (fun e f : Value × Value ↦ e.1 = f.1) es fs :=
    List.forall₂_map_left_iff.mp (List.forall₂_map_right_iff.mp (List.forall₂_eq_eq_eq ▸ hkeys))
  obtain ⟨hlen, hzip⟩ := List.forall₂_iff_zip.mp heq
  exact List.forall₂_iff_zip.mpr ⟨hlen, fun hp ↦ ⟨hzip hp, h _ hp⟩⟩

theorem shuffles_map (htext : TextKeys es) (hnodup : (es.map Prod.fst).Nodup)
    (h : List.Forall₂ EntryShuffles es fs) (hperm : fs.Perm gs) : (map es).Shuffles (map gs) :=
  .map htext hnodup (map_eq_of_forall₂ (h.imp fun _ _ hef ↦ hef.1))
    (fun _ hp ↦ ((List.forall₂_iff_zip.mp h).2 hp).2) hperm

/-! ## What is there -/

theorem lookup_cons_self (es : List (Value × Value)) :
    lookup key ((text key, v) :: es) = some v := if_pos rfl

theorem lookup_cons_of_ne {e : Value × Value} (h : e.1 ≠ text key) :
    lookup key (e :: es) = lookup key es := by
  obtain ⟨k, v⟩ := e
  cases k with
  | text s => exact if_neg fun hs ↦ h (congrArg text hs)
  | _ => rfl

theorem lookup_of_mem (hnodup : (es.map Prod.fst).Nodup) (h : (text key, v) ∈ es) :
    lookup key es = some v := by
  induction es with
  | nil => cases h
  | cons e es ih =>
    obtain ⟨hnot, hnodup⟩ := List.nodup_cons.mp hnodup
    rcases List.mem_cons.mp h with rfl | h
    · exact lookup_cons_self es
    · have hne : e.1 ≠ text key := fun hkey ↦ hnot (hkey ▸ List.mem_map_of_mem h)
      rw [lookup_cons_of_ne hne, ih hnodup h]

theorem lookup_perm (hnodup : (es.map Prod.fst).Nodup) (h : es.Perm fs) :
    lookup key es = lookup key fs := by
  have hnodup' : (fs.map Prod.fst).Nodup := (h.map Prod.fst).nodup_iff.mp hnodup
  refine Option.ext fun v ↦ ⟨fun hv ↦ ?_, fun hv ↦ ?_⟩
  · exact lookup_of_mem hnodup' (h.mem_iff.mp (mem_of_lookup hv))
  · exact lookup_of_mem hnodup (h.mem_iff.mpr (mem_of_lookup hv))

private theorem truthy_of_shuffles (h : v.Shuffles w) : w.truthy = v.truthy := by
  have hempty {α : Type} {xs ys : List α} (hlen : xs.length = ys.length) :
      ys.isEmpty = xs.isEmpty := by
    rw [Bool.eq_iff_iff, List.isEmpty_iff_length_eq_zero, List.isEmpty_iff_length_eq_zero, hlen]
  cases h with
  | refl => rfl
  | list hlen => rw [truthy, truthy, hempty hlen]
  | tuple hlen => rw [truthy, truthy, hempty hlen]
  | map _ _ hkeys _ hperm =>
    have hlen := congrArg List.length hkeys
    rw [List.length_map, List.length_map] at hlen
    rw [truthy, truthy, hempty (hlen.trans hperm.length_eq)]

private theorem truthy_lookup (h : List.Forall₂ EntryShuffles es fs) :
    ((lookup key fs).getD .null).truthy = ((lookup key es).getD .null).truthy := by
  induction h with
  | nil => rfl
  | @cons e f es fs hef _ ih =>
    obtain ⟨k, v⟩ := e
    obtain ⟨k', w⟩ := f
    obtain ⟨rfl, hvw⟩ : k = k' ∧ v.Shuffles w := hef
    by_cases hk : k = text key
    · subst hk
      rw [lookup_cons_self, lookup_cons_self]
      exact truthy_of_shuffles hvw
    · rw [lookup_cons_of_ne hk, lookup_cons_of_ne hk, ih]

private theorem namesKind_of_shuffles (h : (map es).Shuffles (map gs)) :
    NamesKind gs ↔ NamesKind es := by
  have hlookup (key : String) :
      ((lookup key gs).getD .null).truthy = ((lookup key es).getD .null).truthy := by
    cases h with
    | refl => rfl
    | map _ hnodup hkeys hvalues hperm =>
      rw [← lookup_perm (hkeys ▸ hnodup) hperm]
      exact truthy_lookup (forall₂_entryShuffles hkeys hvalues)
  rw [NamesKind, NamesKind, hlookup, hlookup]

end Value

/-! ## Normalising -/

namespace Resource

open Value

theorem plainItems_shuffles
    (h : List.Forall₂ (fun x y ↦ ∀ d, plain x = .ok d → ∃ d', plain y = .ok d' ∧ d.Shuffles d')
      xs ys) (hds : plainItems xs = .ok ds) :
    ∃ ds', plainItems ys = .ok ds' ∧ List.Forall₂ Shuffles ds ds' := by
  rw [plainItems_eq_ok] at hds
  induction h generalizing ds with
  | nil =>
    cases hds
    exact ⟨[], rfl, .nil⟩
  | cons hxy _ ih =>
    cases hds with
    | cons hx hxs =>
      obtain ⟨d', hy, hd⟩ := hxy _ hx
      obtain ⟨ds', hys, hds⟩ := ih hxs
      exact ⟨d' :: ds', plainItems_eq_ok.mpr (.cons hy (plainItems_eq_ok.mp hys)), .cons hd hds⟩

private theorem plainEntries_shuffles {es' : List (Value × Value)}
    (h : List.Forall₂ (fun e f ↦ e.1 = f.1 ∧
      ∀ d, plain e.2 = .ok d → ∃ d', plain f.2 = .ok d' ∧ d.Shuffles d') es fs)
    (hes : plainEntries es = .ok es') :
    ∃ fs', plainEntries fs = .ok fs' ∧ List.Forall₂ EntryShuffles es' fs' := by
  rw [plainEntries_eq_ok] at hes
  induction h generalizing es' with
  | nil =>
    cases hes
    exact ⟨[], rfl, .nil⟩
  | @cons e f _ fs hef _ ih =>
    cases hes with
    | cons he hes =>
      obtain ⟨d', hd', hd⟩ := hef.2 _ he.2
      obtain ⟨fs', hfs, hall⟩ := ih hes
      have hplain : plainEntries (f :: fs) = .ok ((f.1, d') :: fs') :=
        plainEntries_eq_ok.mpr (.cons ⟨rfl, hd'⟩ (plainEntries_eq_ok.mp hfs))
      exact ⟨(f.1, d') :: fs', hplain, .cons ⟨he.1.symm.trans hef.1, hd⟩ hall⟩

theorem plainEntries_perm {fs' : List (Value × Value)} (h : fs.Perm gs)
    (hfs : plainEntries fs = .ok fs') : ∃ gs', plainEntries gs = .ok gs' ∧ fs'.Perm gs' := by
  obtain ⟨gs', hgs, hperm⟩ := List.perm_comp_forall₂ h.symm (plainEntries_eq_ok.mp hfs)
  exact ⟨gs', plainEntries_eq_ok.mpr hgs, hperm.symm⟩

/-- **Normalising keeps the order of entries**, so shuffled values have shuffled plain forms. -/
theorem plain_shuffles (h : v.Shuffles w) (hd : plain v = .ok d) :
    ∃ d', plain w = .ok d' ∧ d.Shuffles d' := by
  induction h generalizing d with
  | refl v => exact ⟨d, hd, .refl d⟩
  | @list xs ys hlen _ ih =>
    rw [plain] at hd
    obtain ⟨ds, hds, rfl⟩ := map_eq_ok.mp hd
    obtain ⟨ds', hds', hall⟩ := plainItems_shuffles
      (List.forall₂_iff_zip.mpr ⟨hlen, fun hp _ ↦ ih _ hp⟩) hds
    obtain ⟨hlen, hzip⟩ := List.forall₂_iff_zip.mp hall
    refine ⟨.list ds', ?_, .list hlen fun _ hp ↦ hzip hp⟩
    rw [plain, hds', map_ok]
  | @tuple xs ys hlen _ ih =>
    rw [plain] at hd
    obtain ⟨ds, hds, rfl⟩ := map_eq_ok.mp hd
    obtain ⟨ds', hds', hall⟩ := plainItems_shuffles
      (List.forall₂_iff_zip.mpr ⟨hlen, fun hp _ ↦ ih _ hp⟩) hds
    obtain ⟨hlen, hzip⟩ := List.forall₂_iff_zip.mp hall
    refine ⟨.tuple ds', ?_, .tuple hlen fun _ hp ↦ hzip hp⟩
    rw [plain, hds', map_ok]
  | @map es fs gs htext hnodup hkeys h hperm ih =>
    rw [plain] at hd
    obtain ⟨es', hes', rfl⟩ := map_eq_ok.mp hd
    -- Plain forms stand entry by entry under the same keys, so an order of entries carries over.
    have hfst : es.map Prod.fst = es'.map Prod.fst :=
      map_eq_of_forall₂ ((plainEntries_eq_ok.mp hes').imp fun _ _ he ↦ he.1)
    have htext' : TextKeys es' := by
      intro e' he'
      obtain ⟨e, he, hkey, -⟩ := exists_left_of_mem (plainEntries_eq_ok.mp hes') he'
      exact hkey ▸ htext e he
    have hall := forall₂_entryShuffles hkeys h
    obtain ⟨hlen, hzip⟩ := List.forall₂_iff_zip.mp hall
    obtain ⟨fs', hfs', hshuffles⟩ := plainEntries_shuffles
      (List.forall₂_iff_zip.mpr ⟨hlen, fun hp ↦ ⟨(hzip hp).1, fun _ ↦ ih _ hp⟩⟩) hes'
    obtain ⟨gs', hgs', hperm'⟩ := plainEntries_perm hperm hfs'
    refine ⟨.map gs', ?_, shuffles_map htext' (hfst ▸ hnodup) hshuffles hperm'⟩
    rw [plain, hgs', map_ok]

end Resource

/-! ## Trees -/

namespace Yaml

open Value

theorem ofItems_shuffles (h : List.Forall₂ (fun x y ↦ Tree.ofValue y = Tree.ofValue x) xs ys) :
    Tree.ofItems ys = Tree.ofItems xs := by
  induction h with
  | nil => rfl
  | cons hxy _ ih => rw [Tree.ofItems, Tree.ofItems, hxy, ih]

theorem sortEntries_perm {α : Type} {es fs : List (Value × α)} (htext : ∀ e ∈ es, ∃ s, e.1 = text s)
    (hnodup : (es.map Prod.fst).Nodup) (h : es.Perm fs) : sortEntries fs = sortEntries es := by
  obtain ⟨sorted, hsort, -⟩ := sortByKey_spec htext hnodup
  have hsort' : sortByKey fs = .ok sorted := (sortByKey_congr htext hnodup h).symm.trans hsort
  rw [sortEntries, sortEntries, hsort, hsort']

/-- **Trees are made of sorted entries**, so shuffled values have the same tree, or the same
error. -/
theorem ofValue_shuffles (h : v.Shuffles w) : Tree.ofValue w = Tree.ofValue v := by
  induction h with
  | refl v => rfl
  | list hlen _ ih =>
    rw [Tree.ofValue, Tree.ofValue,
      ofItems_shuffles (List.forall₂_iff_zip.mpr ⟨hlen, fun hp ↦ ih _ hp⟩)]
  | tuple hlen _ ih =>
    rw [Tree.ofValue, Tree.ofValue,
      ofItems_shuffles (List.forall₂_iff_zip.mpr ⟨hlen, fun hp ↦ ih _ hp⟩)]
  | @map es fs gs htext hnodup hkeys h hperm ih =>
    obtain ⟨hlen, hzip⟩ := List.forall₂_iff_zip.mp (forall₂_entryShuffles hkeys h)
    have htrees : es.map entryTree = fs.map entryTree := by
      refine map_eq_of_forall₂ (List.forall₂_iff_zip.mpr ⟨hlen, fun hp ↦ ?_⟩)
      rw [entryTree, entryTree, (hzip hp).1, ih _ hp]
    have htext' : ∀ e ∈ es.map entryTree, ∃ s, e.1 = text s := by
      intro e he
      obtain ⟨f, hf, rfl⟩ := List.mem_map.mp he
      exact htext f hf
    have hnodup' : ((es.map entryTree).map Prod.fst).Nodup := by
      rw [List.map_map]
      exact hnodup
    rw [Tree.ofValue, Tree.ofValue, ofEntries_eq_map, ofEntries_eq_map,
      sortEntries_perm htext' hnodup' (htrees ▸ hperm.map entryTree)]

end Yaml

/-! ## Printing -/

theorem exists_map_of_shuffles (h : (Value.map es).Shuffles w) : ∃ gs, w = .map gs := by
  cases h with
  | refl => exact ⟨es, rfl⟩
  | map => exact ⟨_, rfl⟩

theorem exists_map_of_plain (hd : plain (.map es) = .ok d) : ∃ fs, d = .map fs := by
  rw [plain] at hd
  obtain ⟨fs, -, rfl⟩ := map_eq_ok.mp hd
  exact ⟨fs, rfl⟩

/-- **Shuffled mappings** are printed alike as YAML. -/
theorem Printer.print_shuffles {p : Printer} (hp : p.format = .yaml)
    (h : (Value.map es).Shuffles w) (hd : plain (.map es) = .ok d) :
    p.print w = p.print (.map es) := by
  obtain ⟨d', hd', hshuffles⟩ := plain_shuffles h hd
  obtain ⟨gs, rfl⟩ := exists_map_of_shuffles h
  obtain ⟨fs, rfl⟩ := exists_map_of_plain hd
  obtain ⟨fs', rfl⟩ := exists_map_of_shuffles hshuffles
  have hnames := Value.namesKind_of_shuffles hshuffles
  have hwrite : Yaml.write (.map fs') = Yaml.write (.map fs) := by
    rw [Yaml.write, Yaml.write, Yaml.ofValue_shuffles hshuffles]
  by_cases hkind : NamesKind fs
  · have hes : Resource.normalize (.map es) = .ok (.map fs) :=
      normalize_of_namedMapping hd (.map hkind)
    have hgs : Resource.normalize (.map gs) = .ok (.map fs') :=
      normalize_of_namedMapping hd' (.map (hnames.mpr hkind))
    simp only [Printer.print, hes, hgs, hp, Printer.printYaml, hwrite]
  · have hes : Resource.normalize (.map es) = .error .missingKind := by
      refine normalize_of_mapping hd (.map fs) ?_
      rintro ⟨hkind'⟩
      exact hkind hkind'
    have hgs : Resource.normalize (.map gs) = .error .missingKind := by
      refine normalize_of_mapping hd' (.map fs') ?_
      rintro ⟨hkind'⟩
      exact hkind (hnames.mp hkind')
    rw [Printer.print, Printer.print, hes, hgs]

end GatewayPrint
