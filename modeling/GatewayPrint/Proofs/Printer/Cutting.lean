import GatewayPrint.Proofs.Printer.Framing
import GatewayPrint.Proofs.Printer.Splitting
import GatewayPrint.Proofs.Yaml.Margin
import GatewayPrint.Proofs.Yaml.RoundTrip

/-!
# Cutting a stream of YAML

No line of a document begins with a marker, and every document ends its last line. So a stream of
documents falls apart into them when it is cut at the lines that are only a marker
(`Yaml.cut_intercalate`), and the pieces are what a printer of its own would have written for each
resource (`Printer.cut_stream`).

A resource with a number of too many digits is accepted and has no document. Its place is empty, and
it is a piece like any other.
-/

namespace GatewayPrint

open Outcome

namespace Yaml

open Json (lines IsEnded)

variable {s l : List Char} {ds : List (List Char)} {es : List (Value × Value)}

/-! ## Lines without markers -/

/-- A marker has no line feed, so it stands before the end of its line. -/
theorem IsMarked.of_concat (h : IsMarked (l ++ ['\n'])) : IsMarked l := by
  have hline : ∀ m : List Char, '\n' ∉ m → m <+: l ++ ['\n'] → m <+: l := by
    intro m hm hprefix
    refine (List.prefix_concat_iff.mp hprefix).resolve_left ?_
    rintro rfl
    exact hm (List.mem_append_right l List.mem_cons_self)
  exact h.imp (hline _ (by decide)) (hline _ (by decide))

/-- Where the scan finds no marker, no line begins with one. -/
theorem not_isMarked_of_mem_lines (h : margin s ≠ .marked) : ∀ l ∈ lines s, ¬IsMarked l := by
  induction hn : s.length using Nat.strong_induction_on generalizing s with
  | _ n ih =>
  subst hn
  by_cases hs : '\n' ∈ s
  · obtain ⟨l, t, rfl, hl⟩ := List.eq_append_cons_of_mem hs
    have hfirst : margin l ≠ .marked := by
      intro hmarked
      rw [margin_append, hmarked, Margin.foldl_step_marked] at h
      exact h rfl
    rw [margin_append, List.foldl_cons, Margin.step_newLine hfirst] at h
    rw [Json.lines_append fun c hc hline ↦ hl (hline ▸ hc)]
    refine List.forall_mem_cons.mpr ⟨fun hmarked ↦ hfirst ?_, ih t.length ?_ h rfl⟩
    · exact (Margin.foldl_step_eq_marked_iff hl).mpr hmarked.of_concat
    · rw [List.length_append, List.length_cons]
      omega
  · cases s with
    | nil => exact fun l hl ↦ absurd hl List.not_mem_nil
    | cons c s =>
      rw [Json.lines_of_not_mem hs]
      refine fun l hl hmarked ↦ h ?_
      rw [List.mem_singleton.mp hl] at hmarked
      exact (Margin.foldl_step_eq_marked_iff hs).mpr hmarked

/-! ## Cutting at markers -/

/-- A line that is only the marker between documents. -/
def isBorder (l : List Char) : Bool := l == "---\n".toList || l == "---".toList

/-- A text cut at the lines that are only the marker between documents. -/
def cut (s : String) : List String :=
  ((lines s.toList).splitOnP isBorder).map fun ls ↦ String.ofList ls.flatten

private theorem isMarked_of_isBorder (h : isBorder l = true) : IsMarked l := by
  rw [isBorder, Bool.or_eq_true, beq_iff_eq, beq_iff_eq] at h
  rcases h with rfl | rfl
  · exact .inl (by decide)
  · exact .inl (by decide)

/-- A text that ends its last line and has no line that begins with a marker. -/
structure IsPiece (s : List Char) : Prop where
  ended : IsEnded s
  unmarked : margin s ≠ .marked

theorem IsPiece.isBorder_eq (h : IsPiece s) (hl : l ∈ lines s) : isBorder l = false :=
  Bool.eq_false_iff.mpr fun hborder ↦
    not_isMarked_of_mem_lines h.unmarked l hl (isMarked_of_isBorder hborder)

private theorem splitOnP_lines (h : ∀ d ∈ ds, IsPiece d) (hne : ds ≠ []) :
    (lines (Printer.separator.toList.intercalate ds)).splitOnP isBorder = ds.map lines := by
  induction ds with
  | nil => exact absurd rfl hne
  | cons d ds ih =>
    have hd := h d List.mem_cons_self
    have hborders : ∀ l ∈ lines d, isBorder l = false := fun l hl ↦ hd.isBorder_eq hl
    cases ds with
    | nil =>
      rw [List.intercalate_singleton, List.splitOnP_eq_singleton hborders]
      rfl
    | cons e ds =>
      have hrest := ih (fun e he ↦ h e (List.mem_cons_of_mem d he)) (List.cons_ne_nil e ds)
      -- The separator is a line of its own, between the lines of the first document and the rest.
      have hseparator : ∀ t : List Char, lines (Printer.separator.toList ++ t)
          = "---\n".toList :: lines t := fun t ↦
        IsEnded.lines_append (.inr ⟨"---".toList, rfl⟩) t
      rw [List.intercalate_cons_cons, List.append_assoc, hd.ended.lines_append, hseparator,
        List.splitOnP_append_cons_of_forall_mem hborders _ rfl, hrest]
      rfl

/-- **A stream of documents** is cut into them. -/
theorem cut_intercalate (h : ∀ d ∈ ds, IsPiece d) (hne : ds ≠ []) :
    cut (String.ofList (Printer.separator.toList.intercalate ds)) = ds.map String.ofList := by
  rw [cut, String.toList_ofList, splitOnP_lines h hne, List.map_map]
  exact List.map_congr_left fun d _ ↦ congrArg String.ofList (Json.flatten_lines d)

/-! ## Data that have a document -/

private theorem ofValue_of_mem {xs : List Value} {ts : List Tree} (h : Tree.ofItems xs = .ok ts) :
    ∀ x ∈ xs, ∃ t, Tree.ofValue x = .ok t := by
  induction xs generalizing ts with
  | nil => exact fun x hx ↦ absurd hx List.not_mem_nil
  | cons x xs ih =>
    rw [Tree.ofItems] at h
    obtain ⟨t, ht, h⟩ := bind_eq_ok.mp h
    obtain ⟨us, hus, -⟩ := bind_eq_ok.mp h
    exact List.forall_mem_cons.mpr ⟨⟨t, ht⟩, ih hus⟩

private theorem ok_of_collectEntries {es : List (Value × Except WriteError (Tree × Tree))}
    {ts : List (Tree × Tree)} (h : Tree.collectEntries es = .ok ts) :
    ∀ e ∈ es, ∃ t, e.2 = .ok t := by
  induction es generalizing ts with
  | nil => exact fun e he ↦ absurd he List.not_mem_nil
  | cons e es ih =>
    rw [Tree.collectEntries] at h
    obtain ⟨t, ht, h⟩ := bind_eq_ok.mp h
    obtain ⟨us, hus, -⟩ := bind_eq_ok.mp h
    exact List.forall_mem_cons.mpr ⟨⟨t, ht⟩, ih hus⟩

/-- Sorting keeps the entries, so each value of a mapping that has a tree has one. -/
theorem ofValue_of_mem_entries {t : Tree} (hkeys : Value.TextKeys es)
    (ht : Tree.ofValue (.map es) = .ok t) : ∀ e ∈ es, ∃ u, Tree.ofValue e.2 = .ok u := by
  rw [Tree.ofValue] at ht
  obtain ⟨sorted, hsorted, ht⟩ := bind_eq_ok.mp ht
  obtain ⟨ts, hts, -⟩ := map_eq_ok.mp ht
  have htexts : ∀ e ∈ es.map entryTree, ∃ s, e.1 = .text s := List.forall_mem_map.mpr hkeys
  obtain ⟨sorted', hsort, hperm⟩ := Value.sortByKey_perm htexts
  rw [ofEntries_eq_map, sortEntries, hsort] at hsorted
  obtain rfl : sorted' = sorted := Except.ok.inj hsorted
  intro e he
  have hmem : entryTree e ∈ sorted' := hperm.mem_iff.mpr (List.mem_map_of_mem he)
  obtain ⟨_, htrees⟩ := ok_of_collectEntries hts _ hmem
  obtain ⟨_, -, hvalue⟩ := bind_eq_ok.mp htrees
  obtain ⟨u, hu, -⟩ := bind_eq_ok.mp hvalue
  exact ⟨u, hu⟩

/-- Plain data that have a tree have numbers of not too many digits. -/
theorem printable_of_ofValue {v : Value} {t : Tree} (h : PlainData v)
    (ht : Tree.ofValue v = .ok t) : Printable v := by
  induction h generalizing t with
  | null => exact .null
  | bool b => exact .bool b
  | int n =>
    refine .int ?_
    change Tree.ofScalar (.int n) = .ok t at ht
    rw [Tree.ofScalar] at ht
    split at ht
    · next hn => rw [hn]; rfl
    · cases ht
  | text s => exact .text trivial
  | list _ ih =>
    rw [Tree.ofValue] at ht
    obtain ⟨ts, hts, -⟩ := map_eq_ok.mp ht
    refine .list fun x hx ↦ ?_
    obtain ⟨u, hu⟩ := ofValue_of_mem hts x hx
    exact ih x hx hu
  | @map es hkeys hnodup _ ih =>
    refine .map (fun e he ↦ (hkeys e he).imp fun s hs ↦ ⟨trivial, hs⟩) hnodup fun e he ↦ ?_
    obtain ⟨u, hu⟩ := ofValue_of_mem_entries hkeys ht e he
    exact ih e he hu

/-- A mapping of plain data is written as a piece of its own. -/
theorem exists_piece (h : Printable (.map es)) (hne : es ≠ []) :
    ∃ s, write (.map es) = .ok s ∧ IsPiece s.toList ∧ s ≠ "" := by
  obtain ⟨gs, hne, hgs, -⟩ := exists_mapping h hne
  obtain ⟨w, hw, -⟩ := exists_text hgs.printable hne
  refine ⟨String.ofList (treeOf (.map gs)).text, ?_, ?_, ?_⟩
  · rw [write, hgs.tree, map_ok]
  · rw [String.toList_ofList]
    exact ⟨.inr ⟨w, hw⟩, margin_text hgs.printable hne⟩
  · rw [ne_eq, ← String.toList_inj, String.toList_ofList, hw]
    exact List.append_ne_nil_of_right_ne_nil w (List.cons_ne_nil _ _)

end Yaml

namespace Printer

open Json (lines)

variable {v : Value} {vs : List Value}

theorem isAccepted_of_dataResource (h : DataResource v) : isAccepted v = true := by
  obtain ⟨es, rfl, hdata, hkind⟩ := h
  rw [isAccepted, Resource.normalize_eq hdata hkind]

/-- A printer of its own writes what stands in the place of the resource. -/
theorem out_print_new (h : DataResource v) : ((new .yaml).print v).out.toList = place v := by
  rw [new, (print_yaml 0 v).1, isAccepted_of_dataResource h, if_pos rfl]
  rfl

/-- The place of a resource of plain data holds its document, or nothing. -/
theorem place_cases (h : DataResource v) :
    Printable v ∧ ((new .yaml).print v).fault = none ∧ place v ≠ [] ∧ Yaml.IsPiece (place v) ∨
      ¬Printable v ∧ ((new .yaml).print v).fault ≠ none ∧ place v = [] := by
  obtain ⟨es, rfl, hdata, hkind⟩ := h
  have hdocument := OutputFormat.document_of_normalize (f := .yaml)
    (Resource.normalize_eq hdata hkind)
  rw [OutputFormat.write] at hdocument
  have hfault : ((new .yaml).print (.map es)).fault = OutputFormat.yaml.fault? (.map es) :=
    fault_print (new .yaml) (.map es)
  rw [hfault, OutputFormat.fault?, place, document?]
  by_cases hprintable : Printable (.map es)
  · obtain ⟨s, hs, hpiece, hne⟩ := Yaml.exists_piece hprintable hkind.ne_nil
    rw [hs, mapError_ok] at hdocument
    rw [hdocument]
    refine .inl ⟨hprintable, rfl, fun hnil ↦ hne ?_, hpiece⟩
    exact String.toList_inj.mp hnil
  · cases htree : Yaml.Tree.ofValue (.map es) with
    | ok t => exact absurd (Yaml.printable_of_ofValue hdata htree) hprintable
    | error e =>
      rw [Yaml.write, htree, map_error, mapError_error] at hdocument
      rw [hdocument]
      exact .inr ⟨hprintable, Option.some_ne_none _, rfl⟩

theorem isPiece_place (h : DataResource v) : Yaml.IsPiece (place v) := by
  rcases place_cases h with ⟨-, -, -, hpiece⟩ | ⟨-, -, hnil⟩
  · exact hpiece
  · rw [hnil]
    exact ⟨.inl rfl, by decide⟩

/-- **A YAML stream** of resources of plain data: no line of a document begins with three dashes or
three dots, so the stream is cut at the lines that are only three dashes into what a printer of its
own writes for each resource, in order. A call fails only for a resource with a number of too many
digits, whatever was printed before, and every other resource has a document that is not empty. -/
theorem cut_stream (h : ∀ v ∈ vs, DataResource v) :
    (∀ v ∈ vs, ∀ l ∈ lines ((new .yaml).print v).out.toList,
        ¬"---".toList <+: l ∧ ¬"...".toList <+: l) ∧
      (vs ≠ [] →
        Yaml.cut ((new .yaml).stream vs) = vs.map fun v ↦ ((new .yaml).print v).out) ∧
      (vs = [] → (new .yaml).stream vs = "") ∧
      ((new .yaml).calls vs).map Printed.fault = vs.map (fun v ↦ ((new .yaml).print v).fault) ∧
      (∀ v ∈ vs, ((new .yaml).print v).fault = none ↔ Printable v) ∧
      ∀ v ∈ vs, Printable v → ((new .yaml).print v).out ≠ "" := by
  refine ⟨fun v hv l hl ↦ ?_, fun hne ↦ ?_, ?_, ?_, fun v hv ↦ ?_, fun v hv hprintable hout ↦ ?_⟩
  · rw [out_print_new (h v hv)] at hl
    exact not_or.mp (Yaml.not_isMarked_of_mem_lines (isPiece_place (h v hv)).unmarked l hl)
  · have haccepted : vs.filter isAccepted = vs :=
      List.filter_eq_self.mpr fun v hv ↦ isAccepted_of_dataResource (h v hv)
    have hstream : (new .yaml).stream vs
        = String.ofList (separator.toList.intercalate (vs.map place)) := by
      rw [← String.toList_inj, toList_stream, new, chars_zero, haccepted, String.toList_ofList]
    have hpieces : ∀ d ∈ vs.map place, Yaml.IsPiece d :=
      List.forall_mem_map.mpr fun v hv ↦ isPiece_place (h v hv)
    rw [hstream, Yaml.cut_intercalate hpieces (List.map_eq_nil_iff.not.mpr hne), List.map_map]
    refine List.map_congr_left fun v hv ↦ ?_
    rw [Function.comp_apply, ← out_print_new (h v hv), String.ofList_toList]
  · rintro rfl
    rfl
  · rw [fault_calls]
    exact List.map_congr_left fun v _ ↦ (fault_print (new .yaml) v).symm
  · rcases place_cases (h v hv) with ⟨hprintable, hfault, -⟩ | ⟨hprintable, hfault, -⟩
    · exact iff_of_true hfault hprintable
    · exact iff_of_false hfault hprintable
  · have hplace := out_print_new (h v hv)
    rw [hout] at hplace
    rcases place_cases (h v hv) with ⟨-, -, hne, -⟩ | ⟨hnot, -⟩
    · exact hne hplace.symm
    · exact hnot hprintable

/-- A resource with markers at the beginning of lines, texts and keys. -/
def markedResource : Value :=
  .map [(.text "kind", .text "---\n...\n"), (.text "--- a", .list [.text "...", .null]),
    (.text "...\n---", .list [.list [.list [.text "---"]], .map []]),
    (.text ("--------------------------------- ------------------------------------------" ++
      "------------------- ----------------------------------------------------------"), .int (-3))]

private theorem dataResource_marked : DataResource markedResource := by
  refine ⟨_, rfl, .map ?_ (by simp) ?_, .inr rfl⟩
  · simp [Value.TextKeys]
  · simp only [List.forall_mem_cons]
    refine ⟨.text _, .list ?_, .list ?_, .int _, List.forall_mem_nil _⟩
    · simp only [List.forall_mem_cons]
      exact ⟨.text _, .null, List.forall_mem_nil _⟩
    · simp only [List.forall_mem_cons]
      refine ⟨.list ?_, .map (List.forall_mem_nil _) .nil (List.forall_mem_nil _),
        List.forall_mem_nil _⟩
      simp only [List.forall_mem_cons]
      refine ⟨.list ?_, List.forall_mem_nil _⟩
      simp only [List.forall_mem_cons]
      exact ⟨.text _, List.forall_mem_nil _⟩

theorem cut_stream_marked :
    (∀ v ∈ [markedResource, markedResource], DataResource v) ∧
      (∀ l ∈ lines ((new .yaml).print markedResource).out.toList,
        ¬"---".toList <+: l ∧ ¬"...".toList <+: l) ∧
      Yaml.cut ((new .yaml).stream [markedResource, markedResource])
        = [((new .yaml).print markedResource).out, ((new .yaml).print markedResource).out] := by
  have h : ∀ v ∈ [markedResource, markedResource], DataResource v := by
    simpa using dataResource_marked
  obtain ⟨hlines, hcut, -⟩ := cut_stream h
  exact ⟨h, hlines markedResource List.mem_cons_self, hcut (List.cons_ne_nil _ _)⟩

/-- Lines of a text that look like markers are indented. -/
example : Yaml.cut ((new .yaml).stream [.map [(.text "kind", .text "---\n---")],
    .map [(.text "kind", .list [.text "..."])]])
      = ["kind: '---\n\n  ---'\n", "kind:\n- '...'\n"] := by decide

end Printer

end GatewayPrint
