import GatewayPrint.Proofs.Json.RoundTrip
import GatewayPrint.Proofs.Printer.Stream

/-!
# Cutting a stream of JSON

The object of a resource begins with a brace, ends with a brace on a line of its own, and every line
in between is indented. So a stream of such objects falls apart into them when it is cut after each
line that is only a closing brace (`gather_lines`), whatever their texts hold, and each piece is
read as the resource that it was printed for.

What a piece is read as is the resource with the halves of characters in its texts joined (`heard`).
That is the resource itself when no text in it holds the two halves of a character side by side, and
only then: JSON has one way to write a character beyond the first plane, and it is by its halves.
-/

namespace GatewayPrint

open Outcome

namespace Json

/-! ## Cutting after lines -/

/-- The lines of a text, each with the line feed that ends it. -/
def lines : List Char → List (List Char)
  | [] => []
  | c :: s =>
    if c = '\n' then ['\n'] :: lines s
    else
      match lines s with
      | [] => [[c]]
      | l :: ls => (c :: l) :: ls

/-- A line that is only a closing brace. -/
def isClosing (l : List Char) : Bool := l == ['\x7d', '\n'] || l == ['\x7d']

/-- Lines joined up to each one that is only a closing brace. -/
def gather : List (List Char) → List (List Char)
  | [] => []
  | l :: ls =>
    if isClosing l then l :: gather ls
    else
      match gather ls with
      | [] => [l]
      | p :: ps => (l ++ p) :: ps

/-- A text cut after each line that is only a closing brace. -/
def cut (s : String) : List String := (gather (lines s.toList)).map String.ofList

/-- An object on lines of its own: the first line opens it, the last line closes it, and the others
are indented. -/
def IsObject (s : List Char) : Prop :=
  ∃ a, s = '\x7b' :: a ++ ['\n', '\x7d', '\n'] ∧ Indented ('\x7b' :: a)

variable {a l s : List Char} {ls : List (List Char)} {c : Char}

theorem lines_append (hl : ∀ c ∈ l, c ≠ '\n') (s : List Char) :
    lines (l ++ '\n' :: s) = (l ++ ['\n']) :: lines s := by
  induction l with
  | nil => rfl
  | cons c l ih =>
    rw [List.cons_append, lines, if_neg (hl c List.mem_cons_self),
      ih fun d hd ↦ hl d (List.mem_cons_of_mem c hd)]
    rfl

theorem flatten_lines (s : List Char) : (lines s).flatten = s := by
  induction s with
  | nil => rfl
  | cons c s ih =>
    rw [lines]
    split
    · next hc => rw [hc, List.flatten_cons, ih, List.singleton_append]
    · split
      · next heq => rw [← ih, heq]; rfl
      · next heq => rw [← ih, heq]; rfl

theorem lines_of_not_mem {c : Char} (h : '\n' ∉ c :: s) : lines (c :: s) = [c :: s] := by
  induction s generalizing c with
  | nil =>
    rw [List.mem_cons, not_or] at h
    rw [lines, if_neg (Ne.symm h.1), lines]
  | cons d s ih =>
    rw [List.mem_cons, not_or] at h
    rw [lines, if_neg (Ne.symm h.1), ih h.2]

/-- A text that ends its last line. -/
def IsEnded (s : List Char) : Prop := s = [] ∨ ∃ w, s = w ++ ['\n']

/-- The lines after a text that ends its last line are lines of their own. -/
theorem IsEnded.lines_append (h : IsEnded s) (t : List Char) :
    lines (s ++ t) = lines s ++ lines t := by
  rcases h with rfl | ⟨w, rfl⟩
  · rfl
  · rw [List.append_assoc, List.singleton_append]
    induction w with
    | nil => rfl
    | cons c w ih =>
      rw [List.cons_append, List.cons_append, lines, lines]
      split
      · rw [ih, List.cons_append]
      · have hne : lines (w ++ ['\n']) ≠ [] := by
          intro hnil
          have hflat := flatten_lines (w ++ ['\n'])
          rw [hnil] at hflat
          exact List.append_ne_nil_of_right_ne_nil w (List.cons_ne_nil _ _) hflat.symm
        obtain ⟨l, ls, hls⟩ := List.exists_cons_of_ne_nil hne
        rw [ih, hls]
        rfl

theorem isClosing_of_head (hl : (l ++ ['\n']).head? ≠ some '\x7d') :
    isClosing (l ++ ['\n']) = false := by
  rw [isClosing, Bool.or_eq_false_iff, beq_eq_false_iff_ne, beq_eq_false_iff_ne]
  refine ⟨fun h ↦ hl ?_, fun h ↦ hl ?_⟩ <;> rw [h] <;> rfl

/-- A line that is not closing goes in front of the next piece. -/
theorem gather_cons {p : List Char} {ps : List (List Char)} (hl : isClosing l = false)
    (h : gather ls = p :: ps) : gather (l :: ls) = (l ++ p) :: ps := by
  rw [gather, hl, if_neg Bool.false_ne_true, h]

/-- The rest of an object: `l` is what the current line holds so far. -/
theorem gather_rest (ha : Indented a) (hl : ∀ c ∈ l, c ≠ '\n')
    (hhead : (l ++ a).head? ≠ some '\x7d') (s : List Char) :
    gather (lines (l ++ (a ++ '\n' :: '\x7d' :: '\n' :: s)))
      = (l ++ (a ++ ['\n', '\x7d', '\n'])) :: gather (lines s) := by
  -- After a line feed comes a space, so no line of the rest is only a closing brace.
  induction a generalizing l with
  | nil =>
    have hclosing : isClosing (l ++ ['\n']) = false := by
      refine isClosing_of_head ?_
      cases l with
      | nil => decide
      | cons c l => exact hhead
    have hlast : gather (lines ('\x7d' :: '\n' :: s)) = ['\x7d', '\n'] :: gather (lines s) := rfl
    rw [List.nil_append, lines_append hl, gather_cons hclosing hlast, List.append_assoc]
    rfl
  | cons c a ih =>
    by_cases hc : c = '\n'
    · subst hc
      have hspace : a.head? = some ' ' := ha.1 rfl
      have hrest := ih ha.2 (l := []) (fun c hc ↦ nomatch hc)
        (by rw [List.nil_append, hspace]; decide)
      have hclosing : isClosing (l ++ ['\n']) = false := by
        refine isClosing_of_head ?_
        cases l with
        | nil => decide
        | cons c l => exact hhead
      rw [List.nil_append, List.nil_append] at hrest
      rw [List.cons_append, lines_append hl, gather_cons hclosing hrest, List.append_assoc]
      rfl
    · have hlc : ∀ d ∈ l ++ [c], d ≠ '\n' := by
        intro d hd
        rcases List.mem_append.mp hd with hd | hd
        · exact hl d hd
        · rwa [List.mem_singleton.mp hd]
      have hrest := ih ha.2 hlc (by rwa [List.append_assoc])
      simpa only [List.append_assoc, List.cons_append, List.nil_append] using hrest

private theorem gather_object (h : IsObject s) (rest : List Char) :
    gather (lines (s ++ rest)) = s :: gather (lines rest) := by
  obtain ⟨a, rfl, ha⟩ := h
  have hrest := gather_rest (l := []) ha (fun c hc ↦ nomatch hc)
    (fun h ↦ absurd (Option.some.inj h) (by decide)) rest
  simpa only [List.nil_append, List.append_assoc, List.cons_append] using hrest

/-- **A stream of objects** is cut into them. -/
theorem gather_lines {ds : List (List Char)} (h : ∀ d ∈ ds, IsObject d) :
    gather (lines ds.flatten) = ds := by
  induction ds with
  | nil => rfl
  | cons d ds ih =>
    rw [List.flatten_cons, gather_object (h d List.mem_cons_self),
      ih fun e he ↦ h e (List.mem_cons_of_mem d he)]

end Json

namespace Printer

open Json (IsObject heard isLineAscii)

variable {p : Printer} {v : Value} {vs : List Value} {s : String}

/-! ## Calls of a JSON printer -/

/-- The objects of the resources that have one. -/
def objects (vs : List Value) : List String :=
  vs.filterMap fun v ↦ (OutputFormat.json.document v).toOption

theorem objects_cons_of_ok (h : OutputFormat.json.document v = .ok s) :
    objects (v :: vs) = s :: objects vs :=
  List.filterMap_cons_some (congrArg Except.toOption h)

theorem objects_cons_of_error {e : PrintFault} (h : OutputFormat.json.document v = .error e) :
    objects (v :: vs) = objects vs :=
  List.filterMap_cons_none (congrArg Except.toOption h)

/-- **One call** writes the object of the resource, or nothing. -/
theorem out_print_json (hp : p.format = .json) (v : Value) :
    (p.print v).out = (OutputFormat.json.document v).toOption.getD "" := by
  rw [print]
  cases hn : Resource.normalize v with
  | error e => rw [OutputFormat.document_of_refused hn]; rfl
  | ok data =>
    rw [OutputFormat.document_of_normalize hn, OutputFormat.write, hp]
    dsimp only [printJson]
    cases Json.write data <;> rfl

theorem toList_stream_json (hp : p.format = .json) (vs : List Value) :
    (p.stream vs).toList = ((objects vs).map String.toList).flatten := by
  rw [toList_stream]
  induction vs generalizing p with
  | nil => rfl
  | cons v vs ih =>
    rw [chars_cons, out_print_json hp, ih ((format_print p v).trans hp)]
    cases hd : OutputFormat.json.document v with
    | error e => rw [objects_cons_of_error hd]; rfl
    | ok d => rw [objects_cons_of_ok hd]; rfl

/-- The calls that do not fail write the objects, in order. -/
theorem out_calls_json (hp : p.format = .json) (vs : List Value) :
    ((p.calls vs).filter (·.fault.isNone)).map Printed.out = objects vs := by
  induction vs generalizing p with
  | nil => rfl
  | cons v vs ih =>
    have hfault : (p.print v).fault = OutputFormat.json.fault? v := by rw [fault_print, hp]
    have hout := out_print_json hp v
    have hrest := ih ((format_print p v).trans hp)
    rw [OutputFormat.fault?] at hfault
    cases hd : OutputFormat.json.document v with
    | error e =>
      rw [hd] at hfault
      rw [calls, List.filter_cons_of_neg (by rw [hfault]; exact Bool.false_ne_true), hrest,
        objects_cons_of_error hd]
    | ok d =>
      rw [hd] at hfault hout
      rw [calls, List.filter_cons_of_pos (by rw [hfault]; rfl), List.map_cons, hrest, hout,
        objects_cons_of_ok hd]
      rfl

private theorem out_of_fault_json (hp : p.format = .json) {r : Printed} (hr : r ∈ p.calls vs)
    (hfault : r.fault ≠ none) : r.out = "" := by
  induction vs generalizing p with
  | nil => cases hr
  | cons v vs ih =>
    rcases List.mem_cons.mp hr with rfl | hr
    · rw [fault_print, hp, OutputFormat.fault?] at hfault
      rw [out_print_json hp]
      cases hd : OutputFormat.json.document v with
      | error e => rfl
      | ok d =>
        rw [hd] at hfault
        exact absurd rfl hfault
    · exact ih ((format_print p v).trans hp) hr

/-! ## Resources of plain data -/

/-- The object of a resource. -/
structure IsObjectOf (v : Value) (s : String) : Prop where
  document : OutputFormat.json.document v = .ok s
  object : IsObject s.toList
  ascii : ∀ c ∈ s.toList, isLineAscii c = true
  reads : Json.read? s = some (heard v)

/-- **A resource of plain data** has an object. -/
theorem exists_object (h : PlainResource v) : ∃ s, IsObjectOf v s := by
  obtain ⟨es, rfl, hes, hkind⟩ := h
  have hnorm := Resource.normalize_eq hes.plainData hkind
  cases hes with
  | @map _ hkeys hnodup hvalues =>
  -- A resource names its kind, so its mapping is not the empty one, which would be on one line.
  cases es with
  | nil => rcases hkind with h | h <;> cases h
  | cons e es =>
    have htexts := textKeys_of_keys hkeys
    obtain ⟨a, hw, ha⟩ : ∃ a, Json.Written 0 (.map (e :: es)) _ ∧ _ :=
      Json.written_entries htexts fun f hf ↦ Json.written (hvalues f hf) 1
    refine ⟨String.ofList ('\x7b' :: a ++ ['\n', '\x7d'] ++ ['\n']), ?_, ?_, ?_,
      Json.read?_of_written hw⟩
    · rw [OutputFormat.document_of_normalize hnorm, OutputFormat.write, Json.write, hw.writes]
      rw [String.ofList_append]
      rfl
    · rw [String.toList_ofList, List.append_assoc]
      exact ⟨a, rfl, ha⟩
    · rw [String.toList_ofList]
      intro c hc
      rcases List.mem_append.mp hc with hc | hc
      · exact hw.ascii c hc
      · rw [List.mem_singleton.mp hc]
        rfl

theorem isObjectOf (h : PlainResource v) (hs : OutputFormat.json.document v = .ok s) :
    IsObjectOf v s := by
  obtain ⟨d, hd⟩ := exists_object h
  cases hd.document.symm.trans hs
  exact hd

/-! ## The stream -/

/-- The values that a JSON printer prints. -/
def printed (vs : List Value) : List Value :=
  vs.filter fun v ↦ (OutputFormat.json.fault? v).isNone

theorem printed_cons_of_ok (h : OutputFormat.json.document v = .ok s) :
    printed (v :: vs) = v :: printed vs :=
  List.filter_cons_of_pos (by rw [OutputFormat.fault?, h]; rfl)

theorem printed_cons_of_error {e : PrintFault} (h : OutputFormat.json.document v = .error e) :
    printed (v :: vs) = printed vs :=
  List.filter_cons_of_neg (by rw [OutputFormat.fault?, h]; exact Bool.false_ne_true)

theorem mem_printed (hv : v ∈ vs) (h : OutputFormat.json.document v = .ok s) : v ∈ printed vs :=
  List.mem_filter.mpr ⟨hv, by rw [OutputFormat.fault?, h]; rfl⟩

/-- What is true of the objects of plain data is true of all that is on the stream. -/
theorem forall_objects {P : String → Prop} (hvs : ∀ v ∈ printed vs, PlainResource v)
    (hP : ∀ v s, IsObjectOf v s → P s) : ∀ s ∈ objects vs, P s := by
  intro s hs
  obtain ⟨v, hv, hdoc⟩ := List.mem_filterMap.mp hs
  have hdoc : OutputFormat.json.document v = .ok s := eq_ok_of_toOption hdoc
  exact hP v s (isObjectOf (hvs v (mem_printed hv hdoc)) hdoc)

theorem map_read?_objects (hvs : ∀ v ∈ printed vs, PlainResource v) :
    (objects vs).map Json.read? = (printed vs).map fun v ↦ some (heard v) := by
  induction vs with
  | nil => rfl
  | cons v vs ih =>
    cases hd : OutputFormat.json.document v with
    | error e =>
      rw [printed_cons_of_error hd] at hvs ⊢
      rw [objects_cons_of_error hd, ih hvs]
    | ok s =>
      rw [printed_cons_of_ok hd] at hvs ⊢
      rw [objects_cons_of_ok hd, List.map_cons, List.map_cons,
        (isObjectOf (hvs v List.mem_cons_self) hd).reads,
        ih fun u hu ↦ hvs u (List.mem_cons_of_mem v hu)]

private theorem cut_stream_json (hp : p.format = .json) (hvs : ∀ v ∈ printed vs, PlainResource v) :
    Json.cut (p.stream vs) = objects vs := by
  have hobjects : ∀ d ∈ (objects vs).map String.toList, IsObject d :=
    List.forall_mem_map.mpr (forall_objects hvs fun _ _ h ↦ h.object)
  rw [Json.cut, toList_stream_json hp, Json.gather_lines hobjects, List.map_map]
  exact (List.map_congr_left fun s _ ↦ String.ofList_toList).trans (List.map_id _)

/-- **The pieces** are read as what is heard of the values that were printed. -/
theorem map_read?_cut (hp : p.format = .json) (hvs : ∀ v ∈ printed vs, PlainResource v) :
    (Json.cut (p.stream vs)).map Json.read? = (printed vs).map fun v ↦ some (heard v) := by
  rw [cut_stream_json hp hvs, map_read?_objects hvs]

/-- **A JSON stream** in which only resources of plain data were printed: it is in printable ASCII
and line feeds; cut after each line that is only a closing brace, it falls apart into what the calls
that did not fail have written, in order; and the pieces are read as what is heard of the values
that were printed, with their entries in order. That is a value itself when its texts keep halves
apart, and only then; so it is when they hold no halves. Every resource of plain data is printed,
and a call that fails writes nothing. -/
theorem stream_splits (hp : p.format = .json) (hvs : ∀ v ∈ printed vs, PlainResource v) :
    (∀ v ∈ vs, PlainResource v → v ∈ printed vs) ∧
      (p.calls vs).map Printed.fault = vs.map OutputFormat.json.fault? ∧
      (∀ r ∈ p.calls vs, r.fault ≠ none → r.out = "") ∧
      (∀ c ∈ (p.stream vs).toList, isLineAscii c = true) ∧
      Json.cut (p.stream vs) = ((p.calls vs).filter (·.fault.isNone)).map Printed.out ∧
      (Json.cut (p.stream vs)).map Json.read? = (printed vs).map (fun v ↦ some (heard v)) ∧
      (∀ v ∈ printed vs, heard v = v ↔ PrintableWith Json.HalvesApart v) ∧
      ∀ v ∈ printed vs, PrintableWith (fun s ↦ ∀ c ∈ s.toList, Text.isHalf c = false) v →
        heard v = v := by
  have hheard : ∀ v ∈ printed vs, heard v = v ↔ PrintableWith Json.HalvesApart v := by
    intro v hv
    obtain ⟨es, rfl, hes, -⟩ := hvs v hv
    exact Json.heard_eq_iff hes
  refine ⟨fun v hv h ↦ ?_, ?_, fun r hr ↦ out_of_fault_json hp hr, ?_, ?_, map_read?_cut hp hvs,
    hheard, fun v hv h ↦ (hheard v hv).mpr (h.mono fun _ ↦ Json.halvesApart_of_not_isHalf)⟩
  · obtain ⟨s, hs⟩ := exists_object h
    exact mem_printed hv hs.document
  · rw [fault_calls, hp]
  · rw [toList_stream_json hp]
    intro c hc
    obtain ⟨d, hd, hc⟩ := List.mem_flatten.mp hc
    obtain ⟨s, hs, rfl⟩ := List.mem_map.mp hd
    exact forall_objects hvs (fun _ _ h ↦ h.ascii) s hs c hc
  · rw [cut_stream_json hp hvs, out_calls_json hp]

/-- A resource with a line of a closing brace and a character beyond the first plane in its
texts. -/
def bracedResource : Value :=
  .map [(.text "kind", .text "\x7d\n\x7d\n"), (.text "😀", .list [.int (-12), .map [], .null])]

theorem printable_braced : PrintableWith Json.HalvesApart bracedResource := by
  refine .map ?_ (by simp) ?_
  · simp only [List.forall_mem_cons]
    exact ⟨⟨"kind", by decide, rfl⟩, ⟨"😀", by decide, rfl⟩, nofun⟩
  · simp only [List.forall_mem_cons]
    refine ⟨.text (by decide), .list ?_, nofun⟩
    simp only [List.forall_mem_cons]
    exact ⟨.int (by decide), .map nofun .nil nofun, .null, nofun⟩

theorem stream_splits_braced :
    (Json.cut ((new .json).stream [bracedResource, .null, bracedResource])).map Json.read?
      = [some bracedResource, some bracedResource] := by
  have hplain : PlainResource bracedResource :=
    ⟨_, rfl, printable_braced.mono fun _ _ ↦ trivial, .inr rfl⟩
  obtain ⟨s, hs⟩ := exists_object hplain
  have hprinted : printed [bracedResource, .null, bracedResource]
      = [bracedResource, bracedResource] := by
    rw [printed_cons_of_ok hs.document, printed_cons_of_error rfl, printed_cons_of_ok hs.document]
    rfl
  have hvs : ∀ v ∈ printed [bracedResource, .null, bracedResource], PlainResource v := by
    rw [hprinted]
    simpa using hplain
  obtain ⟨-, -, -, -, -, hread, hheard, -⟩ := stream_splits (p := new .json) rfl hvs
  have hbraced := hheard bracedResource (by rw [hprinted]; exact List.mem_cons_self)
  rw [hread, hprinted, List.map_cons, List.map_cons, List.map_nil, hbraced.mpr printable_braced]

/-- The two halves of a character as characters of their own. -/
def twoHalves : String := String.ofList [Text.ofCodePoint 0xd83d, Text.ofCodePoint 0xde00]

/-- A resource with two halves side by side in one of its texts. -/
def pairedResource : Value := .map [(.text "kind", .text "A"), (.text "note", .text twoHalves)]

theorem stream_pairedResource :
    PlainResource pairedResource ∧ printed [pairedResource] = [pairedResource] ∧
      (Json.cut ((new .json).stream [pairedResource])).map Json.read?
        = [some (.map [(.text "kind", .text "A"), (.text "note", .text "😀")])] ∧
      (Json.cut ((new .json).stream [pairedResource])).map Json.read? ≠ [some pairedResource] := by
  have hplain : PlainResource pairedResource := by
    refine ⟨_, rfl, .map ?_ (by simp) ?_, .inr rfl⟩
    · simp only [List.forall_mem_cons]
      exact ⟨⟨"kind", trivial, rfl⟩, ⟨"note", trivial, rfl⟩, nofun⟩
    · simp only [List.forall_mem_cons]
      exact ⟨.text trivial, .text trivial, nofun⟩
  obtain ⟨s, hs⟩ := exists_object hplain
  have hprinted : printed [pairedResource] = [pairedResource] := printed_cons_of_ok hs.document
  have hheard : heard pairedResource
      = .map [(.text "kind", .text "A"), (.text "note", .text "😀")] := by
    have hpair : Json.joined twoHalves = "😀" := by decide
    have hkind : Json.joined "kind" = "kind" := by decide
    have hnote : Json.joined "note" = "note" := by decide
    have hname : Json.joined "A" = "A" := by decide
    have hkeys : Value.TextKeys [(.text "kind", .text "A"), (.text "note", .text "😀")] := by
      simp [Value.TextKeys]
    simp only [pairedResource, heard, Json.heardEntries, hpair, hkind, hnote, hname, Value.mapOf]
    rw [Value.collect_eq hkeys (by simp)]
  have hread : (Json.cut ((new .json).stream [pairedResource])).map Json.read?
      = [some (.map [(.text "kind", .text "A"), (.text "note", .text "😀")])] := by
    rw [map_read?_cut rfl (by rw [hprinted]; simpa using hplain), hprinted, List.map_singleton,
      hheard]
  refine ⟨hplain, hprinted, hread, ?_⟩
  rw [hread]
  have hne : "😀" ≠ twoHalves := by decide
  simpa [pairedResource] using hne

end Printer

end GatewayPrint
