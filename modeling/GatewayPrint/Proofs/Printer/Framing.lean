import GatewayPrint.Proofs.Printer.Stream

/-!
# Document framing

A YAML printer counts a resource, and writes the separator before it, as soon as the resource is
accepted; the document follows only if its data can be written. So a resource that is accepted and
cannot be written leaves an empty place among the documents, and the text on the stream is that of
the documents joined by separators exactly when there is no such place, or no separator at all.

## The invariant

After `k` accepted resources every further one is preceded by a separator if and only if `k` is not
zero (`chars_succ`, `chars_zero`). What remains is about joined texts alone: joining with empty
places differs in length from joining without them (`intercalate_gaps`).
-/

namespace GatewayPrint

/-! ## Joined texts -/

section Joined

variable {α : Type} {sep x : List α} {xs : List (List α)}

theorem intercalate_cons_eq (sep x : List α) (xs : List (List α)) :
    sep.intercalate (x :: xs) = x ++ xs.flatMap (sep ++ ·) := by
  induction xs generalizing x with
  | nil => simp
  | cons y ys ih => rw [List.intercalate_cons_cons, ih, List.flatMap_cons, List.append_assoc,
      List.append_assoc]

theorem length_intercalate (sep : List α) (xs : List (List α)) :
    (sep.intercalate xs).length = sumOf (xs.map List.length) + sep.length * (xs.length - 1) := by
  cases xs with
  | nil => simp
  | cons x xs =>
    have hrest : (xs.flatMap (sep ++ ·)).length
        = sumOf (xs.map List.length) + sep.length * xs.length := by
      induction xs with
      | nil => simp
      | cons y ys ih =>
        rw [List.flatMap_cons, List.length_append, ih, List.map_cons, sumOf_cons,
          List.length_append, List.length_cons, Nat.mul_succ]
        omega
    rw [intercalate_cons_eq, List.length_append, hrest, List.map_cons, sumOf_cons,
      List.length_cons, Nat.add_sub_cancel, Nat.add_assoc]

private theorem sum_length_gaps (ps : List (Option (List α))) :
    sumOf ((ps.map (·.getD [])).map List.length) = sumOf ((ps.filterMap id).map List.length) := by
  induction ps with
  | nil => rfl
  | cons p ps ih =>
    cases p with
    | none => simpa using ih
    | some x => simpa using ih

theorem map_getD_of_not_mem {ps : List (Option (List α))} (h : none ∉ ps) :
    ps.map (·.getD []) = ps.filterMap id := by
  induction ps with
  | nil => rfl
  | cons p ps ih =>
    rw [List.mem_cons, not_or] at h
    cases p with
    | none => exact absurd rfl h.1
    | some x => simpa using ih h.2

theorem length_filterMap_lt {ps : List (Option (List α))} (h : none ∈ ps) :
    (ps.filterMap id).length < ps.length := by
  induction ps with
  | nil => exact absurd h List.not_mem_nil
  | cons p ps ih =>
    cases p with
    | none => exact Nat.lt_succ_of_le (List.length_filterMap_le id ps)
    | some x =>
      have htail : none ∈ ps := by simpa using h
      exact Nat.succ_lt_succ (ih htail)

/-- Empty places show in a joined text, unless there is only one place. -/
theorem intercalate_gaps (hsep : sep ≠ []) (ps : List (Option (List α))) :
    sep.intercalate (ps.map (·.getD [])) = sep.intercalate (ps.filterMap id) ↔
      none ∉ ps ∨ ps.length ≤ 1 := by
  constructor
  · intro heq
    by_contra hgap
    rw [not_or, not_not, Nat.not_le] at hgap
    obtain ⟨hnone, hlen⟩ := hgap
    have hlengths := congrArg List.length heq
    rw [length_intercalate, length_intercalate, sum_length_gaps, List.length_map] at hlengths
    have hplaces : (ps.filterMap id).length - 1 < ps.length - 1 := by
      have := length_filterMap_lt hnone
      omega
    -- Each place but the last brings a separator, so places that are left out show in the length.
    have hless := Nat.mul_lt_mul_of_pos_left hplaces (List.length_pos_iff.mpr hsep)
    omega
  · rintro (hnone | hlen)
    · rw [map_getD_of_not_mem hnone]
    · match ps, hlen with
      | [], _ => rfl
      | [none], _ => rfl
      | [some x], _ => rfl

end Joined

namespace Printer

/-! ## Calls of a YAML printer -/

variable {v : Value} {vs : List Value}

def isAccepted (v : Value) : Bool :=
  match Resource.normalize v with
  | .ok _ => true
  | .error _ => false

/-- The document of a resource, if it has one. -/
def document? (v : Value) : Option String := (OutputFormat.yaml.document v).toOption

/-- What stands in the place of an accepted resource: its document, or nothing. -/
def place (v : Value) : List Char := ((document? v).map String.toList).getD []

def separator : String := "---\n"

/-- What an accepted resource is preceded by, after `k` others. -/
def lead (k : Nat) : List Char := if k = 0 then [] else separator.toList

private theorem document?_of_refused (h : isAccepted v = false) : document? v = none := by
  rw [isAccepted] at h
  split at h
  · cases h
  · next e he => rw [document?, OutputFormat.document_of_refused he]; rfl

/-- **One call** writes nothing for a resource that is refused. Otherwise the resource counts, and
its place is written after the separator. -/
theorem print_yaml (k : Nat) (v : Value) :
    (Printer.print ⟨.yaml, k⟩ v).out.toList = (if isAccepted v then lead k ++ place v else []) ∧
      (Printer.print ⟨.yaml, k⟩ v).printer = ⟨.yaml, if isAccepted v then k + 1 else k⟩ := by
  cases hn : Resource.normalize v with
  | error e =>
    have hv : isAccepted v = false := by rw [isAccepted, hn]
    rw [print_of_refused hn, hv]
    exact ⟨rfl, rfl⟩
  | ok data =>
    -- The count goes up and the separator is written before the document is known to exist.
    have hv : isAccepted v = true := by rw [isAccepted, hn]
    have hlead : (if k = 0 then "" else "---\n").toList = lead k := by
      rw [lead, separator]
      split <;> rfl
    rw [print, hn, hv, if_pos rfl, if_pos rfl, place, document?,
      OutputFormat.document_of_normalize hn, OutputFormat.write]
    dsimp only
    cases hw : Yaml.write data with
    | ok s =>
      rw [printYaml, hw]
      refine ⟨?_, rfl⟩
      rw [String.toList_append, hlead]
      rfl
    | error e =>
      rw [printYaml, hw]
      exact ⟨hlead.trans (List.append_nil _).symm, rfl⟩

theorem chars_cons_yaml (k : Nat) (v : Value) (vs : List Value) :
    Printer.chars ⟨.yaml, k⟩ (v :: vs) =
      if isAccepted v then lead k ++ place v ++ Printer.chars ⟨.yaml, k + 1⟩ vs
      else Printer.chars ⟨.yaml, k⟩ vs := by
  obtain ⟨hout, hprinter⟩ := print_yaml k v
  rw [chars_cons, hout, hprinter]
  split <;> rfl

/-- After some accepted resource, each one is preceded by a separator. -/
theorem chars_succ (k : Nat) (vs : List Value) :
    Printer.chars ⟨.yaml, k + 1⟩ vs =
      ((vs.filter isAccepted).map place).flatMap (separator.toList ++ ·) := by
  induction vs generalizing k with
  | nil => rfl
  | cons v vs ih =>
    rw [chars_cons_yaml]
    split
    · next hv =>
      rw [ih, List.filter_cons_of_pos hv, List.map_cons, List.flatMap_cons]
      rfl
    · next hv => rw [ih, List.filter_cons_of_neg hv]

/-- The first accepted resource is not preceded by anything. -/
theorem chars_zero (vs : List Value) :
    Printer.chars ⟨.yaml, 0⟩ vs =
      separator.toList.intercalate ((vs.filter isAccepted).map place) := by
  induction vs with
  | nil => rfl
  | cons v vs ih =>
    rw [chars_cons_yaml]
    split
    · next hv =>
      rw [chars_succ, List.filter_cons_of_pos hv, List.map_cons, intercalate_cons_eq]
      rfl
    · next hv => rw [ih, List.filter_cons_of_neg hv]

/-- The number of resources that the printer has accepted is all that it keeps. -/
theorem calls_append (k : Nat) (us vs : List Value) :
    Printer.calls ⟨.yaml, k⟩ (us ++ vs) =
      Printer.calls ⟨.yaml, k⟩ us ++
        Printer.calls ⟨.yaml, k + (us.filter isAccepted).length⟩ vs := by
  induction us generalizing k with
  | nil => rfl
  | cons u us ih =>
    rw [List.cons_append, calls, calls, (print_yaml k u).2, ih, List.cons_append]
    split
    · next hu => rw [List.filter_cons_of_pos hu, List.length_cons, Nat.add_right_comm]; rfl
    · next hu => rw [List.filter_cons_of_neg hu]

/-! ## The text on the stream -/

/-- The places of accepted resources, empty where there is no document. -/
def places (vs : List Value) : List (Option (List Char)) :=
  (vs.filter isAccepted).map fun v ↦ (document? v).map String.toList

private theorem filterMap_places (vs : List Value) :
    (places vs).filterMap id = (vs.filterMap document?).map String.toList := by
  induction vs with
  | nil => rfl
  | cons v vs ih =>
    cases hv : isAccepted v with
    | false =>
      rw [places, List.filter_cons_of_neg (by simp [hv]),
        List.filterMap_cons_none (document?_of_refused hv)]
      exact ih
    | true =>
      rw [places, List.filter_cons_of_pos hv, List.map_cons]
      cases hd : document? v with
      | none =>
        rw [List.filterMap_cons_none hd, Option.map_none, List.filterMap_cons_none rfl]
        exact ih
      | some s =>
        rw [List.filterMap_cons_some hd, Option.map_some, List.map_cons, ← ih]
        rfl

private theorem none_not_mem_places (vs : List Value) :
    none ∉ places vs ↔ ∀ v ∈ vs, isAccepted v → (document? v).isSome := by
  simp only [places, List.mem_map, List.mem_filter, Option.map_eq_none_iff, not_exists, not_and,
    and_imp, Option.isSome_iff_ne_none, ne_eq]

/-- What is written for a resource after others: nothing if it is refused, otherwise its document or
nothing, after a separator if one of the others was accepted. -/
def written (us : List Value) (v : Value) : String :=
  if isAccepted v then (if us.any isAccepted then separator else "") ++ (document? v).getD ""
  else ""

theorem toList_written (us : List Value) (v : Value) :
    (written us v).toList =
      if isAccepted v then lead (us.filter isAccepted).length ++ place v else [] := by
  -- A separator goes before any document but the first that is accepted.
  have hlead : (if us.any isAccepted then separator else "").toList
      = lead (us.filter isAccepted).length := by
    cases hany : us.any isAccepted with
    | false =>
      have hnil : us.filter isAccepted = [] := by
        rw [List.filter_eq_nil_iff]
        simpa using hany
      rw [hnil]
      rfl
    | true =>
      obtain ⟨u, hu, hacc⟩ := List.any_eq_true.mp hany
      have hmem : u ∈ us.filter isAccepted := List.mem_filter.mpr ⟨hu, hacc⟩
      rw [lead, if_neg (Nat.ne_of_gt (List.length_pos_of_mem hmem))]
      rfl
  have hplace : ((document? v).getD "").toList = place v := by
    rw [place]
    cases document? v <;> rfl
  rw [written]
  split
  · rw [String.toList_append, hlead, hplace]
  · rfl

theorem length_calls (p : Printer) (vs : List Value) : (p.calls vs).length = vs.length := by
  have h := congrArg List.length (fault_calls p vs)
  rwa [List.length_map, List.length_map] at h

private theorem calls_out (us : List Value) (v : Value) (vs : List Value) :
    (((new .yaml).calls (us ++ v :: vs))[us.length]?).map Printed.out = some (written us v) := by
  rw [new, calls_append, List.getElem?_append_right (Nat.le_of_eq (length_calls _ us)),
    length_calls, Nat.sub_self, calls, List.getElem?_cons_zero, Option.map_some, Nat.zero_add,
    Option.some_inj, ← String.toList_inj, toList_written, (print_yaml _ v).1]

theorem map_out_calls (vs : List Value) :
    ((new .yaml).calls vs).map Printed.out = vs.mapIdx fun i v ↦ written (vs.take i) v := by
  refine List.ext_getElem? fun i ↦ ?_
  rw [List.getElem?_map, List.getElem?_mapIdx]
  by_cases hi : i < vs.length
  · have hsplit : vs = vs.take i ++ vs[i] :: vs.drop (i + 1) := by simp
    have hcall := calls_out (vs.take i) vs[i] (vs.drop (i + 1))
    rw [← hsplit, List.length_take_of_le (Nat.le_of_lt hi)] at hcall
    rw [hcall, List.getElem?_eq_getElem hi]
    rfl
  · rw [List.getElem?_eq_none (by rwa [length_calls, ← Nat.not_lt]),
      List.getElem?_eq_none (Nat.not_lt.mp hi)]
    rfl

/-- **Document framing.** A call fails exactly when the resource has no document, and it writes what
the resource and the acceptance of an earlier one call for. The text on the stream is that of the
places of accepted resources joined by separators; it is that of the documents joined by separators
if and only if every accepted resource has one, or not more than one resource is accepted. -/
theorem stream_framing (vs : List Value) :
    ((new .yaml).calls vs).map (·.fault.isNone) = vs.map (fun v ↦ (document? v).isSome) ∧
      ((new .yaml).calls vs).map Printed.out = vs.mapIdx (fun i v ↦ written (vs.take i) v) ∧
      (new .yaml).stream vs
        = "---\n".intercalate ((vs.filter isAccepted).map fun v ↦ (document? v).getD "") ∧
      ((new .yaml).stream vs = "---\n".intercalate (vs.filterMap document?) ↔
        (∀ v ∈ vs, isAccepted v → (document? v).isSome) ∨ (vs.filter isAccepted).length ≤ 1) := by
  have hplaces : (vs.filter isAccepted).map place = (places vs).map (·.getD []) := by
    rw [places, List.map_map]
    rfl
  have hstream : ((new .yaml).stream vs).toList
      = separator.toList.intercalate ((places vs).map (·.getD [])) := by
    rw [toList_stream, new, chars_zero, hplaces]
  refine ⟨?_, map_out_calls vs, ?_, ?_⟩
  · have hfaults := congrArg (List.map Option.isNone) (fault_calls (new .yaml) vs)
    rw [List.map_map, List.map_map] at hfaults
    refine hfaults.trans (List.map_congr_left fun v _ ↦ ?_)
    change (OutputFormat.yaml.fault? v).isNone = _
    rw [OutputFormat.fault?, document?]
    cases OutputFormat.yaml.document v <;> rfl
  · refine String.toList_injective ?_
    rw [hstream, ← hplaces, String.toList_intercalate, List.map_map]
    refine congrArg _ (List.map_congr_left fun v _ ↦ ?_)
    rw [place, Function.comp_apply]
    cases document? v <;> rfl
  · rw [← String.toList_inj, hstream, String.toList_intercalate, ← filterMap_places,
      ← none_not_mem_places, show (vs.filter isAccepted).length = (places vs).length from
        (List.length_map _).symm]
    exact intercalate_gaps (by decide) (places vs)

/-- A resource that cannot be written leaves its separator behind. -/
example : (new .yaml).stream [.map [(.text "kind", .text "A")],
    .map [(.text "kind", .text "B"), (.text "size", .member (.decimal (.ofInt 1)))]]
      = "kind: A\n---\n" := by decide +kernel

end Printer

end GatewayPrint
