import GatewayPrint.Proofs.Json.Writable
import GatewayPrint.Resource.Printer
import Mathlib.Data.List.Nodup

/-!
# What normalising promises

A resource is meant to be normalised to a mapping that JSON can hold, or refused as being of a wrong
type or without API version and kind. Whether that is so depends on what is reached in it:

* a set or a read-only mapping below the top has no fields to be read, and an object that exports
  something else than a mapping has no look-up; both end with an error about an attribute;
* bytes, the values that members of enumerations stand for, and the keys of mappings are taken over
  as they are, whatever they are.

Nothing else departs from the promise (`normalize_contract`).
-/

namespace GatewayPrint.Resource

open Outcome

variable {v d : Value} {xs ys : List Value}

/-- Values that bring nothing into a plain form that JSON cannot hold, besides the values inside. -/
def Portable : Value → Prop
  | .bytes _ => False
  | .ref _ => False
  | .member w => Json.Data w
  | .map es => ∀ e ∈ es, Json.ScalarWith (fun _ ↦ True) e.1
  | _ => True

/-- The attributes of an object have different names. The type of values cannot say so, since it is
nested through lists of itself. -/
def NamesDiffer : Value → Prop
  | .record _ attrs => (attrs.map Prod.fst).Nodup
  | _ => True

/-! ## Compatible data -/

/-- Under texts as keys, JSON can hold what it can hold without them. -/
theorem data_map_textEntry (named : List (String × Value)) :
    Json.Data (.map (named.map textEntry)) ↔ ∀ e ∈ named, Json.Data e.2 := by
  refine Json.dataWith_map.trans ?_
  rw [List.forall_mem_map, List.forall_mem_map]
  exact and_iff_right fun e _ ↦ .text e.1

theorem collect_textEntry {named : List (String × Value)} (h : (named.map Prod.fst).Nodup) :
    Value.collect (named.map textEntry) = named.map textEntry := by
  refine Value.collect_eq ?_ ?_
  · intro e he
    obtain ⟨f, -, rfl⟩ := List.mem_map.mp he
    exact ⟨f.1, rfl⟩
  · have hkeys : (named.map textEntry).map Prod.fst = (named.map Prod.fst).map Value.text := by
      rw [List.map_map, List.map_map]
      rfl
    rw [hkeys]
    exact List.Nodup.map (fun s t hst ↦ Value.text.inj hst) h

/-- What stands around plain values is data of JSON exactly when they are and it brings nothing else
with it. -/
theorem data_around (hnames : NamesDiffer v) (ho : ¬Opaque v)
    (hlen : (inside v).length = ys.length) :
    Json.Data (around v ys) ↔ Portable v ∧ ∀ y ∈ ys, Json.Data y := by
  -- Around a value without parts nothing can stand, so only the value itself is asked about.
  have hscalar (hys : inside v = []) (hv : Json.Data (around v ys) ↔ Portable v) :
      Json.Data (around v ys) ↔ Portable v ∧ ∀ y ∈ ys, Json.Data y := by
    rw [hys, List.length_nil] at hlen
    rw [hv, List.eq_nil_of_length_eq_zero hlen.symm]
    exact (and_iff_left fun y hy ↦ absurd hy List.not_mem_nil).symm
  cases v with
  | set items => exact absurd (.set items) ho
  | view es => exact absurd (.view es) ho
  | list items => exact Json.dataWith_list.trans (and_iff_right trivial).symm
  | tuple items => exact Json.dataWith_tuple.trans (and_iff_right trivial).symm
  | map es =>
    have hlen : (es.map Prod.fst).length = ys.length := by
      rw [← hlen, inside, List.length_map, List.length_map]
    refine Json.dataWith_map.trans ?_
    rw [forall_zip_snd hlen, forall_zip_fst hlen, List.forall_mem_map, Portable]
  | model kind attrs =>
    have hlen : ((wireFields kind attrs).map Prod.fst).length = ys.length := by
      rw [← hlen, inside, List.length_map, List.length_map]
    rw [around, data_map_textEntry, forall_zip_snd hlen]
    exact (and_iff_right trivial).symm
  | record declared attrs =>
    have hlen : (attrs.map Prod.fst).length = ys.length := by
      rw [← hlen, inside, List.length_map, List.length_map]
    have hnodup : (((attrs.map Prod.fst).zip ys).map Prod.fst).Nodup := by
      rw [List.map_fst_zip (Nat.le_of_eq hlen)]
      exact hnames
    rw [around, Value.mapOf, collect_textEntry hnodup, data_map_textEntry, forall_zip_snd hlen]
    exact (and_iff_right trivial).symm
  | exporting w =>
    obtain ⟨y, rfl⟩ := List.length_eq_one_iff.mp hlen.symm
    rw [List.forall_mem_singleton]
    exact (and_iff_right trivial).symm
  | bytes | ref =>
    refine hscalar rfl (iff_of_false ?_ id)
    rintro ⟨⟨⟩⟩
  | member w => exact hscalar rfl Iff.rfl
  | null => exact hscalar rfl (iff_of_true (.scalar .null) trivial)
  | bool b => exact hscalar rfl (iff_of_true (.scalar (.bool b)) trivial)
  | int n => exact hscalar rfl (iff_of_true (.scalar (.int trivial)) trivial)
  | float x => exact hscalar rfl (iff_of_true (.scalar (.float x)) trivial)
  | _ => exact hscalar rfl (iff_of_true (.scalar (.text _)) trivial)

/-- **The plain form of a value is data of JSON** exactly when all that is reached in the value is
portable. -/
theorem data_iff_portable (hnames : Throughout NamesDiffer v) (h : plain v = .ok d) :
    Json.Data d ↔ Throughout Portable v := by
  induction v using induction_inside generalizing d with
  | h v ih =>
  obtain ⟨hv, hinside⟩ := throughout_iff.mp hnames
  have ho := not_opaque_of_plain h
  obtain ⟨ys, hys, rfl⟩ := (plain_eq_ok ho).mp h
  rw [data_around hv ho hys.length_eq, throughout_iff]
  refine and_congr_right fun _ ↦ ?_
  constructor
  · intro hdata x hx
    obtain ⟨y, hy, hxy⟩ := exists_right_of_mem hys hx
    exact (ih x hx (hinside x hx) hxy).mp (hdata y hy)
  · intro hportable y hy
    obtain ⟨x, hx, hxy⟩ := exists_left_of_mem hys hy
    exact (ih x hx (hinside x hx) hxy).mpr (hportable x hx)

/-! ## Outcomes -/

theorem normalize_cases (v : Value) :
    (¬IsResource v ∧ normalize v = .error (.notResource v.kindName)) ∨
    (IsResource v ∧ (∃ u, HasPart (body v) u ∧ Opaque u) ∧
      ∃ kind, normalize v = .error (.noFields kind)) ∨
    (∃ d, IsResource v ∧ plain (body v) = .ok d ∧ ¬Mapping d ∧
      normalize v = .error (.noLookup d.qualifiedKind)) ∨
    (∃ d, IsResource v ∧ plain (body v) = .ok d ∧ Mapping d ∧ ¬NamedMapping d ∧
      normalize v = .error .missingKind) ∨
    ∃ d, IsResource v ∧ plain (body v) = .ok d ∧ NamedMapping d ∧ normalize v = .ok d := by
  by_cases hv : IsResource v
  · have hdata := data_of_isResource hv
    cases hplain : plain (body v) with
    | error f =>
      obtain ⟨u, hu, ho, rfl⟩ := exists_opaque_of_error hplain
      refine .inr (.inl ⟨hv, ⟨u, hu, ho⟩, u.kindName, ?_⟩)
      rw [normalize, hdata, hplain, error_bind]
    | ok d =>
      rw [hplain] at hdata
      by_cases hmapping : Mapping d
      · by_cases hnamed : NamedMapping d
        · exact .inr (.inr (.inr (.inr
            ⟨d, hv, rfl, hnamed, normalize_of_namedMapping hdata hnamed⟩)))
        · exact .inr (.inr (.inr (.inl
            ⟨d, hv, rfl, hmapping, hnamed, normalize_of_mapping hdata hmapping hnamed⟩)))
      · exact .inr (.inr (.inl ⟨d, hv, rfl, hmapping, normalize_of_not_mapping hdata hmapping⟩))
  · refine .inl ⟨hv, ?_⟩
    rw [normalize, data_of_not_isResource hv, error_bind]

/-- A printer of JSON writes an accepted resource exactly when its data is written as JSON. -/
theorem fault_print_json {p : Printer} (hp : p.format = .json) (h : normalize v = .ok d) :
    (p.print v).fault = none ↔ Json.DataWith Json.FewDigits d := by
  rw [← Json.exists_write_iff, Printer.print, h]
  simp only [hp, Printer.printJson]
  cases Json.write d <;> simp

theorem typeError_iff :
    (∃ f, normalize v = .error f ∧ f.errorName = "TypeError") ↔ ¬IsResource v := by
  rcases normalize_cases v with ⟨hv, h⟩ | ⟨hv, -, kind, h⟩ | ⟨d, hv, -, -, h⟩ |
    ⟨d, hv, -, -, -, h⟩ | ⟨d, hv, -, -, h⟩ <;> simp [h, hv, Fault.errorName]

theorem attributeError_iff :
    (∃ f, normalize v = .error f ∧ f.errorName = "AttributeError") ↔ IsResource v ∧
      ((∃ u, HasPart (body v) u ∧ Opaque u) ∨ ∃ d, plain (body v) = .ok d ∧ ¬Mapping d) := by
  have hmapping {d : Value} (hd : plain (body v) = .ok d) (hm : Mapping d) :
      ¬((∃ u, HasPart (body v) u ∧ Opaque u) ∨ ∃ d, plain (body v) = .ok d ∧ ¬Mapping d) := by
    rintro (⟨u, hu, ho⟩ | ⟨d', hd', hm'⟩)
    · exact not_opaque_of_hasPart hd hu ho
    · rw [hd] at hd'
      cases hd'
      exact hm' hm
  rcases normalize_cases v with ⟨hv, h⟩ | ⟨hv, ho, kind, h⟩ | ⟨d, hv, hd, hm, h⟩ |
    ⟨d, hv, hd, hm, -, h⟩ | ⟨d, hv, hd, hn, h⟩
  · simp [h, hv, Fault.errorName]
  · exact iff_of_true ⟨_, h, rfl⟩ ⟨hv, .inl ho⟩
  · exact iff_of_true ⟨_, h, rfl⟩ ⟨hv, .inr ⟨d, hd, hm⟩⟩
  · simp [h, hmapping hd hm, Fault.errorName]
  · simp [h, hmapping hd hn.mapping]

theorem valueError_iff :
    (∃ f, normalize v = .error f ∧ f.errorName = "ValueError") ↔ IsResource v ∧
      ∃ d, plain (body v) = .ok d ∧ Mapping d ∧ ¬NamedMapping d := by
  rcases normalize_cases v with ⟨hv, h⟩ | ⟨hv, ho, kind, h⟩ | ⟨d, hv, hd, hm, h⟩ |
    ⟨d, hv, hd, hm, hn, h⟩ | ⟨d, hv, hd, hn, h⟩
  · simp [h, hv, Fault.errorName]
  · obtain ⟨f, hf⟩ := plain_eq_error_iff.mpr ho
    simp [h, hf, Fault.errorName]
  · simp [h, hd, hm, Fault.errorName]
  · exact iff_of_true ⟨_, h, rfl⟩ ⟨hv, d, hd, hm, hn⟩
  · simp [h, hd, hn]

/-- **What normalising promises.** Objects that are no resources are refused by a type error, and
resources with neither an API version nor a kind by a value error. In place of these stands an error
about an attribute where a set or a read-only mapping is reached, or the data is no mapping. What is
accepted has an API version or a kind. JSON can hold it exactly when all that is reached is
portable, and a printer of JSON writes it exactly when its whole numbers have not too many digits
besides. -/
theorem normalize_contract (hnames : Throughout NamesDiffer (body v)) :
    ((∃ f, normalize v = .error f ∧ f.errorName = "TypeError") ↔ ¬IsResource v) ∧
    ((∃ f, normalize v = .error f ∧ f.errorName = "AttributeError") ↔ IsResource v ∧
      ((∃ u, HasPart (body v) u ∧ Opaque u) ∨ ∃ d, plain (body v) = .ok d ∧ ¬Mapping d)) ∧
    ((∃ f, normalize v = .error f ∧ f.errorName = "ValueError") ↔ IsResource v ∧
      ∃ d, plain (body v) = .ok d ∧ Mapping d ∧ ¬NamedMapping d) ∧
    ∀ d, normalize v = .ok d → NamedMapping d ∧
      (Json.Data d ↔ Throughout Portable (body v)) ∧
      ∀ p : Printer, p.format = .json →
        ((p.print v).fault = none ↔ Json.DataWith Json.FewDigits d) := by
  refine ⟨typeError_iff, attributeError_iff, valueError_iff, fun d h ↦ ?_⟩
  obtain ⟨hdata, hnamed⟩ := normalize_eq_ok.mp h
  exact ⟨hnamed, data_iff_portable hnames (plain_body hdata), fun p hp ↦ fault_print_json hp h⟩

/-- An object of a declared class with a member that stands for an exact number. -/
def sizedObject : Value :=
  .record true [("kind", .text "Disk"), ("size", .member (.decimal (.finite false ['1'] 0)))]

/-- What it is normalised to. -/
def sizedDict : Value :=
  .map [(.text "kind", .text "Disk"), (.text "size", .decimal (.finite false ['1'] 0))]

theorem normalize_contract_sizedObject :
    Throughout NamesDiffer (body sizedObject) ∧ normalize sizedObject = .ok sizedDict ∧
      ¬Throughout Portable (body sizedObject) ∧ ¬Json.Data sizedDict ∧
      ((Printer.new .json).print sizedObject).fault ≠ none := by
  have hnodup : (["kind", "size"] : List String).Nodup := by decide
  have hnames : Throughout NamesDiffer (body sizedObject) := by
    refine throughout_iff.mpr ⟨hnodup, List.forall_mem_cons.mpr ⟨?_, ?_⟩⟩
    · exact throughout_iff.mpr ⟨trivial, nofun⟩
    · exact List.forall_mem_singleton.mpr (throughout_iff.mpr ⟨trivial, nofun⟩)
  have hcollect : Value.mapOf ([("kind", .text "Disk"),
      ("size", .decimal (.finite false ['1'] 0))].map textEntry) = sizedDict :=
    congrArg Value.map (collect_textEntry hnodup)
  have hdata : data sizedObject = .ok sizedDict := congrArg Except.ok hcollect
  have hsized : normalize sizedObject = .ok sizedDict :=
    normalize_of_namedMapping hdata (.map (.inr rfl))
  have hdecimal (P : Int → Prop) : ¬Json.DataWith P sizedDict := by
    intro h
    have hsize := (Json.dataWith_map.mp h).2 _ (List.mem_cons_of_mem _ List.mem_cons_self)
    cases hsize with
    | scalar h => cases h
  obtain ⟨-, hportable, hprint⟩ := (normalize_contract hnames).2.2.2 _ hsized
  exact ⟨hnames, hsized, fun h ↦ hdecimal _ (hportable.mpr h), hdecimal _,
    fun h ↦ hdecimal _ ((hprint (Printer.new .json) rfl).mp h)⟩

end GatewayPrint.Resource
