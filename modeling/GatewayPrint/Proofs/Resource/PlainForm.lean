import GatewayPrint.Proofs.Elementwise
import GatewayPrint.Proofs.Printable
import Mathlib.Logic.Relation

/-!
# The plain form, one level at a time

The plain form of a value is put together from the plain forms of the values inside it
(`plain_eq_around`), whatever kind of container it is: a list, a mapping, an object with attributes,
an object that exports another value, or a model, of which the fields that are not null count in the
order of the wire form. Sets and read-only mappings have none. So a value has a plain form exactly
when no set and no read-only mapping is reached in it (`plain_eq_error_iff`), and what passes from
the values inside one to the value is known of all values (`induction_inside`).
-/

namespace GatewayPrint.Resource

open Outcome

variable {u v d : Value} {xs ys : List Value} {f : Fault}

/-! ## Containers -/

/-- The attributes of a model that count, under their wire names. -/
def wireFields (kind : ModelKind) (attrs : List (String × Value)) : List (String × Value) :=
  Model.wire kind (attrs.filter fun e ↦ !Model.isNull e.2)

/-- The mapping that a model is printed as, with values that are not yet plain. -/
def wireDict (kind : ModelKind) (attrs : List (String × Value)) : Value :=
  .map ((wireFields kind attrs).map textEntry)

/-- The values inside one that its plain form is made of. -/
def inside : Value → List Value
  | .list items => items
  | .tuple items => items
  | .map entries => entries.map Prod.snd
  | .model kind attrs => (wireFields kind attrs).map Prod.snd
  | .exporting v => [v]
  | .record _ attrs => attrs.map Prod.snd
  | _ => []

/-- The plain form of a value, from those of the values inside it. -/
def around (v : Value) (ys : List Value) : Value :=
  match v with
  | .member w => w
  | .secret s => .text s
  | .uuid s => .text s
  | .date d => .text d.iso
  | .datetime t => .text t.iso
  | .decimal d => .text d.text
  | .list _ => .list ys
  | .tuple _ => .tuple ys
  | .map entries => .map ((entries.map Prod.fst).zip ys)
  | .model kind attrs => .map ((((wireFields kind attrs).map Prod.fst).zip ys).map textEntry)
  | .exporting _ => ys.headD .null
  | .record _ attrs => Value.mapOf (((attrs.map Prod.fst).zip ys).map textEntry)
  | v => v

/-- Sets and read-only mappings, which have no plain form. -/
inductive Opaque : Value → Prop where
  | set (items : List Value) : Opaque (.set items)
  | view (entries : List (Value × Value)) : Opaque (.view entries)

theorem plainEntries_eq_map (es : List (Value × Value)) :
    plainEntries es = (plainItems (es.map Prod.snd)).map ((es.map Prod.fst).zip ·) := by
  induction es with
  | nil => rfl
  | cons e es ih =>
    rw [List.map_cons, List.map_cons, plainEntries, plainItems, ih]
    cases plain e.2 with
    | error f => rfl
    | ok y => cases plainItems (es.map Prod.snd) <;> rfl

theorem plainAttrs_eq_map (attrs : List (String × Value)) :
    plainAttrs attrs = (plainItems (attrs.map Prod.snd)).map ((attrs.map Prod.fst).zip ·) := by
  induction attrs with
  | nil => rfl
  | cons e attrs ih =>
    rw [List.map_cons, List.map_cons, plainAttrs, plainItems, ih]
    cases plain e.2 with
    | error f => rfl
    | ok y => cases plainItems (attrs.map Prod.snd) <;> rfl

/-! ## Models -/

theorem plainFields_eq (attrs : List (String × Value)) :
    plainFields attrs
      = (attrs.filter fun e ↦ !Model.isNull e.2).map fun e ↦ (e.1, plain e.2) := by
  induction attrs with
  | nil => rfl
  | cons e attrs ih =>
    rw [plainFields, ih]
    cases hnull : Model.isNull e.2 with
    | true =>
      rw [List.filter_cons_of_neg (by rw [hnull]; exact Bool.false_ne_true), if_pos rfl]
    | false =>
      rw [List.filter_cons_of_pos (by rw [hnull]; rfl), if_neg Bool.false_ne_true, List.map_cons]

private theorem lookup_map_snd {α β : Type} (g : α → β) (name : String)
    (named : List (String × α)) :
    (named.map fun e ↦ (e.1, g e.2)).lookup name = (named.lookup name).map g := by
  induction named with
  | nil => rfl
  | cons e named ih =>
    rw [List.map_cons, List.lookup_cons, List.lookup_cons]
    cases name == e.1
    · exact ih
    · rfl

theorem wire_map {α β : Type} (kind : ModelKind) (g : α → β) (named : List (String × α)) :
    Model.wire kind (named.map fun e ↦ (e.1, g e.2))
      = (Model.wire kind named).map fun e ↦ (e.1, g e.2) := by
  rw [Model.wire, Model.wire, List.map_filterMap, ← List.map_reverse]
  refine List.filterMap_congr fun field _ ↦ ?_
  rw [lookup_map_snd, Option.map_map, Option.map_map]
  rfl

theorem collect_map (named : List (String × Value)) :
    collect (named.map fun e ↦ (e.1, plain e.2)) = plainAttrs named := by
  induction named with
  | nil => rfl
  | cons e named ih => rw [List.map_cons, collect, ih, plainAttrs]

theorem plain_model (kind : ModelKind) (attrs : List (String × Value)) :
    plain (.model kind attrs)
      = (plainAttrs (wireFields kind attrs)).map fun es ↦ .map (es.map textEntry) := by
  rw [plain, plainFields_eq, wire_map, collect_map]
  rfl

private theorem plainEntries_textEntry (named : List (String × Value)) :
    plainEntries (named.map textEntry) = (plainAttrs named).map fun es ↦ es.map textEntry := by
  induction named with
  | nil => rfl
  | cons e named ih =>
    rw [List.map_cons, textEntry, plainEntries, plainAttrs, ih]
    cases plain e.2 with
    | error f => rfl
    | ok y => cases plainAttrs named <;> rfl

/-- **A model** has the plain form of its wire dict. -/
theorem plain_wireDict (kind : ModelKind) (attrs : List (String × Value)) :
    plain (wireDict kind attrs) = plain (.model kind attrs) := by
  rw [plain_model, wireDict, plain, plainEntries_textEntry]
  cases plainAttrs (wireFields kind attrs) <;> rfl

/-! ## One level -/

/-- **The plain form** of a value is made of those of the values inside it. -/
theorem plain_eq_around (h : ¬Opaque v) : plain v = (plainItems (inside v)).map (around v) := by
  cases v with
  | set items => exact absurd (.set items) h
  | view entries => exact absurd (.view entries) h
  | list items => exact rfl
  | tuple items => exact rfl
  | map entries =>
    rw [plain, plainEntries_eq_map, inside]
    cases plainItems (entries.map Prod.snd) <;> rfl
  | model kind attrs =>
    rw [plain_model, plainAttrs_eq_map, inside]
    cases plainItems ((wireFields kind attrs).map Prod.snd) <;> rfl
  | record declared attrs =>
    rw [plain, plainAttrs_eq_map, inside]
    cases plainItems (attrs.map Prod.snd) <;> rfl
  | exporting v =>
    rw [plain, inside, plainItems, plainItems]
    cases plain v <;> rfl
  | _ => rfl

theorem plain_set_or_view (h : Opaque v) : plain v = .error (.noFields v.kindName) := by
  cases h <;> rfl

theorem plainItems_eq_ok :
    plainItems xs = .ok ys ↔ List.Forall₂ (fun x y ↦ plain x = .ok y) xs ys := by
  induction xs generalizing ys with
  | nil =>
    constructor
    · rintro ⟨⟩
      exact .nil
    · rintro ⟨⟩
      rfl
  | cons x xs ih =>
    rw [plainItems, bind_eq_ok]
    constructor
    · rintro ⟨y, hy, h⟩
      obtain ⟨ys', hys, h⟩ := bind_eq_ok.mp h
      cases h
      exact .cons hy (ih.mp hys)
    · rintro (_ | ⟨hy, hys⟩)
      rw [hy]
      refine ⟨_, rfl, ?_⟩
      rw [ih.mpr hys, ok_bind]

theorem plainEntries_eq_ok {es fs : List (Value × Value)} : plainEntries es = .ok fs ↔
    List.Forall₂ (fun e f ↦ e.1 = f.1 ∧ plain e.2 = .ok f.2) es fs := by
  induction es generalizing fs with
  | nil =>
    constructor
    · rintro ⟨⟩
      exact .nil
    · rintro ⟨⟩
      rfl
  | cons e es ih =>
    rw [plainEntries, bind_eq_ok]
    constructor
    · rintro ⟨y, hy, h⟩
      obtain ⟨fs', hfs, h⟩ := bind_eq_ok.mp h
      cases h
      exact .cons ⟨rfl, hy⟩ (ih.mp hfs)
    · rintro (_ | ⟨⟨hkey, hy⟩, hfs⟩)
      refine ⟨_, hy, ?_⟩
      rw [ih.mpr hfs, ok_bind, hkey]

private theorem plainItems_eq_error (h : plainItems xs = .error f) :
    ∃ x ∈ xs, plain x = .error f := by
  induction xs with
  | nil => cases h
  | cons x xs ih =>
    rw [plainItems] at h
    cases hx : plain x with
    | error f' =>
      rw [hx] at h
      cases h
      exact ⟨x, List.mem_cons_self, hx⟩
    | ok y =>
      rw [hx, ok_bind] at h
      cases hxs : plainItems xs with
      | error f' =>
        rw [hxs] at h ih
        cases h
        obtain ⟨z, hz, hf⟩ := ih rfl
        exact ⟨z, List.mem_cons_of_mem x hz, hf⟩
      | ok ys =>
        rw [hxs] at h
        cases h

/-- A value has a plain form exactly when the values inside it have one. -/
theorem plain_eq_ok (h : ¬Opaque v) :
    plain v = .ok d ↔
      ∃ ys, List.Forall₂ (fun x y ↦ plain x = .ok y) (inside v) ys ∧ around v ys = d := by
  rw [plain_eq_around h, map_eq_ok]
  exact exists_congr fun ys ↦ and_congr_left' plainItems_eq_ok

theorem not_opaque_of_plain (h : plain v = .ok d) : ¬Opaque v := by
  intro ho
  rw [plain_set_or_view ho] at h
  cases h

/-! ## Values that are reached -/

theorem mem_wireFields {kind : ModelKind} {attrs : List (String × Value)} {e : String × Value}
    (h : e ∈ wireFields kind attrs) : ∃ name, (name, e.2) ∈ attrs := by
  obtain ⟨field, -, hfield⟩ := List.mem_filterMap.mp h
  obtain ⟨w, hw, rfl⟩ := Option.map_eq_some_iff.mp hfield
  have hmem := mem_of_lookup hw
  rw [List.mem_reverse] at hmem
  exact ⟨_, (List.mem_filter.mp hmem).1⟩

private theorem sizeOf_inside (h : u ∈ inside v) : sizeOf u < sizeOf v := by
  cases v with
  | list items =>
    have := List.sizeOf_lt_of_mem (show u ∈ items from h)
    simp only [Value.list.sizeOf_spec]
    omega
  | tuple items =>
    have := List.sizeOf_lt_of_mem (show u ∈ items from h)
    simp only [Value.tuple.sizeOf_spec]
    omega
  | map entries =>
    obtain ⟨⟨k, w⟩, he, rfl⟩ := List.mem_map.mp h
    have := List.sizeOf_lt_of_mem he
    simp only [Value.map.sizeOf_spec, Prod.mk.sizeOf_spec] at this ⊢
    omega
  | model kind attrs =>
    obtain ⟨e, he, rfl⟩ := List.mem_map.mp h
    obtain ⟨name, he⟩ := mem_wireFields he
    have := List.sizeOf_lt_of_mem he
    simp only [Value.model.sizeOf_spec, Prod.mk.sizeOf_spec] at this ⊢
    omega
  | record declared attrs =>
    obtain ⟨⟨name, w⟩, he, rfl⟩ := List.mem_map.mp h
    have := List.sizeOf_lt_of_mem he
    simp only [Value.record.sizeOf_spec, Prod.mk.sizeOf_spec] at this ⊢
    omega
  | exporting w =>
    rw [List.mem_singleton.mp h, Value.exporting.sizeOf_spec]
    omega
  | _ => cases h

/-- Induction over a value and the values that its plain form is made of. -/
theorem induction_inside {motive : Value → Prop}
    (h : ∀ v, (∀ u ∈ inside v, motive u) → motive v) (v : Value) : motive v :=
  h v fun u hu ↦
    have := sizeOf_inside hu
    induction_inside h u
termination_by sizeOf v

/-- A value is reached from one through values inside values. -/
def HasPart : Value → Value → Prop := Relation.ReflTransGen fun v u ↦ u ∈ inside v

theorem HasPart.refl (v : Value) : HasPart v v := Relation.ReflTransGen.refl

theorem HasPart.of_inside {w : Value} (h : u ∈ inside v) (hw : HasPart u w) : HasPart v w :=
  Relation.ReflTransGen.head h hw

theorem hasPart_iff {w : Value} : HasPart v w ↔ v = w ∨ ∃ u ∈ inside v, HasPart u w :=
  Relation.ReflTransGen.cases_head_iff

/-- A property of a value and of all that is reached in it. -/
def Throughout (p : Value → Prop) (v : Value) : Prop := ∀ u, HasPart v u → p u

theorem throughout_iff {p : Value → Prop} :
    Throughout p v ↔ p v ∧ ∀ u ∈ inside v, Throughout p u := by
  constructor
  · intro h
    exact ⟨h v (.refl v), fun u hu w hw ↦ h w (.of_inside hu hw)⟩
  · rintro ⟨hv, hinside⟩ w hw
    rcases hasPart_iff.mp hw with rfl | ⟨u, hu, hw⟩
    · exact hv
    · exact hinside u hu w hw

/-- A fault is that of a set or read-only mapping that is reached. -/
theorem exists_opaque_of_error (h : plain v = .error f) :
    ∃ u, HasPart v u ∧ Opaque u ∧ f = .noFields u.kindName := by
  induction v using induction_inside with
  | h v ih =>
  by_cases ho : Opaque v
  · rw [plain_set_or_view ho] at h
    cases h
    exact ⟨v, .refl v, ho, rfl⟩
  · rw [plain_eq_around ho, map_eq_error] at h
    obtain ⟨x, hx, hf⟩ := plainItems_eq_error h
    obtain ⟨u, hu, hou, hname⟩ := ih x hx hf
    exact ⟨u, .of_inside hx hu, hou, hname⟩

/-- What is reached in a value with a plain form has one, so it is no set or read-only mapping. -/
theorem not_opaque_of_hasPart (h : plain v = .ok d) (hu : HasPart v u) : ¬Opaque u := by
  induction v using induction_inside generalizing d with
  | h v ih =>
  have ho := not_opaque_of_plain h
  rcases hasPart_iff.mp hu with rfl | ⟨x, hx, hxu⟩
  · exact ho
  · obtain ⟨ys, hys, -⟩ := (plain_eq_ok ho).mp h
    obtain ⟨y, -, hy⟩ := exists_right_of_mem hys hx
    exact ih x hx hy hxu

/-- **No plain form** has a value in which a set or a read-only mapping is reached. -/
theorem plain_eq_error_iff : (∃ f, plain v = .error f) ↔ ∃ u, HasPart v u ∧ Opaque u := by
  constructor
  · rintro ⟨f, h⟩
    obtain ⟨u, hu, ho, -⟩ := exists_opaque_of_error h
    exact ⟨u, hu, ho⟩
  · rintro ⟨u, hu, ho⟩
    cases h : plain v with
    | error f => exact ⟨f, rfl⟩
    | ok d => exact absurd ho (not_opaque_of_hasPart h hu)

/-! ## Resources -/

/-- Mappings, read-only ones included. -/
inductive Mapping : Value → Prop where
  | map (entries : List (Value × Value)) : Mapping (.map entries)
  | view (entries : List (Value × Value)) : Mapping (.view entries)

/-- Mappings with an API version or a kind. -/
inductive NamedMapping : Value → Prop where
  | map {entries : List (Value × Value)} (h : NamesKind entries) : NamedMapping (.map entries)
  | view {entries : List (Value × Value)} (h : NamesKind entries) : NamedMapping (.view entries)

theorem NamedMapping.mapping (h : NamedMapping d) : Mapping d := by
  cases h with
  | map => exact .map _
  | view => exact .view _

/-- What is made plain of an object: a read-only mapping is read as a mapping. -/
def body : Value → Value
  | .view entries => .map entries
  | v => v

/-- Mappings and objects of declared classes, which are printed. -/
def IsResource (v : Value) : Prop := Mapping v ∨ isDeclared v = true

theorem data_of_not_mapping (h : ¬Mapping v) :
    data v = if isDeclared v then plain v else .error (.notResource v.kindName) := by
  cases v with
  | map es => exact absurd (.map es) h
  | view es => exact absurd (.view es) h
  | _ => rfl

private theorem body_of_not_mapping (h : ¬Mapping v) : body v = v := by
  cases v with
  | view es => exact absurd (.view es) h
  | _ => rfl

theorem data_of_isResource (h : IsResource v) : data v = plain (body v) := by
  by_cases hmapping : Mapping v
  · cases hmapping <;> rfl
  · have hdeclared : isDeclared v = true := h.resolve_left hmapping
    rw [data_of_not_mapping hmapping, if_pos hdeclared, body_of_not_mapping hmapping]

theorem data_of_not_isResource (h : ¬IsResource v) :
    data v = .error (.notResource v.kindName) := by
  rw [data_of_not_mapping fun hm ↦ h (.inl hm), if_neg fun hd ↦ h (.inr hd)]

theorem plain_body (h : data v = .ok d) : plain (body v) = .ok d := by
  by_cases hv : IsResource v
  · rw [← data_of_isResource hv, h]
  · rw [data_of_not_isResource hv] at h
    cases h

private theorem field_of_not_mapping (key : String) (h : ¬Mapping d) :
    field d key = .error (.noLookup d.qualifiedKind) := by
  cases d with
  | map es => exact absurd (.map es) h
  | view es => exact absurd (.view es) h
  | _ => rfl

/-- The part of `normalize` after the data is there. -/
theorem normalize_of_data (h : data v = .ok d) :
    normalize v = (do
      let version ← field d "apiVersion"
      let kind ← field d "kind"
      if version.truthy || kind.truthy then .ok d else .error .missingKind) := by
  rw [normalize, h, ok_bind]

theorem normalize_of_namedMapping (h : data v = .ok d) (hnamed : NamedMapping d) :
    normalize v = .ok d := by
  rw [normalize_of_data h]
  cases hnamed with
  | map hkind => exact if_pos (Bool.or_eq_true_iff.mpr hkind)
  | view hkind => exact if_pos (Bool.or_eq_true_iff.mpr hkind)

theorem normalize_of_mapping (h : data v = .ok d) (hmapping : Mapping d)
    (hnamed : ¬NamedMapping d) : normalize v = .error .missingKind := by
  rw [normalize_of_data h]
  cases hmapping with
  | map es => exact if_neg fun hor ↦ hnamed (.map (Bool.or_eq_true_iff.mp hor))
  | view es => exact if_neg fun hor ↦ hnamed (.view (Bool.or_eq_true_iff.mp hor))

theorem normalize_of_not_mapping (h : data v = .ok d) (hmapping : ¬Mapping d) :
    normalize v = .error (.noLookup d.qualifiedKind) := by
  rw [normalize_of_data h, field_of_not_mapping _ hmapping, error_bind]

/-- **A resource is accepted** exactly when its data is a mapping with an API version or a kind, and
it is printed as this mapping. -/
theorem normalize_eq_ok : normalize v = .ok d ↔ data v = .ok d ∧ NamedMapping d := by
  constructor
  · intro h
    cases hdata : data v with
    | error f =>
      rw [normalize, hdata, error_bind] at h
      cases h
    | ok d' =>
      by_cases hnamed : NamedMapping d'
      · rw [normalize_of_namedMapping hdata hnamed] at h
        cases h
        exact ⟨rfl, hnamed⟩
      · by_cases hmapping : Mapping d'
        · rw [normalize_of_mapping hdata hmapping hnamed] at h
          cases h
        · rw [normalize_of_not_mapping hdata hmapping] at h
          cases h
  · rintro ⟨hdata, hnamed⟩
    exact normalize_of_namedMapping hdata hnamed

end GatewayPrint.Resource
