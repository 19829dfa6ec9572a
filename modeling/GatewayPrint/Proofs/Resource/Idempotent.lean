import GatewayPrint.Proofs.Resource.PlainForm
import GatewayPrint.Resource.Printer

/-!
# The plain form is plain

A printer makes plain what it is given, so it may as well be given the plain form: normalising a
second time changes nothing, and both formats write for an object what they write for the mapping
that it is normalised to (`normalize_normalize`).

The one exception are members of enumerations. The value that a member stands for is taken as it is,
so it may be an exact number, a time or a model, which a second pass would make plain. This is why
the values of members are asked to be plain already; nothing is asked of an object without members.
-/

namespace GatewayPrint.Resource

open Outcome

variable {u v d : Value} {xs ys : List Value} {es : List (Value × Value)}

/-- A member of an enumeration stands for a value that is its own plain form. -/
def MemberPlain : Value → Prop
  | .member w => plain w = .ok w
  | _ => True

theorem plain_map_eq (h : ∀ x ∈ es.map Prod.snd, plain x = .ok x) :
    plain (.map es) = .ok (.map es) := by
  rw [plain, plainEntries_eq fun e he ↦ h e.2 (List.mem_map_of_mem he), map_ok]

theorem map_snd_textEntry (named : List (String × Value)) :
    (named.map textEntry).map Prod.snd = named.map Prod.snd := by
  rw [List.map_map]
  rfl

/-- The value that is written under a key stays among the values of a mapping, or is replaced. -/
theorem mem_insert {k x : Value} {e : Value × Value} (h : e ∈ Value.insert k x es) :
    e.2 = x ∨ e ∈ es := by
  induction es with
  | nil => exact .inl (congrArg Prod.snd (List.mem_singleton.mp h))
  | cons f es ih =>
    rw [Value.insert] at h
    split at h
    · rcases List.mem_cons.mp h with rfl | h
      · exact .inl rfl
      · exact .inr (List.mem_cons_of_mem f h)
    · rcases List.mem_cons.mp h with rfl | h
      · exact .inr List.mem_cons_self
      · exact (ih h).imp_right (List.mem_cons_of_mem f)

theorem mem_foldl_insert {done : List (Value × Value)} {e : Value × Value}
    (h : e ∈ es.foldl (fun done e ↦ Value.insert e.1 e.2 done) done) :
    e.2 ∈ es.map Prod.snd ∨ e ∈ done := by
  induction es generalizing done with
  | nil => exact .inr h
  | cons f es ih =>
    rcases ih h with h | h
    · exact .inl (List.mem_cons_of_mem f.2 h)
    · rcases mem_insert h with h | h
      · exact .inl (h ▸ List.mem_cons_self)
      · exact .inr h

/-- The values of a mapping are among those that were written to it. -/
theorem mem_collect {x : Value} (h : x ∈ (Value.collect es).map Prod.snd) :
    x ∈ es.map Prod.snd := by
  obtain ⟨e, he, rfl⟩ := List.mem_map.mp h
  exact (mem_foldl_insert he).resolve_right List.not_mem_nil

/-- What stands around values that are their own plain form is its own plain form too. -/
theorem plain_around (hv : MemberPlain v) (hlen : (inside v).length = ys.length)
    (hys : ∀ y ∈ ys, plain y = .ok y) (ho : ¬Opaque v) :
    plain (around v ys) = .ok (around v ys) := by
  cases v with
  | set items => exact absurd (.set items) ho
  | view es => exact absurd (.view es) ho
  | member w => exact hv
  | list items => rw [around, plain, plainItems_eq hys, map_ok]
  | tuple items => rw [around, plain, plainItems_eq hys, map_ok]
  | map es =>
    refine plain_map_eq fun x hx ↦ hys x ?_
    obtain ⟨e, he, rfl⟩ := List.mem_map.mp hx
    exact (List.of_mem_zip he).2
  | model kind attrs =>
    refine plain_map_eq fun x hx ↦ hys x ?_
    rw [map_snd_textEntry] at hx
    obtain ⟨e, he, rfl⟩ := List.mem_map.mp hx
    exact (List.of_mem_zip he).2
  | record declared attrs =>
    refine plain_map_eq fun x hx ↦ hys x ?_
    have hx := mem_collect hx
    rw [map_snd_textEntry] at hx
    obtain ⟨e, he, rfl⟩ := List.mem_map.mp hx
    exact (List.of_mem_zip he).2
  | exporting w =>
    obtain ⟨y, rfl⟩ := List.length_eq_one_iff.mp hlen.symm
    exact hys y List.mem_cons_self
  | _ => rfl

/-- **The plain form is plain**: made plain once more, it stays what it is. -/
theorem plain_plain (hmembers : Throughout MemberPlain v) (h : plain v = .ok d) :
    plain d = .ok d := by
  induction v using induction_inside generalizing d with
  | h v ih =>
  obtain ⟨hv, hinside⟩ := throughout_iff.mp hmembers
  have ho := not_opaque_of_plain h
  obtain ⟨ys, hys, rfl⟩ := (plain_eq_ok ho).mp h
  refine plain_around hv hys.length_eq (fun y hy ↦ ?_) ho
  obtain ⟨x, hx, hxy⟩ := exists_left_of_mem hys hy
  exact ih x hx (hinside x hx) hxy

/-- **Normalising twice** is normalising once: the mapping that a resource is normalised to is
normalised to itself, with its entries in place, and printers of both formats write for it what they
write for the resource. Members of enumerations inside must stand for plain values. -/
theorem normalize_normalize (hmembers : Throughout MemberPlain (body v))
    (h : normalize v = .ok d) :
    (∃ es, d = .map es) ∧ normalize d = .ok d ∧ ∀ p : Printer, p.print v = p.print d := by
  obtain ⟨hdata, hnamed⟩ := normalize_eq_ok.mp h
  have hplain : plain d = .ok d := plain_plain hmembers (plain_body hdata)
  obtain ⟨es, rfl⟩ : ∃ es, d = .map es := by
    cases hnamed with
    | map => exact ⟨_, rfl⟩
    | view => exact absurd (.view _) (not_opaque_of_plain hplain)
  have hmap : normalize (.map es) = .ok (.map es) := normalize_eq_ok.mpr ⟨hplain, hnamed⟩
  refine ⟨⟨es, rfl⟩, hmap, fun p ↦ ?_⟩
  rw [Printer.print, Printer.print, h, hmap]

/-- A model with a model, a mapping, a member and an exact number inside. -/
def ingressModel : Value :=
  .model .ingress [("metadata", .model .objectMeta [
      ("generation", .decimal (.finite false ['5'] (-1))), ("name", .text "web"),
      ("labels", .map [(.text "tier", .member (.text "front"))])]),
    ("spec", .null), ("kind", .text "Ingress")]

/-- What it is normalised to. -/
def ingressDict : Value :=
  .map [(.text "kind", .text "Ingress"), (.text "metadata", .map
    [(.text "generation", .text "0.5"), (.text "labels", .map [(.text "tier", .text "front")]),
      (.text "name", .text "web")])]

theorem memberPlain_ingressModel : Throughout MemberPlain (body ingressModel) := by
  have htext : ∀ s, Throughout MemberPlain (.text s) := fun s ↦ throughout_iff.mpr ⟨trivial, nofun⟩
  have hlabels : Throughout MemberPlain (.map [(.text "tier", .member (.text "front"))]) :=
    throughout_iff.mpr ⟨trivial,
      List.forall_mem_singleton.mpr (throughout_iff.mpr ⟨rfl, nofun⟩)⟩
  refine throughout_iff.mpr ⟨trivial, List.forall_mem_cons.mpr
    ⟨htext "Ingress", List.forall_mem_singleton.mpr (throughout_iff.mpr ⟨trivial, ?_⟩)⟩⟩
  exact List.forall_mem_cons.mpr ⟨throughout_iff.mpr ⟨trivial, nofun⟩, List.forall_mem_cons.mpr
    ⟨hlabels, List.forall_mem_singleton.mpr (htext "web")⟩⟩

theorem plain_ingressModel : plain ingressModel = .ok ingressDict := by rfl

theorem normalize_normalize_ingressModel :
    Throughout MemberPlain (body ingressModel) ∧ normalize ingressModel = .ok ingressDict ∧
    (∃ es, ingressDict = .map es) ∧ normalize ingressDict = .ok ingressDict ∧
      ∀ p : Printer, p.print ingressModel = p.print ingressDict := by
  have h : normalize ingressModel = .ok ingressDict :=
    normalize_of_namedMapping plain_ingressModel (.map (.inr rfl))
  exact ⟨memberPlain_ingressModel, h, normalize_normalize memberPlain_ingressModel h⟩

end GatewayPrint.Resource
