import GatewayPrint.Number.Whole
import GatewayPrint.Proofs.Association
import GatewayPrint.Proofs.Outcome
import GatewayPrint.Resource.Normalize

/-!
# Resources made of plain data

Nulls, truth values, whole numbers, texts, lists, and mappings with different texts as keys, to any
depth, are their own plain form. So a mapping of them with an API version or a kind is accepted as
it is (`normalize_eq`), and it has a document if its numbers have not too many digits.

The texts may be restricted by a property, as what can be read back depends on the format.
-/

namespace GatewayPrint

open Outcome

variable {P Q : String → Prop} {v : Value} {xs : List Value} {es : List (Value × Value)}

/-- Data made of nulls, truth values, whole numbers, texts, lists, and mappings with different texts
as keys. -/
inductive PlainData : Value → Prop where
  | null : PlainData .null
  | bool (b : Bool) : PlainData (.bool b)
  | int (n : Int) : PlainData (.int n)
  | text (s : String) : PlainData (.text s)
  | list {xs : List Value} (h : ∀ x ∈ xs, PlainData x) : PlainData (.list xs)
  | map {es : List (Value × Value)} (hkeys : Value.TextKeys es)
      (hnodup : (es.map Prod.fst).Nodup) (h : ∀ e ∈ es, PlainData e.2) : PlainData (.map es)

/-- Data made of nulls, truth values, whole numbers of not too many digits, texts with a property,
lists, and mappings with different texts of this property as keys. -/
inductive PrintableWith (P : String → Prop) : Value → Prop where
  | null : PrintableWith P .null
  | bool (b : Bool) : PrintableWith P (.bool b)
  | int {n : Int} (h : (intText? n).isSome = true) : PrintableWith P (.int n)
  | text {s : String} (h : P s) : PrintableWith P (.text s)
  | list {xs : List Value} (h : ∀ x ∈ xs, PrintableWith P x) : PrintableWith P (.list xs)
  | map {es : List (Value × Value)} (hkeys : ∀ e ∈ es, ∃ s, P s ∧ e.1 = .text s)
      (hnodup : (es.map Prod.fst).Nodup) (h : ∀ e ∈ es, PrintableWith P e.2) :
      PrintableWith P (.map es)

/-- Data made of nulls, truth values, whole numbers of not too many digits, texts, lists, and
mappings with different texts as keys. -/
abbrev Printable : Value → Prop := PrintableWith fun _ ↦ True

theorem textKeys_of_keys (h : ∀ e ∈ es, ∃ s, P s ∧ e.1 = .text s) : Value.TextKeys es :=
  fun e he ↦ (h e he).imp fun _ ↦ And.right

theorem PrintableWith.mono (hPQ : ∀ s, P s → Q s) (h : PrintableWith P v) : PrintableWith Q v := by
  induction h with
  | null => exact .null
  | bool b => exact .bool b
  | int h => exact .int h
  | text h => exact .text (hPQ _ h)
  | list _ ih => exact .list ih
  | map hkeys hnodup _ ih =>
    exact .map (fun e he ↦ (hkeys e he).imp fun s hs ↦ ⟨hPQ s hs.1, hs.2⟩) hnodup ih

theorem PrintableWith.plainData (h : PrintableWith P v) : PlainData v := by
  induction h with
  | null => exact .null
  | bool b => exact .bool b
  | int => exact .int _
  | text => exact .text _
  | list _ ih => exact .list ih
  | map hkeys hnodup _ ih => exact .map (textKeys_of_keys hkeys) hnodup ih

/-- Entries with an API version or a kind. -/
def NamesKind (es : List (Value × Value)) : Prop :=
  ((Value.lookup "apiVersion" es).getD .null).truthy = true ∨
    ((Value.lookup "kind" es).getD .null).truthy = true

theorem NamesKind.ne_nil (h : NamesKind es) : es ≠ [] := by
  rintro rfl
  exact h.elim Bool.false_ne_true Bool.false_ne_true

/-- A mapping of plain data, with numbers of any size, that has an API version or a kind. -/
def DataResource (v : Value) : Prop := ∃ es, v = .map es ∧ PlainData v ∧ NamesKind es

/-- A mapping of plain data with an API version or a kind. -/
def PlainResource (v : Value) : Prop := ∃ es, v = .map es ∧ Printable v ∧ NamesKind es

namespace Resource

theorem plainItems_eq (h : ∀ x ∈ xs, plain x = .ok x) : plainItems xs = .ok xs := by
  induction xs with
  | nil => rfl
  | cons x xs ih =>
    rw [plainItems, h x List.mem_cons_self, ok_bind,
      ih fun y hy ↦ h y (List.mem_cons_of_mem x hy), ok_bind]

theorem plainEntries_eq (h : ∀ e ∈ es, plain e.2 = .ok e.2) : plainEntries es = .ok es := by
  induction es with
  | nil => rfl
  | cons e es ih =>
    obtain ⟨k, v⟩ := e
    have hv : plain v = .ok v := h _ List.mem_cons_self
    rw [plainEntries, hv, ok_bind, ih fun f hf ↦ h f (List.mem_cons_of_mem _ hf), ok_bind]

/-- **Plain data** are their own plain form. -/
theorem plain_eq (h : PlainData v) : plain v = .ok v := by
  induction h with
  | null | bool | int | text => rfl
  | list h ih => rw [plain, plainItems_eq ih, map_ok]
  | map hkeys hnodup h ih => rw [plain, plainEntries_eq ih, map_ok]

/-- **A mapping of plain data** with an API version or a kind is printed as it is. -/
theorem normalize_eq (h : PlainData (.map es)) (hkind : NamesKind es) :
    normalize (.map es) = .ok (.map es) := by
  rw [normalize, data, plain_eq h, ok_bind, field, ok_bind, field, ok_bind,
    if_pos (Bool.or_eq_true_iff.mpr hkind)]

end Resource

end GatewayPrint
