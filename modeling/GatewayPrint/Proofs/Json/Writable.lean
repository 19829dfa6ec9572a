import GatewayPrint.Json.Writer
import GatewayPrint.Proofs.Resource.PlainForm

/-!
# What has a JSON form

JSON holds nulls, truth values, numbers, texts, sequences, and mappings whose keys are no
containers. A value is written as JSON exactly when it is made of these and its whole numbers, keys
included, have not too many digits (`exists_write_iff`).
-/

namespace GatewayPrint.Json

open Outcome Resource

variable {P : Int → Prop} {v : Value} {xs : List Value} {es : List (Value × Value)}

/-- Values without parts that JSON can hold, which may be keys as well. -/
inductive ScalarWith (P : Int → Prop) : Value → Prop where
  | null : ScalarWith P .null
  | bool (b : Bool) : ScalarWith P (.bool b)
  | int {n : Int} (h : P n) : ScalarWith P (.int n)
  | float (x : Double) : ScalarWith P (.float x)
  | text (s : String) : ScalarWith P (.text s)

/-- Data that JSON can hold, with whole numbers of a property. -/
inductive DataWith (P : Int → Prop) : Value → Prop where
  | scalar {v : Value} (h : ScalarWith P v) : DataWith P v
  | list {xs : List Value} (h : ∀ x ∈ xs, DataWith P x) : DataWith P (.list xs)
  | tuple {xs : List Value} (h : ∀ x ∈ xs, DataWith P x) : DataWith P (.tuple xs)
  | map {es : List (Value × Value)} (hkeys : ∀ e ∈ es, ScalarWith P e.1)
      (h : ∀ e ∈ es, DataWith P e.2) : DataWith P (.map es)

/-- Data that JSON can hold. -/
abbrev Data : Value → Prop := DataWith fun _ ↦ True

/-- Whole numbers of not too many digits for a text. -/
def FewDigits (n : Int) : Prop := (intText? n).isSome = true

theorem dataWith_list : DataWith P (.list xs) ↔ ∀ x ∈ xs, DataWith P x := by
  constructor
  · rintro (h | h | _)
    · cases h
    · exact h
  · exact .list

theorem dataWith_tuple : DataWith P (.tuple xs) ↔ ∀ x ∈ xs, DataWith P x := by
  constructor
  · rintro (h | _ | h)
    · cases h
    · exact h
  · exact .tuple

theorem dataWith_map :
    DataWith P (.map es) ↔ (∀ e ∈ es, ScalarWith P e.1) ∧ ∀ e ∈ es, DataWith P e.2 := by
  constructor
  · rintro (h | _ | _ | ⟨hkeys, h⟩)
    · cases h
    · exact ⟨hkeys, h⟩
  · rintro ⟨hkeys, h⟩
    exact .map hkeys h

/-! ## Writing -/

theorem exists_bind_eq_ok {ε α β : Type} {x : Except ε α} {f : α → Except ε β} :
    (∃ b, (x >>= f) = .ok b) ↔ ∃ a, x = .ok a ∧ ∃ b, f a = .ok b := by
  cases x with
  | error e => simp
  | ok a => simp

theorem exists_keyText_iff (k : Value) : (∃ s, keyText k = .ok s) ↔ ScalarWith FewDigits k := by
  constructor
  · rintro ⟨s, h⟩
    cases k with
    | null => exact .null
    | bool b => exact .bool b
    | float x => exact .float x
    | text t => exact .text t
    | int n =>
      rw [keyText] at h
      split at h
      · next heq => exact .int (Option.isSome_iff_exists.mpr ⟨_, heq⟩)
      · cases h
    | _ => cases h
  · rintro (_ | _ | h | _ | _)
    · exact ⟨_, rfl⟩
    · exact ⟨_, rfl⟩
    · obtain ⟨t, ht⟩ := Option.isSome_iff_exists.mp h
      rw [keyText, ht]
      exact ⟨_, rfl⟩
    · exact ⟨_, rfl⟩
    · exact ⟨_, rfl⟩

/-- Values without parts are written in the same cases in which they are keys. -/
theorem exists_writeScalar_iff (v : Value) :
    (∃ s, writeScalar v = .ok s) ↔ ∃ s, keyText v = .ok s := by
  cases v with
  | int n => exact Iff.rfl
  | _ => simp [writeScalar, keyText]

theorem exists_writeItems_iff {depth : Nat}
    (h : ∀ x ∈ xs, (∃ s, writeAt depth x = .ok s) ↔ DataWith FewDigits x) :
    (∃ s, writeItems depth xs = .ok s) ↔ ∀ x ∈ xs, DataWith FewDigits x := by
  induction xs with
  | nil => simp [writeItems]
  | cons x xs ih =>
    have ih := ih fun y hy ↦ h y (List.mem_cons_of_mem x hy)
    rw [List.forall_mem_cons, ← ih, ← h x List.mem_cons_self]
    simp [writeItems, exists_bind_eq_ok]

theorem exists_writeEntries_iff {depth : Nat}
    (h : ∀ e ∈ es, (∃ s, writeAt depth e.2 = .ok s) ↔ DataWith FewDigits e.2) :
    (∃ s, writeEntries depth es = .ok s) ↔ DataWith FewDigits (.map es) := by
  rw [dataWith_map]
  induction es with
  | nil => simp [writeEntries]
  | cons e es ih =>
    have ih := ih fun f hf ↦ h f (List.mem_cons_of_mem e hf)
    rw [List.forall_mem_cons, List.forall_mem_cons, and_and_and_comm, ← ih,
      ← h e List.mem_cons_self, ← exists_keyText_iff]
    simp [writeEntries, exists_bind_eq_ok, and_assoc]

/-- What stands in a sequence or mapping is written as it is among the elements after the first. -/
theorem exists_writeAt_list (depth : Nat) (xs : List Value) :
    (∃ s, writeAt depth (.list xs) = .ok s) ↔ ∃ s, writeItems (depth + 1) xs = .ok s := by
  cases xs <;> simp [writeAt, writeItems, exists_bind_eq_ok]

theorem exists_writeAt_tuple (depth : Nat) (xs : List Value) :
    (∃ s, writeAt depth (.tuple xs) = .ok s) ↔ ∃ s, writeItems (depth + 1) xs = .ok s := by
  cases xs <;> simp [writeAt, writeItems, exists_bind_eq_ok]

theorem exists_writeAt_map (depth : Nat) (es : List (Value × Value)) :
    (∃ s, writeAt depth (.map es) = .ok s) ↔ ∃ s, writeEntries (depth + 1) es = .ok s := by
  cases es <;> simp [writeAt, writeEntries, exists_bind_eq_ok]

theorem exists_writeAt_iff (depth : Nat) (v : Value) :
    (∃ s, writeAt depth v = .ok s) ↔ DataWith FewDigits v := by
  induction v using induction_inside generalizing depth with
  | h v ih =>
  have hscalar (hv : ∀ depth, writeAt depth v = writeScalar v)
      (hdata : DataWith FewDigits v → ScalarWith FewDigits v) :
      (∃ s, writeAt depth v = .ok s) ↔ DataWith FewDigits v := by
    rw [hv, exists_writeScalar_iff, exists_keyText_iff]
    exact ⟨.scalar, hdata⟩
  cases v with
  | list xs =>
    rw [exists_writeAt_list, dataWith_list]
    exact exists_writeItems_iff fun x hx ↦ ih x hx (depth + 1)
  | tuple xs =>
    rw [exists_writeAt_tuple, dataWith_tuple]
    exact exists_writeItems_iff fun x hx ↦ ih x hx (depth + 1)
  | map es =>
    rw [exists_writeAt_map]
    exact exists_writeEntries_iff fun e he ↦ ih e.2 (List.mem_map_of_mem he) (depth + 1)
  | _ =>
    refine hscalar (fun _ ↦ rfl) ?_
    rintro ⟨h⟩
    exact h

/-- **A value is written as JSON** exactly when it is data of JSON, and its whole numbers have not
too many digits. -/
theorem exists_write_iff : (∃ s, write v = .ok s) ↔ DataWith FewDigits v := by
  rw [← exists_writeAt_iff 0, write]
  cases writeAt 0 v <;> simp

end GatewayPrint.Json
