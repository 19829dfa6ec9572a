import GatewayPrint.Proofs.Association
import GatewayPrint.Proofs.Outcome
import GatewayPrint.Yaml.Document

/-!
# Documents hold plain data

Of the kinds of value only some can stand in a document (`Value.Plain`), and what is built from
nodes has one of them at every depth, containers that contain themselves included
(`Yaml.plain_of_load`).

Plain data that counts as present is never shown as an empty text (`Value.display_ne_empty`).
-/

namespace GatewayPrint

open Outcome

/-- Data of the kinds that a document can hold. Of the elements of a set nothing is asked. -/
inductive Value.Plain : Value → Prop where
  | null : Plain .null
  | bool (b : Bool) : Plain (.bool b)
  | int (n : Int) : Plain (.int n)
  | float (x : Double) : Plain (.float x)
  | text (s : String) : Plain (.text s)
  | bytes (bs : List UInt8) : Plain (.bytes bs)
  | date (d : Date) : Plain (.date d)
  | datetime (t : DateTime) : Plain (.datetime t)
  | list {items : List Value} (h : ∀ v ∈ items, Plain v) : Plain (.list items)
  | tuple {items : List Value} (h : ∀ v ∈ items, Plain v) : Plain (.tuple items)
  | set (items : List Value) : Plain (.set items)
  | map {entries : List (Value × Value)} (hk : ∀ e ∈ entries, Plain e.1)
      (hv : ∀ e ∈ entries, Plain e.2) : Plain (.map entries)
  | ref (n : Nat) : Plain (.ref n)

/-- Containers of plain data. -/
def Value.Cells.Plain (cells : Value.Cells) : Prop := ∀ e ∈ cells, e.2.Plain

namespace Value

/-- Entries of plain data. -/
def PlainEntries (entries : List (Value × Value)) : Prop :=
  ∀ e ∈ entries, e.1.Plain ∧ e.2.Plain

theorem plainEntries_nil : PlainEntries [] := fun _ he ↦ absurd he List.not_mem_nil

theorem plainEntries_cons {k v : Value} {entries : List (Value × Value)} (hk : k.Plain)
    (hv : v.Plain) (h : PlainEntries entries) : PlainEntries ((k, v) :: entries) := by
  intro e he
  rcases List.mem_cons.mp he with rfl | he
  · exact ⟨hk, hv⟩
  · exact h e he

theorem plain_map {entries : List (Value × Value)} (h : PlainEntries entries) :
    (map entries).Plain := .map (fun e he ↦ (h e he).1) fun e he ↦ (h e he).2

private theorem plainEntries_insert {k v : Value} {entries : List (Value × Value)} (hk : k.Plain)
    (hv : v.Plain) (h : PlainEntries entries) : PlainEntries (insert k v entries) := by
  induction entries with
  | nil => exact plainEntries_cons hk hv plainEntries_nil
  | cons e rest ih =>
    have hrest : PlainEntries rest := fun e' he' ↦ h e' (List.mem_cons_of_mem e he')
    rw [insert]
    split
    · exact plainEntries_cons (h e List.mem_cons_self).1 hv hrest
    · exact plainEntries_cons (h e List.mem_cons_self).1 (h e List.mem_cons_self).2 (ih hrest)

private theorem plainEntries_collect {entries : List (Value × Value)} (h : PlainEntries entries) :
    PlainEntries (collect entries) := by
  have hfold : ∀ (es done : List (Value × Value)), PlainEntries es → PlainEntries done →
      PlainEntries (es.foldl (fun done e ↦ insert e.1 e.2 done) done) := by
    intro es
    induction es with
    | nil => exact fun done _ hd ↦ hd
    | cons e rest ih =>
      intro done he hd
      have hhead := he e List.mem_cons_self
      exact ih _ (fun e' he' ↦ he e' (List.mem_cons_of_mem e he'))
        (plainEntries_insert hhead.1 hhead.2 hd)
  exact hfold entries [] h plainEntries_nil

theorem plain_of_lookup {key : String} {entries : List (Value × Value)} {v : Value}
    (h : PlainEntries entries) (hl : lookup key entries = some v) : v.Plain :=
  (h (text key, v) (mem_of_lookup hl)).2

theorem plain_resolve {cells : Cells} (hc : cells.Plain) {v : Value} (h : v.Plain) :
    (v.resolve cells).Plain := by
  cases h with
  | ref n =>
    rw [resolve]
    cases hl : cells.lookup n with
    | none => exact .list fun w hw ↦ absurd hw List.not_mem_nil
    | some w => exact hc (n, w) (GatewayPrint.mem_of_lookup hl)
  | list h => exact .list h
  | map hk hv => exact .map hk hv
  | tuple h => exact .tuple h
  | _ => constructor

end Value

namespace Yaml

/-! ## Scalars -/

theorem plain_ofScalar {α : Type} {f : α → Value} (hf : ∀ x, (f x).Plain)
    {r : Except ScalarFault α} {v : Value} (h : ofScalar f r = .ok v) : v.Plain := by
  cases r with
  | error e => cases h
  | ok x =>
    cases h
    exact hf x

private theorem plain_of_readTimestamp {text : String} {v : Value}
    (h : readTimestamp text = .ok v) : v.Plain := by
  rw [readTimestamp] at h
  split at h
  · split at h
    · simp only at h
      split at h
      · cases h
      · cases h
        exact .date _
    · simp only at h
      split at h
      · cases h
      · cases h
        exact .datetime _
  · cases h

private theorem plain_of_readBinary {text : String} {mark : Mark} {v : Value}
    (h : readBinary text mark = .ok v) : v.Plain := by
  rw [readBinary] at h
  split at h
  · cases h
  · split at h
    · cases h
      exact .bytes _
    · cases h

private theorem plain_of_scalarValue {tag : Tag} {text : String} {mark : Mark} {v : Value}
    (h : scalarValue tag text mark = .ok v) : v.Plain := by
  rw [scalarValue.eq_def] at h
  split at h
  · cases h
    exact .null
  · exact plain_ofScalar .bool h
  · exact plain_ofScalar .int h
  · exact plain_ofScalar .float h
  · cases h
    exact .text _
  · exact plain_of_readBinary h
  · cases hr : readTimestamp text with
    | error e =>
      rw [hr] at h
      cases h
    | ok w =>
      rw [hr] at h
      cases h
      exact plain_of_readTimestamp hr
  all_goals cases h

namespace Node

private theorem plain_of_scalarOf {env : Anchors} {fuel : Nat} {n : Node} {v : Value}
    (h : scalarOf env fuel n = .ok v) : v.Plain := by
  obtain ⟨⟨tag, text, mark⟩, -, h⟩ := bind_eq_ok.mp h
  exact plain_of_scalarValue h

/-! ## Building -/

/-- What is kept while building is plain. -/
structure BuildState.Plain (s : BuildState) : Prop where
  known : ∀ e ∈ s.known, e.2.1.Plain
  cells : s.cells.Plain

/-- A step of building that gives what has a property, and leaves what is kept plain. -/
def Yields {α : Type} (P : α → Prop) (x : Build α) : Prop :=
  ∀ ⦃s⦄, BuildState.Plain s → P (x.run s).1 ∧ BuildState.Plain (x.run s).2

section Yields

variable {α β : Type} {P : α → Prop} {Q : β → Prop}

theorem Yields.pure {a : α} (h : P a) : Yields P (pure a) := fun _ hs ↦ ⟨h, hs⟩

theorem Yields.bind {x : Build α} {f : α → Build β} (hx : Yields P x)
    (hf : ∀ a, P a → Yields Q (f a)) : Yields Q (x >>= f) :=
  fun _ hs ↦ hf _ (hx hs).1 (hx hs).2

theorem Yields.get_bind {f : BuildState → Build β}
    (h : ∀ s, BuildState.Plain s → Yields Q (f s)) : Yields Q (get >>= f) :=
  fun s hs ↦ h s hs hs

end Yields

/-- A value of plain data, with anything. -/
abbrev IsPlain (r : Value × List Nat) : Prop := r.1.Plain

theorem yields_close (p : Nat) (anchored : Bool) {v : Value} (hv : v.Plain) (inner : List Nat) :
    Yields IsPlain (close p anchored v inner) := by
  have hresult : (if inner.isEmpty then v else Value.ref p).Plain := by
    split
    · exact hv
    · exact .ref p
  intro s hs
  refine ⟨hresult, ⟨fun e (he : e ∈ if anchored then _ else s.known) ↦ ?_,
    fun e (he : e ∈ if inner.isEmpty then s.cells else _) ↦ ?_⟩⟩
  · split at he
    · rcases List.mem_cons.mp he with rfl | he
      · exact hresult
      · exact hs.known e he
    · exact hs.known e he
  · split at he
    · exact hs.cells e he
    · rcases List.mem_cons.mp he with rfl | he
      · exact hv
      · exact hs.cells e he

/-- What every call gives that may go `fuel` deep. -/
structure YieldsPlain (env : Anchors) (fuel : Nat) : Prop where
  node : ∀ around n, Yields IsPlain (buildNode env fuel around n)
  items : ∀ around ns, Yields (fun r ↦ ∀ v ∈ r.1, v.Plain) (buildItems env fuel around ns)
  entries : ∀ around es, Yields (fun r ↦ Value.PlainEntries r.1) (buildEntries env fuel around es)
  pairs : ∀ around ns, Yields (fun r ↦ ∀ v ∈ r.1, v.Plain) (buildPairs env fuel around ns)

theorem yields_buildNode_succ {env : Anchors} {fuel : Nat} (ih : YieldsPlain env fuel)
    (around : List Nat) (n : Node) : Yields IsPlain (buildNode env (fuel + 1) around n) := by
  rw [buildNode]
  simp only
  split
  · refine .pure ?_
    cases hv : scalarOf env fuel (n.deref env) with
    | error f => exact .null
    | ok v => exact plain_of_scalarOf hv
  · split
    · exact .pure (.ref _)
    · refine .get_bind fun s hs ↦ ?_
      split
      · next v left hl => exact .pure (hs.known (_, v, left) (mem_of_lookup hl))
      · split
        · split
          · exact .bind (ih.items _ _) fun r hr ↦ yields_close _ _ (.list hr) _
          · exact .bind (ih.pairs _ _) fun r hr ↦ yields_close _ _ (.list hr) _
        · refine .bind (ih.entries _ _) fun r hr ↦ yields_close _ _ ?_ _
          split
          · exact .set _
          · exact Value.plain_map (Value.plainEntries_collect hr)
        · exact .pure .null

theorem plain_cons {v : Value} {vs : List Value} (hv : v.Plain) (h : ∀ w ∈ vs, w.Plain) :
    ∀ w ∈ v :: vs, w.Plain := by
  intro w hw
  rcases List.mem_cons.mp hw with rfl | hw
  · exact hv
  · exact h w hw

private theorem yieldsPlain (env : Anchors) (fuel : Nat) : YieldsPlain env fuel := by
  -- The four kinds of calls call each other with less fuel, so they are settled together.
  induction fuel with
  | zero =>
    have hnil : ∀ v ∈ ([] : List Value), v.Plain := fun v hv ↦ absurd hv List.not_mem_nil
    refine ⟨fun around n ↦ ?_, fun around ns ↦ ?_, fun around es ↦ ?_, fun around ns ↦ ?_⟩
    · exact .pure .null
    · exact .pure hnil
    · exact .pure Value.plainEntries_nil
    · exact .pure hnil
  | succ fuel ih =>
    refine ⟨yields_buildNode_succ ih, fun around ns ↦ ?_, fun around es ↦ ?_, fun around ns ↦ ?_⟩
    · cases ns with
      | nil => exact .pure fun v hv ↦ absurd hv List.not_mem_nil
      | cons n rest =>
        rw [buildItems]
        exact .bind (ih.node _ _) fun r hr ↦ .bind (ih.items _ _) fun rs hrs ↦
          .pure (plain_cons hr hrs)
    · cases es with
      | nil => exact .pure Value.plainEntries_nil
      | cons e rest =>
        obtain ⟨k, v⟩ := e
        rw [buildEntries]
        exact .bind (ih.node _ _) fun k hk ↦ .bind (ih.node _ _) fun v hv ↦
          .bind (ih.entries _ _) fun rs hrs ↦ .pure (Value.plainEntries_cons hk hv hrs)
    · cases ns with
      | nil => exact .pure fun v hv ↦ absurd hv List.not_mem_nil
      | cons n rest =>
        rw [buildPairs]
        have hrest : ∀ r : Value × List Nat, IsPlain r →
            Yields (fun r ↦ ∀ v ∈ r.1, v.Plain) (buildPairs env fuel around rest >>= fun rs ↦
              pure (r.1 :: rs.1, r.2 ++ rs.2)) := by
          intro r hr
          exact .bind (ih.pairs _ _) fun rs hrs ↦ .pure (plain_cons hr hrs)
        split
        · refine .bind (ih.node _ _) fun k hk ↦ .bind (ih.node _ _) fun v hv ↦ ?_
          refine .bind (P := IsPlain) (.pure (.tuple ?_)) hrest
          exact plain_cons hk (plain_cons hv fun v hv ↦ absurd hv List.not_mem_nil)
        · exact .bind (P := IsPlain) (.pure .null) hrest

private theorem plain_of_toDocument {fuel : Nat} {n : Node} {d : Document}
    (h : n.toDocument fuel = .ok d) : d.root.Plain ∧ d.cells.Plain := by
  have hs : BuildState.Plain ⟨[], []⟩ :=
    ⟨fun e he ↦ absurd he List.not_mem_nil, fun e he ↦ absurd he List.not_mem_nil⟩
  obtain ⟨hroot, hs'⟩ := (yieldsPlain n.anchors fuel).node [] n hs
  rw [toDocument] at h
  split at h
  · cases h
  · cases h
    exact ⟨hroot, hs'.cells⟩

end Node

/-- **Documents hold plain data.** -/
theorem plain_of_load {bs : List UInt8} {room : Option Nat} {d : Document}
    (h : load bs room = .ok d) : d.root.Plain ∧ d.cells.Plain := by
  rw [load, loadStream] at h
  obtain ⟨root, -, h⟩ := bind_eq_ok.mp h
  cases root with
  | none =>
    cases h
    exact ⟨.null, fun e he ↦ absurd he List.not_mem_nil⟩
  | some root => exact Node.plain_of_toDocument h

end Yaml

/-! ## Shown -/

theorem text_append_ne_empty {s : String} (hs : s ≠ "") (t : String) : s ++ t ≠ "" := by
  rw [Ne, String.append_eq_empty_iff]
  exact fun h ↦ hs h.1

theorem ofList_cons_ne_empty (c : Char) (s : List Char) : String.ofList (c :: s) ≠ "" := by
  rw [Ne, String.ofList_eq_empty_iff]
  exact List.cons_ne_nil c s

private theorem intText_ne_empty (n : Int) : intText n ≠ "" := by
  rw [intText, Ne, String.ofList_eq_empty_iff]
  split
  · exact List.cons_ne_nil _ _
  · exact Nat.toDigits_ne_nil

theorem Double.text_ne_empty (x : Double) : x.text ≠ "" := by
  cases x with
  | nan => decide
  | infinite s => cases s <;> decide
  | finite s m q =>
    have hbody : ∀ (digits : List Char) (point : Int), positional digits point ≠ [] ∧
        scientific digits point ≠ [] := by
      intro digits point
      refine ⟨?_, List.append_ne_nil_of_right_ne_nil _ (List.cons_ne_nil _ _)⟩
      rw [positional]
      split
      · exact List.cons_ne_nil _ _
      · split
        · exact List.append_ne_nil_of_right_ne_nil _ (List.cons_ne_nil _ _)
        · exact List.append_ne_nil_of_right_ne_nil _ (List.cons_ne_nil _ _)
    rw [text, Ne, String.ofList_eq_empty_iff]
    split
    · exact List.cons_ne_nil _ _
    · split
      · exact (hbody _ _).1
      · exact (hbody _ _).2

namespace Value

theorem group_literal_ne_empty {first : String} (h : first ≠ "") (last : String)
    (items sorted : List Forms) : (Forms.group first last items sorted).literal ≠ "" :=
  text_append_ne_empty (text_append_ne_empty h _) _

/-- Plain data inside other data has a text. -/
theorem literalWith_ne_empty {onRef : Nat → String} (hRef : ∀ n, onRef n ≠ "") {v : Value}
    (h : v.Plain) : literalWith onRef v ≠ "" := by
  rw [literalWith]
  cases h with
  | null => exact (by decide : "None" ≠ "")
  | bool b =>
    cases b with
    | false => exact (by decide : "False" ≠ "")
    | true => exact (by decide : "True" ≠ "")
  | int n => exact intText_ne_empty n
  | float x => exact x.text_ne_empty
  | text s => exact ofList_cons_ne_empty _ _
  | bytes bs => exact ofList_cons_ne_empty _ _
  | date d => exact text_append_ne_empty (text_append_ne_empty (by decide) _) _
  | datetime t => exact text_append_ne_empty (text_append_ne_empty (by decide) _) _
  | list h => exact group_literal_ne_empty (by decide) _ _ _
  | tuple h => exact group_literal_ne_empty (by decide) _ _ _
  | set items =>
    cases items with
    | nil => exact (by decide : "set()" ≠ "")
    | cons x xs => exact group_literal_ne_empty (by decide) _ _ _
  | map hk hv => exact text_append_ne_empty (text_append_ne_empty (by decide) _) _
  | ref n => exact hRef n

theorem ellipsis_ne_empty (v : Value) : ellipsis v ≠ "" := by
  rw [ellipsis.eq_def]
  split <;> decide

private theorem literalIn_ne_empty {cells : Cells} (hc : cells.Plain) (fuel : Nat)
    (shown : List Nat) {v : Value} (h : v.Plain) : literalIn cells fuel shown v ≠ "" := by
  induction fuel generalizing shown v with
  | zero => exact literalWith_ne_empty (fun _ ↦ ellipsis_ne_empty _) h
  | succ fuel ih =>
    refine literalWith_ne_empty (fun n ↦ ?_) h
    split
    · exact ellipsis_ne_empty _
    · exact ih _ (plain_resolve hc (.ref n))

/-- Plain data that counts as present is shown as some text. -/
theorem display_ne_empty {cells : Cells} (hc : cells.Plain) {v : Value} (h : v.Plain)
    (ht : (v.resolve cells).truthy = true) : v.display cells ≠ "" := by
  have hliteral : v.literal cells ≠ "" := literalIn_ne_empty hc _ _ h
  cases h with
  | text s =>
    rintro rfl
    cases ht
  | date d =>
    rw [display, Date.iso, Ne, String.ofList_eq_empty_iff]
    exact List.append_ne_nil_of_right_ne_nil _ (List.cons_ne_nil _ _)
  | datetime t =>
    rw [display, DateTime.text, DateTime.isoWith, Ne, String.ofList_eq_empty_iff]
    rw [List.append_assoc, List.append_assoc, List.append_assoc]
    exact List.append_ne_nil_of_right_ne_nil _ (List.cons_ne_nil _ _)
  | _ => exact hliteral

end Value

end GatewayPrint
