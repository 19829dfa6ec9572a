import GatewayPrint.Kubeconfig.Merged
import GatewayPrint.Proofs.Association
import GatewayPrint.Proofs.Outcome

/-!
# Names of entries

An entry of a list of clusters, contexts or users is known by the text under its key `name`. Adding
an entry compares its name with those that are there, and looking one up compares names with a text;
both go through values of every kind, and both come down to `Datum.textName?` as soon as a text is
involved (`sameName_text`).

`find?_addItems` is the law of adding: a list answers a look-up by name as the list before it
followed by all that was offered, although most of that may have been turned away.
-/

namespace GatewayPrint.Kubeconfig

open Outcome

namespace Datum

/-- The name of an entry, if it is a text. -/
def textName? (d : Datum) : Option String :=
  match (d.lookup? "name").map resolved with
  | some (.text s) => some s
  | _ => none

def isNamed (name : String) (d : Datum) : Bool := d.textName? == some name

@[simp] theorem isNamed_eq_true {name : String} {d : Datum} :
    d.isNamed name = true ↔ d.textName? = some name := by
  rw [isNamed, beq_iff_eq]

theorem textName?_eq_some {d : Datum} {s : String} :
    d.textName? = some s ↔ ∃ n, d.lookup? "name" = some n ∧ n.resolved = .text s := by
  rw [textName?]
  cases d.lookup? "name" with
  | none => simp
  | some n =>
    rw [Option.map_some]
    cases hr : n.resolved <;> simp [hr]

theorem isText_eq_true {key : String} {v : Value} : isText key v = true ↔ v = .text key := by
  cases v <;> simp [isText]

/-- A value under a text key is one of a mapping. -/
theorem subscript_eq_ok {d n : Datum} {key : String} :
    d.subscript key = .ok n ↔ d.lookup? key = some n := by
  rw [subscript, lookup?]
  cases d.resolved with
  | map entries => cases hl : Value.lookup key entries <;> simp [hl]
  | _ => simp

theorem contains_of_lookup? {d n : Datum} {key : String} (h : d.lookup? key = some n) :
    d.contains key = .ok true := by
  rw [lookup?] at h
  rw [contains]
  cases hr : d.resolved with
  | map entries =>
    rw [hr] at h
    cases hl : Value.lookup key entries with
    | none => simp [hl] at h
    | some v => simp [hl]
  | _ => simp [hr] at h

end Datum

namespace Node

theorem get?_eq_some {n : Node} {key : String} {d : Datum} :
    n.get? key = .ok (some d) ↔ n.datum.lookup? key = some d := by
  rw [get?]
  constructor
  · intro h
    obtain ⟨b, -, h⟩ := bind_eq_ok.mp h
    cases b with
    | false => cases h
    | true =>
      obtain ⟨e, he, hd⟩ := bind_eq_ok.mp h
      cases hd
      exact Datum.subscript_eq_ok.mp he
  · intro h
    rw [Datum.contains_of_lookup? h, ok_bind, if_pos rfl, Datum.subscript_eq_ok.mpr h]
    rfl

theorem lookup?_of_get {n : Node} {key : String} {d : Datum} (h : n.get key = .ok d) :
    n.datum.lookup? key = some d := by
  rw [get] at h
  split at h
  · cases h
  · cases h
  · next e he =>
    split at h
    · cases h
    · cases h
      exact get?_eq_some.mp he

theorem get_of_lookup? {n : Node} {key : String} {d : Datum} (h : n.datum.lookup? key = some d)
    (hd : d.resolved ≠ .null) : n.get key = .ok d := by
  rw [get, get?_eq_some.mpr h]
  cases hr : d.resolved with
  | null => exact absurd hr hd
  | _ => simp only [hr]

end Node

/-! ## Comparing names -/

namespace Merged

/-- Against a text, two names are the same only as texts. -/
theorem sameName_text {known new : Datum} {s : String} (h : new.resolved = .text s) :
    sameName known new = true ↔ known.resolved = .text s := by
  rw [sameName, h, Bool.and_eq_true, Value.same_text]
  constructor
  · intro hk
    exact hk.2
  · intro hk
    refine ⟨?_, hk⟩
    rw [Datum.isContainer, hk]
    rfl

/-- What a finished search for a taken name has seen: a name under every node up to the one that
ended it. -/
theorem isTaken_eq_ok {item : Datum} {nodes : List Node} {b : Bool}
    (h : isTaken item nodes = .ok b) :
    (b = true → ∃ n ∈ nodes, ∃ known new, n.datum.lookup? "name" = some known ∧
      item.lookup? "name" = some new ∧ sameName known new = true) ∧
    (b = false → ∀ n ∈ nodes, ∃ known new, n.datum.lookup? "name" = some known ∧
      item.lookup? "name" = some new ∧ sameName known new = false) := by
  induction nodes with
  | nil =>
    cases h
    exact ⟨fun hb ↦ absurd hb Bool.false_ne_true, fun _ n hn ↦ absurd hn List.not_mem_nil⟩
  | cons n rest ih =>
    rw [isTaken] at h
    -- A search that goes on has found a name under this node, and a different one.
    obtain ⟨known, hknown, h⟩ := bind_eq_ok.mp h
    have hn := Node.lookup?_of_get hknown
    split at h
    · cases h
    · next new hnew =>
      have hi := Datum.subscript_eq_ok.mp hnew
      split at h
      · next hs =>
        cases h
        exact ⟨fun _ ↦ ⟨n, List.mem_cons_self, known, new, hn, hi, hs⟩,
          fun hb ↦ absurd hb.symm Bool.false_ne_true⟩
      · next hs =>
        obtain ⟨ht, hf⟩ := ih h
        constructor
        · intro hb
          obtain ⟨m, hm, rest⟩ := ht hb
          exact ⟨m, List.mem_cons_of_mem n hm, rest⟩
        · intro hb m hm
          rcases List.mem_cons.mp hm with rfl | hm
          · exact ⟨known, new, hn, hi, Bool.eq_false_iff.mpr hs⟩
          · exact hf hb m hm

theorem exists_named_of_isTaken {item : Datum} {nodes : List Node} {name : String}
    (h : isTaken item nodes = .ok true) (hi : item.textName? = some name) :
    ∃ n ∈ nodes, n.datum.textName? = some name := by
  obtain ⟨n, hn, known, new, hk, hnew, hs⟩ := (isTaken_eq_ok h).1 rfl
  obtain ⟨new', hnew', ht⟩ := Datum.textName?_eq_some.mp hi
  rw [hnew] at hnew'
  cases hnew'
  exact ⟨n, hn, Datum.textName?_eq_some.mpr ⟨known, hk, (sameName_text ht).mp hs⟩⟩

theorem not_named_of_not_isTaken {item : Datum} {nodes : List Node} {name : String}
    (h : isTaken item nodes = .ok false) (hi : item.textName? = some name) :
    ∀ n ∈ nodes, n.datum.textName? ≠ some name := by
  intro n hn hname
  obtain ⟨known, new, hk, hnew, hs⟩ := (isTaken_eq_ok h).2 rfl n hn
  obtain ⟨new', hnew', ht⟩ := Datum.textName?_eq_some.mp hi
  rw [hnew] at hnew'
  cases hnew'
  obtain ⟨known', hk', htk⟩ := Datum.textName?_eq_some.mp hname
  rw [hk] at hk'
  cases hk'
  rw [(sameName_text ht).mpr htk] at hs
  exact Bool.false_ne_true hs.symm

/-! ## Adding entries -/

def dataOf (nodes : List Node) : List Datum := nodes.map Node.datum

@[simp] theorem dataOf_append (xs ys : List Node) : dataOf (xs ++ ys) = dataOf xs ++ dataOf ys :=
  List.map_append

/-- One step of adding: the item is turned away, or becomes the last node. -/
theorem addItems_cons_eq_ok {path : String} {item : Datum} {rest : List Datum}
    {nodes nodes' : List Node} (h : addItems path (item :: rest) nodes = .ok nodes') :
    (isTaken item nodes = .ok true ∧ addItems path rest nodes = .ok nodes') ∨
      (isTaken item nodes = .ok false ∧ ∃ text, item.display = .ok text ∧
        addItems path rest (nodes ++ [⟨path ++ "/" ++ text, item⟩]) = .ok nodes') := by
  rw [addItems] at h
  obtain ⟨b, hb, h⟩ := bind_eq_ok.mp h
  cases b with
  | true => exact Or.inl ⟨hb, h⟩
  | false =>
    obtain ⟨text, ht, h⟩ := bind_eq_ok.mp h
    exact Or.inr ⟨hb, text, ht, h⟩

/-- **The law of adding.** The first entry of a name is the first that was there or offered. -/
theorem find?_addItems {path : String} {items : List Datum} {nodes nodes' : List Node}
    (h : addItems path items nodes = .ok nodes') (name : String) :
    (dataOf nodes').find? (Datum.isNamed name)
      = (dataOf nodes ++ items).find? (Datum.isNamed name) := by
  induction items generalizing nodes with
  | nil =>
    cases h
    rw [List.append_nil]
  | cons item rest ih =>
    rcases addItems_cons_eq_ok h with ⟨htaken, h⟩ | ⟨-, text, -, h⟩
    · rw [ih h, List.find?_append, List.find?_append, List.find?_cons]
      cases hi : item.isNamed name with
      | false => rfl
      | true =>
        -- an item that is turned away comes after a node of its name
        obtain ⟨n, hn, hname⟩ := exists_named_of_isTaken htaken (Datum.isNamed_eq_true.mp hi)
        have hsome : ((dataOf nodes).find? (Datum.isNamed name)).isSome = true := by
          rw [List.find?_isSome]
          exact ⟨n.datum, List.mem_map_of_mem hn, Datum.isNamed_eq_true.mpr hname⟩
        obtain ⟨d, hd⟩ := Option.isSome_iff_exists.mp hsome
        rw [hd, Option.some_or, Option.some_or]
    · rw [ih h, dataOf_append, List.append_assoc]
      rfl

/-- At most one entry has a given name. -/
def UniqueNames (nodes : List Node) : Prop :=
  nodes.Pairwise fun m n ↦ ∀ name, m.datum.textName? = some name → n.datum.textName? ≠ some name

theorem uniqueNames_addItems {path : String} {items : List Datum} {nodes nodes' : List Node}
    (h : addItems path items nodes = .ok nodes') (hu : UniqueNames nodes) : UniqueNames nodes' := by
  induction items generalizing nodes with
  | nil =>
    cases h
    exact hu
  | cons item rest ih =>
    rcases addItems_cons_eq_ok h with ⟨-, h⟩ | ⟨hfree, text, -, h⟩
    · exact ih h hu
    · refine ih h (List.pairwise_append.mpr ⟨hu, List.pairwise_singleton _ _, ?_⟩)
      intro m hm n hn name hname
      rw [List.mem_singleton.mp hn]
      intro hitem
      exact not_named_of_not_isTaken hfree hitem m hm hname

end Merged

end GatewayPrint.Kubeconfig
