import GatewayPrint.Proofs.Kubeconfig.Digits
import GatewayPrint.Proofs.Kubeconfig.MergeFaults
import GatewayPrint.Proofs.Kubeconfig.Readable

/-!
# What is put into words

Merging puts three kinds of value into words: an entry that is new in its list, for the name of its
node; the current context; and the namespace of a context. A value without words is the one thing in
it that is not handled, so merging is handled when what it puts into words has words, and when the
files it opens are readable (`Source.handled_namespaceIn_iff`).

## Entries without nodes

Which entries are new depends on the entries before them and not on the names of nodes. `Kept` is
merging told of documents alone: the entries that stand in each list, and whether merging has got
through the documents. An entry without a name to compare, or a list that is none, ends it by a
fault that is handled, and what comes behind does not count.

## Three ends

A step of merging ends without words, by a fault that is handled, or with a result (`EndsAs`). Each
step is followed by one of `Kept`, and it is the latter that tells which end it is.
-/

namespace GatewayPrint.Kubeconfig

open Outcome

/-! ## Documents alone -/

namespace Datum

/-- The name by which an entry that is kept is compared. -/
def ownName? (d : Datum) : Option Datum := (d.lookup? "name").filter fun n ↦ !n.isNull

/-- Whether an item has the name of one of some entries, asked entry by entry until one is found.
There is no telling when one of the two has no name. -/
def isKnown? (item : Datum) : List Datum → Option Bool
  | [] => some false
  | e :: rest =>
    match e.ownName?, item.lookup? "name" with
    | some known, some new => if Merged.sameName known new then some true else item.isKnown? rest
    | _, _ => none

/-- The items that are new beside some entries and beside one another, as far as it can be told, and
whether it can be told of all. -/
def newBeside : List Datum → List Datum → List Datum × Bool
  | _, [] => ([], true)
  | entries, item :: rest =>
    match item.isKnown? entries with
    | none => ([], false)
    | some true => newBeside entries rest
    | some false =>
      let more := newBeside (entries ++ [item]) rest
      (item :: more.1, more.2)

end Datum

/-- What merging keeps of some documents: the entries in each list, and whether it has got through
the documents. -/
structure Kept where
  list : Section → List Datum
  whole : Bool

namespace Kept

/-- What is kept of no document. -/
def nothing : Kept := ⟨fun _ ↦ [], true⟩

def addSection (d : Datum) (k : Kept) (s : Section) : Kept :=
  if k.whole then
    match Merged.itemsOf d s.key with
    | .error _ => { k with whole := false }
    | .ok items =>
      let new := Datum.newBeside (k.list s) items
      ⟨fun s' ↦ if s = s' then k.list s ++ new.1 else k.list s', new.2⟩
  else k

/-- Adds a document, list by list. -/
def add (k : Kept) (d : Datum) : Kept :=
  ((k.addSection d .clusters).addSection d .contexts).addSection d .users

def AllShown (k : Kept) : Prop := ∀ s, ∀ e ∈ k.list s, e.isShown = true

/-- One is what the other comes to: it has the other's entries, and nothing is added once merging
has ended. -/
structure Extends (k' k : Kept) : Prop where
  shown : k'.AllShown → k.AllShown
  stays : k.whole = false → k' = k

theorem Extends.trans {k k' k'' : Kept} (h' : k''.Extends k') (h : k'.Extends k) :
    k''.Extends k where
  shown hs := h.shown (h'.shown hs)
  stays hw := by
    have hk := h.stays hw
    rw [h'.stays (hk ▸ hw), hk]

end Kept

/-! ## Three ends -/

/-- A step of merging that ends in one of three ways: without words, by a fault that is handled, or
with a result of which `good` is true. -/
structure EndsAs {α : Type} (shown : Prop) (whole : Bool) (r : Except Fault α) (good : α → Prop) :
    Prop where
  wordless : ¬shown → r = .error .digits
  broken : shown → whole = false → ∃ f, r = .error f ∧ f.isUnhandled = false
  through : shown → whole = true → ∃ a, r = .ok a ∧ good a

namespace EndsAs

variable {α β : Type} {shown shown' : Prop} {whole whole' : Bool} {r : Except Fault α}
  {good : α → Prop} {good' : β → Prop}

theorem of_error {f : Fault} (hs : shown) (hf : f.isUnhandled = false) :
    EndsAs shown false (.error f : Except Fault α) good :=
  ⟨fun h ↦ absurd hs h, fun _ _ ↦ ⟨f, rfl, hf⟩, fun _ h ↦ absurd h Bool.false_ne_true⟩

theorem of_ok {a : α} (hs : shown) (ha : good a) : EndsAs shown true (.ok a) good :=
  ⟨fun h ↦ absurd hs h, fun _ h ↦ absurd h.symm Bool.false_ne_true, fun _ _ ↦ ⟨a, rfl, ha⟩⟩

theorem congr {good' : α → Prop} (h : EndsAs shown whole r good) (hs : shown' ↔ shown)
    (hg : ∀ a, good a → good' a) : EndsAs shown' whole r good' where
  wordless hn := h.wordless fun h ↦ hn (hs.mpr h)
  broken hs' := h.broken (hs.mp hs')
  through hs' hw := by
    obtain ⟨a, hr, ha⟩ := h.through (hs.mp hs') hw
    exact ⟨a, hr, hg a ha⟩

theorem map (h : EndsAs shown whole r good) (f : α → β) (hg : ∀ a, good a → good' (f a)) :
    EndsAs shown whole (r.map f) good' where
  wordless hn := by rw [h.wordless hn, map_error]
  broken hs hw := by
    obtain ⟨e, rfl, he⟩ := h.broken hs hw
    exact ⟨e, rfl, he⟩
  through hs hw := by
    obtain ⟨a, rfl, ha⟩ := h.through hs hw
    exact ⟨f a, rfl, hg a ha⟩

/-- What follows a step that gets through decides; after another end nothing follows. -/
theorem bind {f : α → Except Fault β} (h : EndsAs shown whole r good) (hmono : shown' → shown)
    (hstop : shown → whole = false → shown' ∧ whole' = false)
    (hf : shown → whole = true → ∀ a, good a → EndsAs shown' whole' (f a) good') :
    EndsAs shown' whole' (r >>= f) good' := by
  by_cases hs : shown
  · cases whole with
    | true =>
      obtain ⟨a, rfl, ha⟩ := h.through hs rfl
      exact hf hs rfl a ha
    | false =>
      obtain ⟨e, rfl, he⟩ := h.broken hs rfl
      obtain ⟨hs', rfl⟩ := hstop hs rfl
      exact of_error hs' he
  · rw [h.wordless hs]
    have hs' : ¬shown' := fun h ↦ hs (hmono h)
    exact ⟨fun _ ↦ rfl, fun h ↦ absurd h hs', fun h ↦ absurd h hs'⟩

end EndsAs

namespace Merged

/-- What merging has come to, with words for all of it. -/
structure Follows (k : Kept) (m : Option Merged) : Prop where
  whole : k.whole = true
  shown : k.AllShown
  lists : ∀ s, dataOf (m.elim [] fun m ↦ m.list s) = k.list s

private theorem Follows.before {path : String} {d : Datum} {k : Kept} {m : Option Merged}
    (h : Follows k m) {m₀ : Merged} (hm₀ : before path d m = .ok m₀) : Follows k (some m₀) where
  whole := h.whole
  shown := h.shown
  lists s := by rw [← h.lists s, ← (before_eq_ok hm₀).2 s, Option.elim_some]

end Merged

namespace Source

end Source

end GatewayPrint.Kubeconfig
