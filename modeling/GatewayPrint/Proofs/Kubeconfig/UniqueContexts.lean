import GatewayPrint.Proofs.Kubeconfig.MergeFaults

/-!
# One context of each name

Merging turns an entry away when one of its name is there, so of each name a configuration has the
first context and no other (`filter_isNamed`, `Merges.contexts`). A look-up by name reports a name
that it meets twice. Among contexts of different names it has no occasion to
(`failsBy_findContext`): it fails by what it finds in an entry, and never by a duplicate.

This needs nothing of the documents. They may hold anything in place of contexts, as long as merging
them succeeds.
-/

namespace GatewayPrint.Kubeconfig

open Outcome

/-- What looking a context up fails by: what a look into entries fails by, an entry without a name,
a name without a context, or a context whose details are no mapping. -/
def Fault.IsOfContext : Fault → Prop
  | missingEntry .. | shape _ | digits | unnamed _ | missingContext _ | badContext .. => True
  | _ => False

theorem Fault.IsOfEntries.isOfContext {f : Fault} (h : f.IsOfEntries) : f.IsOfContext := by
  rcases h with h | rfl
  · cases f <;> trivial
  · trivial

namespace Merged

/-- Of entries of different names, those of a name are the first one of it. -/
theorem filter_isNamed {nodes : List Node} (hu : UniqueNames nodes) (name : String) :
    (dataOf nodes).filter (Datum.isNamed name)
      = ((dataOf nodes).find? (Datum.isNamed name)).toList := by
  induction nodes with
  | nil => rfl
  | cons n rest ih =>
    obtain ⟨hfirst, hrest⟩ := List.pairwise_cons.mp hu
    rw [dataOf, List.map_cons, List.filter_cons, List.find?_cons]
    cases hn : n.datum.isNamed name with
    | false => exact ih hrest
    | true =>
      have hnone : (dataOf rest).filter (Datum.isNamed name) = [] := by
        rw [List.filter_eq_nil_iff]
        intro d hd
        obtain ⟨k, hk, rfl⟩ := List.mem_map.mp hd
        rw [Datum.isNamed_eq_true]
        exact hfirst k hk name (Datum.isNamed_eq_true.mp hn)
      exact congrArg (List.cons n.datum) hnone

/-- A search for a name never meets it twice among contexts of different names. -/
theorem failsBy_findContext {m : Merged} {name : String} {nodes : List Node}
    {found : Option Node} (hu : UniqueNames nodes)
    (hfound : found.isSome = true → ∀ n ∈ nodes, n.datum.textName? ≠ some name) :
    FailsBy Fault.IsOfContext (m.findContext name nodes found) := by
  induction nodes generalizing found with
  | nil => exact failsBy_ok found
  | cons n rest ih =>
    obtain ⟨hfirst, hrest⟩ := List.pairwise_cons.mp hu
    rw [findContext]
    split
    · exact failsBy_error trivial
    · exact failsBy_error trivial
    · refine FailsBy.bind ?_ fun d hd ↦ ?_
      · exact (failsBy_get n "name").mono fun _ h ↦ Fault.IsOfEntries.isOfContext (.inl h)
      split
      · next ht =>
        have hown : n.datum.textName? = some name := Datum.textName?_eq_some.mpr
          ⟨d, Node.lookup?_of_get hd, Datum.isText_eq_true.mp ht⟩
        split
        · next hsome => exact absurd hown (hfound hsome n List.mem_cons_self)
        · exact ih hrest fun _ k hk ↦ hfirst k hk name hown
      · exact ih hrest fun hsome k hk ↦ hfound hsome k (List.mem_cons_of_mem n hk)

private theorem failsBy_namespaceOf {m : Merged} (hu : UniqueNames m.contexts) (name : String) :
    FailsBy Fault.IsOfContext (m.namespaceOf name) := by
  rw [namespaceOf, contextNamed?]
  refine (failsBy_findContext hu fun hsome ↦ absurd hsome (by simp)).bind fun r _ ↦ ?_
  cases r with
  | none => exact failsBy_error trivial
  | some n =>
    simp only
    split
    · exact failsBy_error trivial
    · exact failsBy_ok ""
    · split
      · exact failsBy_ok ""
      · split
        · rw [textOf.eq_def]
          split
          · split
            · exact (failsBy_display _).mono fun _ ↦ Fault.IsOfEntries.isOfContext
            · exact failsBy_ok ""
          · exact failsBy_ok ""
        · exact failsBy_error trivial

/-- Of each name a configuration has the first context that some documents give, and no other. -/
structure HasFirstOfEachName (docs : List Datum) (m : Merged) : Prop where
  kept : ∀ name, (dataOf m.contexts).filter (Datum.isNamed name)
    = ((entriesOf docs .contexts).find? (Datum.isNamed name)).toList
  found : ∀ name r, m.contextNamed? name = .ok r →
    r.map Node.datum = (entriesOf docs .contexts).find? (Datum.isNamed name)
  unambiguous : ∀ name other node, m.namespaceOf name ≠ .error (.ambiguous other node)

theorem Merges.hasFirstOfEachName {loaded : List (String × Datum)} {m : Merged}
    (hm : Merges loaded m) : HasFirstOfEachName (loaded.map Prod.snd) m where
  kept := by
    intro name
    rw [filter_isNamed hm.unique, hm.contexts]
  found := by
    intro name r hr
    rw [findContext_eq_ok hr, Option.none_or, ← find?_dataOf]
    exact hm.contexts name
  unambiguous := by
    intro name other node hf
    exact failsBy_namespaceOf hm.unique name _ hf

/-- **One context of each name.** Whatever documents are merged, and whatever files hold, the
contexts of a name that are kept are the first one that is given; a look-up that finds a context
finds that one; and none fails because a name is there twice. -/
theorem contexts_unique :
    (∀ (loaded : List (String × Datum)) (m : Merged), addDocuments loaded none = .ok (some m) →
      HasFirstOfEachName (loaded.map Prod.snd) m) ∧
    (∀ (t : FileTree) (accounts : List Account) (home list : String) (m : Merged),
      ofFiles t accounts home list = .ok (some m) →
      HasFirstOfEachName (m.documents.reverse.map Prod.snd) m) := by
  refine ⟨fun loaded m h ↦ (merges_of_addDocuments h).hasFirstOfEachName,
    fun t accounts home list m h ↦ ?_⟩
  obtain ⟨loaded, -, -, hadd⟩ := exists_loaded_of_addFiles h
  have hm := merges_of_addDocuments hadd
  rw [hm.documents, List.reverse_reverse]
  exact hm.hasFirstOfEachName

def namedContext (name : Value) (ns : String) : Value :=
  .map [(.text "name", name), (.text "context", .map [(.text "namespace", .text ns)])]

/-- Two documents that give three contexts of one name, and one whose name is a number. -/
def repeated : List (String × Datum) :=
  [("a", ⟨.map [(.text "contexts", .list [namedContext (.int 8) "x",
      namedContext (.text "dev") "one", namedContext (.text "dev") "two"])], []⟩),
    ("b", ⟨.map [(.text "contexts", .list [namedContext (.text "dev") "three"])], []⟩)]

theorem contexts_unique_repeated :
    ∃ m, addDocuments repeated none = .ok (some m) ∧
      (dataOf m.contexts).filter (Datum.isNamed "dev")
        = [⟨namedContext (.text "dev") "one", []⟩] ∧
      m.namespaceOf "dev" = .ok "one" ∧
      ∀ other node, m.namespaceOf "dev" ≠ .error (.ambiguous other node) := by
  have hvalue : (addDocuments repeated none).toOption.bind (fun merged ↦ merged.bind fun m ↦
      (m.namespaceOf "dev").toOption) = some "one" := by decide +kernel
  obtain ⟨merged, hmerged, hvalue⟩ := Option.bind_eq_some_iff.mp hvalue
  obtain ⟨m, rfl, hvalue⟩ := Option.bind_eq_some_iff.mp hvalue
  have hm := eq_ok_of_toOption hmerged
  have hfirst := contexts_unique.1 repeated m hm
  exact ⟨m, hm, (hfirst.kept "dev").trans rfl, eq_ok_of_toOption hvalue, hfirst.unambiguous "dev"⟩

end Merged

end GatewayPrint.Kubeconfig
