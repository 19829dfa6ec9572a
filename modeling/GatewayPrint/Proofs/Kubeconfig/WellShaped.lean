import GatewayPrint.Proofs.Kubeconfig.FirstFile

/-!
# Well-shaped documents

Documents whose lists are lists of named mappings. Merging them has one way to fail: an entry that
is new is put into words for the name of its node, and a value that holds a number of too many
digits has no words. `addDocuments_of_wellShaped` says exactly that, so among well-shaped documents
the answer is `firstFileNamespace` and nothing else (`namespaceOf_of_wellShaped`).
-/

namespace GatewayPrint.Kubeconfig

open Outcome

/-! ## The one way to fail -/

/-- A step of merging with one way to fail: as long as `shown` holds it gives a result of which
`good` is true, and otherwise some entry has no words. -/
structure FailsUnless {α : Type} (shown : Prop) (r : Except Fault α) (good : α → Prop) : Prop where
  ok : shown → ∃ a, r = .ok a ∧ good a
  error : ¬shown → r = .error .digits

namespace FailsUnless

variable {α β : Type} {shown shown' : Prop} {r : Except Fault α} {good good' : α → Prop}

theorem of_ok {a : α} (h : good a) : FailsUnless True (.ok a) good :=
  ⟨fun _ ↦ ⟨a, rfl, h⟩, fun h ↦ absurd trivial h⟩

theorem congr (h : FailsUnless shown r good) (hs : shown' ↔ shown)
    (hg : ∀ a, good a → good' a) : FailsUnless shown' r good' where
  ok hs' := by
    obtain ⟨a, ha, hgood⟩ := h.ok (hs.mp hs')
    exact ⟨a, ha, hg a hgood⟩
  error hs' := h.error fun hshown ↦ hs' (hs.mpr hshown)

theorem bind {f : α → Except Fault β} {good' : β → Prop} (h : FailsUnless shown r good)
    (hf : ∀ a, good a → FailsUnless shown' (f a) good') :
    FailsUnless (shown ∧ shown') (r >>= f) good' where
  ok hs := by
    obtain ⟨a, rfl, hgood⟩ := h.ok hs.1
    exact (hf a hgood).ok hs.2
  error hs := by
    by_cases hshown : shown
    · obtain ⟨a, rfl, hgood⟩ := h.ok hshown
      exact (hf a hgood).error fun hs' ↦ hs ⟨hshown, hs'⟩
    · rw [h.error hshown, error_bind]

theorem map (f : α → β) (h : FailsUnless shown r good) :
    FailsUnless shown (r.map f) fun b ↦ ∃ a, b = f a ∧ good a where
  ok hs := by
    obtain ⟨a, rfl, hgood⟩ := h.ok hs
    exact ⟨f a, rfl, a, rfl, hgood⟩
  error hs := by rw [h.error hs, map_error]

end FailsUnless

namespace Datum

/-- A list of named entries under a key, or nothing there. -/
def ListsEntries (d : Datum) (key : String) : Prop :=
  ∀ v, d.lookup? key = some v → v.resolved = .null ∨
    ∃ items, v.resolved = .list items ∧ ∀ x ∈ items, (v.withValue x).textName?.isSome = true

/-- A mapping whose lists are lists of named entries, and whose contexts give mappings as their
details, or none. -/
structure WellShaped (d : Datum) : Prop where
  mapping : d.isMapping = true
  lists : ∀ s : Section, d.ListsEntries s.key
  contexts : ∀ e ∈ d.entriesOf .contexts, ∀ c, e.lookup? "context" = some c →
    c.resolved = .null ∨ c.isMapping = true

/-- A value that can be put into words. -/
def isShown (d : Datum) : Bool := (d.value.display? d.cells).isSome

theorem failsUnless_display (d : Datum) :
    FailsUnless (d.isShown = true) d.display fun _ ↦ True := by
  rw [isShown, display]
  cases d.value.display? d.cells with
  | none => exact ⟨fun h ↦ absurd h Bool.false_ne_true, fun _ ↦ rfl⟩
  | some text => exact ⟨fun _ ↦ ⟨text, rfl, trivial⟩, fun h ↦ absurd rfl h⟩

private theorem field?_of_isMapping {d : Datum} (h : d.isMapping = true) (key : String) :
    d.field? key = .ok (d.lookup? key) := by
  rw [isMapping] at h
  rw [field?, lookup?]
  cases hr : d.resolved <;> simp [hr] at h ⊢

private theorem itemsOf_of_listsEntries {d : Datum} {s : Section} (hd : d.isMapping = true)
    (hs : d.ListsEntries s.key) :
    Merged.itemsOf d s.key = .ok (d.entriesOf s) ∧
      ∀ e ∈ d.entriesOf s, e.textName?.isSome = true := by
  have hitems : ∃ items, Merged.itemsOf d s.key = .ok items ∧
      ∀ e ∈ items, e.textName?.isSome = true := by
    rw [Merged.itemsOf, field?_of_isMapping hd, ok_bind]
    cases hl : d.lookup? s.key with
    | none => exact ⟨[], rfl, fun e he ↦ absurd he List.not_mem_nil⟩
    | some v =>
      rcases hs v hl with hnull | ⟨items, hlist, hnamed⟩
      · refine ⟨[], ?_, fun e he ↦ absurd he List.not_mem_nil⟩
        simp only [hnull, Value.truthy]
        rfl
      · cases items with
        | nil =>
          refine ⟨[], ?_, fun e he ↦ absurd he List.not_mem_nil⟩
          simp only [hlist, Value.truthy]
          rfl
        | cons x xs =>
          refine ⟨(x :: xs).map v.withValue, ?_, fun e he ↦ ?_⟩
          · simp only [hlist, Value.truthy, elements]
            rfl
          · obtain ⟨y, hy, rfl⟩ := List.mem_map.mp he
            exact hnamed y hy
  obtain ⟨items, hi, hnamed⟩ := hitems
  rw [entriesOf, hi]
  exact ⟨rfl, hnamed⟩

end Datum

/-! ## The first of each name -/

def namesOf (ds : List Datum) : List String := ds.filterMap Datum.textName?

/-- The entries that are the first of their names, where the names in `taken` have gone before. -/
def firstOfName (taken : List String) : List Datum → List Datum
  | [] => []
  | d :: rest =>
    match d.textName? with
    | none => firstOfName taken rest
    | some name =>
      if name ∈ taken then firstOfName taken rest else d :: firstOfName (taken ++ [name]) rest

theorem firstOfName_append (taken : List String) (xs ys : List Datum) :
    firstOfName taken (xs ++ ys)
      = firstOfName taken xs ++ firstOfName (taken ++ namesOf (firstOfName taken xs)) ys := by
  induction xs generalizing taken with
  | nil => rw [List.nil_append, firstOfName, namesOf, List.filterMap_nil, List.append_nil,
      List.nil_append]
  | cons d rest ih =>
    rw [List.cons_append, firstOfName, firstOfName]
    cases hd : d.textName? with
    | none => exact ih taken
    | some name =>
      simp only
      by_cases hn : name ∈ taken
      · rw [if_pos hn, if_pos hn]
        exact ih taken
      · rw [if_neg hn, if_neg hn, ih, List.cons_append, namesOf, namesOf, List.filterMap_cons, hd,
          List.append_assoc]
        rfl

theorem isSome_textName?_of_mem_firstOfName {taken : List String} {ds : List Datum} {d : Datum}
    (h : d ∈ firstOfName taken ds) : d ∈ ds ∧ d.textName?.isSome = true := by
  induction ds generalizing taken with
  | nil => exact absurd h List.not_mem_nil
  | cons e rest ih =>
    rw [firstOfName] at h
    cases he : e.textName? with
    | none =>
      rw [he] at h
      exact (ih h).imp_left (List.mem_cons_of_mem e)
    | some name =>
      rw [he] at h
      simp only at h
      split at h
      · exact (ih h).imp_left (List.mem_cons_of_mem e)
      · rcases List.mem_cons.mp h with rfl | h
        · exact ⟨List.mem_cons_self, by rw [he]; rfl⟩
        · exact (ih h).imp_left (List.mem_cons_of_mem e)

/-- The entries of one list that merging keeps. -/
def keptEntries (docs : List Datum) (s : Section) : List Datum := firstOfName [] (entriesOf docs s)

/-- Every entry that merging keeps can be put into words. -/
def AllKeptShown (docs : List Datum) : Prop :=
  ∀ s : Section, ∀ e ∈ keptEntries docs s, e.isShown = true

/-- The entries of one list that some documents add to what merging has kept. -/
def newEntries (docs docs' : List Datum) (s : Section) : List Datum :=
  firstOfName (namesOf (keptEntries docs s)) (entriesOf docs' s)

/-- Every entry that some documents add can be put into words. -/
def AllNewShown (docs docs' : List Datum) : Prop :=
  ∀ s : Section, ∀ e ∈ newEntries docs docs' s, e.isShown = true

theorem keptEntries_append (docs docs' : List Datum) (s : Section) :
    keptEntries (docs ++ docs') s = keptEntries docs s ++ newEntries docs docs' s := by
  rw [keptEntries, entriesOf_append, firstOfName_append, List.nil_append]
  rfl

theorem newEntries_cons (docs : List Datum) (d : Datum) (rest : List Datum) (s : Section) :
    newEntries docs (d :: rest) s = newEntries docs [d] s ++ newEntries (docs ++ [d]) rest s := by
  have hnames : namesOf (keptEntries (docs ++ [d]) s)
      = namesOf (keptEntries docs s) ++ namesOf (newEntries docs [d] s) := by
    rw [keptEntries_append, namesOf, List.filterMap_append]
    rfl
  rw [newEntries, ← List.singleton_append, entriesOf_append, firstOfName_append, newEntries,
    newEntries, hnames]
  rfl

theorem allNewShown_cons {docs : List Datum} {d : Datum} {rest : List Datum} :
    AllNewShown docs (d :: rest) ↔ AllNewShown docs [d] ∧ AllNewShown (docs ++ [d]) rest := by
  simp only [AllNewShown, newEntries_cons docs d rest, List.forall_mem_append, forall_and]

theorem forall_section {p : Section → Prop} :
    (∀ s, p s) ↔ p .clusters ∧ p .contexts ∧ p .users :=
  ⟨fun h ↦ ⟨h _, h _, h _⟩, fun h s ↦ by cases s; exacts [h.1, h.2.1, h.2.2]⟩

namespace Merged

/-! ## Adding named entries -/

private theorem isTaken_of_named {item : Datum} {name : String} (hi : item.textName? = some name)
    {nodes : List Node} (hnodes : ∀ n ∈ nodes, n.datum.textName?.isSome = true) :
    isTaken item nodes = .ok (decide (name ∈ namesOf (dataOf nodes))) := by
  induction nodes with
  | nil => rfl
  | cons n rest ih =>
    obtain ⟨own, hown⟩ := Option.isSome_iff_exists.mp (hnodes n List.mem_cons_self)
    obtain ⟨known, hk, htk⟩ := Datum.textName?_eq_some.mp hown
    obtain ⟨new, hnew, htn⟩ := Datum.textName?_eq_some.mp hi
    have hget : n.get "name" = .ok known := Node.get_of_lookup? hk (by rw [htk]; exact nofun)
    have hnames : namesOf (dataOf (n :: rest)) = own :: namesOf (dataOf rest) := by
      rw [namesOf, dataOf, List.map_cons, List.filterMap_cons, hown]
      rfl
    rw [isTaken, hget, ok_bind, Datum.subscript_eq_ok.mpr hnew, hnames]
    simp only
    by_cases hs : own = name
    · have hsame : sameName known new = true := (sameName_text htn).mpr (by rw [htk, hs])
      rw [hsame, if_pos rfl, hs, decide_eq_true List.mem_cons_self]
    · have hsame : ¬sameName known new = true := by
        rw [sameName_text htn, htk, Value.text.injEq]
        exact hs
      rw [if_neg hsame, ih fun k hk ↦ hnodes k (List.mem_cons_of_mem n hk)]
      congr 1
      rw [decide_eq_decide, List.mem_cons]
      exact ⟨Or.inr, fun h ↦ h.resolve_left fun hn ↦ hs hn.symm⟩

private theorem namesOf_dataOf_concat {item : Datum} {name : String}
    (hi : item.textName? = some name) (path : String) (nodes : List Node) :
    namesOf (dataOf (nodes ++ [⟨path, item⟩])) = namesOf (dataOf nodes) ++ [name] := by
  rw [dataOf_append, namesOf, List.filterMap_append, namesOf, dataOf, dataOf, List.map_cons,
    List.map_nil, List.filterMap_cons, hi]
  rfl

/-- Named entries are added one after another, and what is added is the first of each name. -/
theorem addItems_of_named (path : String) {items : List Datum}
    (hitems : ∀ d ∈ items, d.textName?.isSome = true) {nodes : List Node}
    (hnodes : ∀ n ∈ nodes, n.datum.textName?.isSome = true) :
    FailsUnless (∀ e ∈ firstOfName (namesOf (dataOf nodes)) items, e.isShown = true)
      (addItems path items nodes) fun nodes' ↦
        dataOf nodes' = dataOf nodes ++ firstOfName (namesOf (dataOf nodes)) items := by
  induction items generalizing nodes with
  | nil =>
    refine (FailsUnless.of_ok ?_).congr (iff_true_intro fun e he ↦ absurd he List.not_mem_nil)
      fun _ h ↦ h
    rw [firstOfName, List.append_nil]
  | cons item rest ih =>
    obtain ⟨name, hname⟩ := Option.isSome_iff_exists.mp (hitems item List.mem_cons_self)
    have hrest := fun d hd ↦ hitems d (List.mem_cons_of_mem item hd)
    rw [addItems, isTaken_of_named hname hnodes, ok_bind, firstOfName, hname]
    simp only
    by_cases ht : name ∈ namesOf (dataOf nodes)
    · rw [decide_eq_true ht, if_pos rfl, if_pos ht]
      exact ih hrest hnodes
    · rw [decide_eq_false ht, if_neg Bool.false_ne_true, if_neg ht]
      refine (item.failsUnless_display.bind fun text _ ↦ ?_).congr List.forall_mem_cons
        fun _ h ↦ h
      have hnodes' : ∀ n ∈ nodes ++ [(⟨path ++ "/" ++ text, item⟩ : Node)],
          n.datum.textName?.isSome = true := by
        refine List.forall_mem_append.mpr ⟨hnodes, fun n hn ↦ ?_⟩
        rw [List.mem_singleton.mp hn, hname]
        rfl
      have hadd := ih hrest hnodes'
      rw [namesOf_dataOf_concat hname, dataOf_append, List.append_assoc] at hadd
      exact hadd

/-! ## Adding well-shaped documents -/

/-- The lists of a configuration hold the entries that merging some documents keeps. -/
def Keeps (docs : List Datum) (m : Merged) : Prop :=
  ∀ s : Section, dataOf (m.list s) = keptEntries docs s

theorem named_of_dataOf_eq {docs : List Datum} {s : Section} {nodes : List Node}
    (h : dataOf nodes = keptEntries docs s) : ∀ n ∈ nodes, n.datum.textName?.isSome = true := by
  intro n hn
  have hmem : n.datum ∈ dataOf nodes := List.mem_map_of_mem hn
  rw [h] at hmem
  exact (isSome_textName?_of_mem_firstOfName hmem).2

theorem addSection_of_wellShaped (path : String) {docs : List Datum} {d : Datum}
    (hd : d.WellShaped) {m : Merged} {s : Section} (hm : dataOf (m.list s) = keptEntries docs s) :
    FailsUnless (∀ e ∈ newEntries docs [d] s, e.isShown = true) (addSection path d m s) fun m' ↦
      ∃ nodes, m' = m.setList nodes s ∧ dataOf nodes = keptEntries (docs ++ [d]) s := by
  obtain ⟨hitems, hnamed⟩ := Datum.itemsOf_of_listsEntries hd.mapping (hd.lists s)
  have hadd := addItems_of_named path hnamed (named_of_dataOf_eq hm)
  rw [hm, ← entriesOf_singleton] at hadd
  rw [keptEntries_append, addSection, hitems, ← entriesOf_singleton]
  exact hadd.map _

/-- What is known of the configuration before some documents, if there is one yet. -/
def KeepsBefore (docs : List Datum) (m : Option Merged) : Prop :=
  ∀ s : Section, dataOf (m.elim [] fun m ↦ m.list s) = keptEntries docs s

private theorem exists_keeps_before (path : String) {docs : List Datum} {d : Datum}
    (hd : d.isMapping = true) {m : Option Merged} (hm : KeepsBefore docs m) :
    ∃ m₀, before path d m = .ok m₀ ∧ Keeps docs m₀ := by
  obtain ⟨m₀, hm₀⟩ := exists_before path hd m
  refine ⟨m₀, hm₀, fun s ↦ ?_⟩
  rw [(before_eq_ok hm₀).2 s]
  exact hm s

private theorem addDocument_of_wellShaped (path : String) {docs : List Datum} {d : Datum}
    (hd : d.WellShaped) {m : Option Merged} (hm : KeepsBefore docs m) :
    FailsUnless (AllNewShown docs [d]) (addDocument path d m) (Keeps (docs ++ [d])) := by
  obtain ⟨m₀, hm₀, hkeep⟩ := exists_keeps_before path hd.mapping hm
  rw [addDocument_eq (resolved_ne_null hd.mapping), hm₀, ok_bind, AllNewShown, forall_section]
  -- A section sets its own list only, so the next one still finds what was kept before.
  refine (addSection_of_wellShaped path hd (hkeep .clusters)).bind ?_
  rintro _ ⟨n₁, rfl, h₁⟩
  have hk₂ : dataOf ((m₀.setList n₁ .clusters).list .contexts) = keptEntries docs .contexts :=
    hkeep .contexts
  refine (addSection_of_wellShaped path hd hk₂).bind ?_
  rintro _ ⟨n₂, rfl, h₂⟩
  have hk₃ : dataOf (((m₀.setList n₁ .clusters).setList n₂ .contexts).list .users)
      = keptEntries docs .users := hkeep .users
  refine ((addSection_of_wellShaped path hd hk₃).bind ?_).congr (and_iff_left trivial).symm
    fun _ h ↦ h
  rintro _ ⟨n₃, rfl, h₃⟩
  exact FailsUnless.of_ok (forall_section.mpr ⟨h₁, h₂, h₃⟩)

/-- **Merging well-shaped documents.** It succeeds unless an entry that is kept has no words. -/
theorem addDocuments_of_wellShaped {rest : List (String × Datum)}
    (hrest : ∀ e ∈ rest, e.2.WellShaped) {docs : List Datum} {m : Option Merged}
    (hm : KeepsBefore docs m) :
    FailsUnless (AllNewShown docs (rest.map Prod.snd)) (addDocuments rest m)
      (KeepsBefore (docs ++ rest.map Prod.snd)) := by
  induction rest generalizing docs m with
  | nil =>
    rw [List.map_nil, List.append_nil]
    exact (FailsUnless.of_ok hm).congr
      (iff_true_intro fun s e he ↦ absurd he List.not_mem_nil) fun _ h ↦ h
  | cons e rest ih =>
    obtain ⟨path, d⟩ := e
    have hd := hrest (path, d) List.mem_cons_self
    have hrest' := fun e he ↦ hrest e (List.mem_cons_of_mem _ he)
    rw [List.map_cons, addDocuments, List.append_cons]
    exact ((addDocument_of_wellShaped path hd hm).bind fun m' hm' ↦
      ih hrest' (m := some m') hm').congr allNewShown_cons fun _ h ↦ h

/-! ## The answer -/

private theorem details?_isMapping {d e c : Datum} (hd : d.WellShaped)
    (he : e ∈ d.entriesOf .contexts) (hc : e.details? = some c) : c.isMapping = true := by
  rw [Datum.details?, Option.filter_eq_some_iff] at hc
  rcases hd.contexts e he c hc.1 with hnull | hmap
  · rw [hnull, Value.truthy] at hc
    exact absurd hc.2 Bool.false_ne_true
  · exact hmap

/-- Among well-shaped documents the look-up of a context gives the first of its name. -/
theorem namespaceOf_of_wellShaped {loaded : List (String × Datum)}
    (hwell : ∀ e ∈ loaded, e.2.WellShaped) {m : Merged} (hm : Merges loaded m)
    (hkeep : Keeps (loaded.map Prod.snd) m) (name : String) :
    m.namespaceOf name =
      match (entriesOf (loaded.map Prod.snd) .contexts).find? (Datum.isNamed name) with
      | none => .error (.missingContext name)
      | some e => e.contextNamespace := by
  have hfound : m.contextNamed? name
      = .ok (m.contexts.find? fun n ↦ n.datum.isNamed name) := by
    have hnamed : ∀ n ∈ m.contexts, n.datum.textName?.isSome = true :=
      named_of_dataOf_eq (hkeep .contexts)
    rw [contextNamed?, findContext_of_named hnamed hm.unique
      (fun h ↦ absurd h (by simp)), Option.none_or]
  rw [← hm.contexts, find?_dataOf]
  cases hn : m.contexts.find? fun n ↦ n.datum.isNamed name with
  | none =>
    rw [hn] at hfound
    rw [namespaceOf, hfound]
    rfl
  | some n =>
    rw [hn] at hfound
    have hnamed : n.datum.textName? = some name :=
      by simpa using List.find?_some hn
    rw [namespaceOf_of_found hfound (isMapping_of_textName? hnamed), Option.map_some]
    simp only
    cases hc : n.datum.details? with
    | none =>
      rw [Datum.contextNamespace, hc]
      rfl
    | some c =>
      have hmem : n.datum ∈ entriesOf (loaded.map Prod.snd) .contexts := by
        have : n.datum ∈ dataOf (m.list .contexts) :=
          List.mem_map_of_mem (List.mem_of_find?_eq_some hn)
        rw [hkeep .contexts] at this
        exact (isSome_textName?_of_mem_firstOfName this).1
      obtain ⟨d, hd, hmem⟩ := List.mem_flatMap.mp hmem
      obtain ⟨e, he, rfl⟩ := List.mem_map.mp hd
      simp only
      rw [if_pos (details?_isMapping (hwell e he) hmem hc)]

end Merged

end GatewayPrint.Kubeconfig
