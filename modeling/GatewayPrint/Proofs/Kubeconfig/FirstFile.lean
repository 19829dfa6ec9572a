import GatewayPrint.Proofs.Kubeconfig.Naming

/-!
# First file wins

What several documents say about the current namespace, told without merging them: the current
context is that of the first document that sets one, the contexts are those of all documents one
after another, and of several contexts of one name the first counts (`firstFileNamespace`).

Merging arrives at the same answer by another way. It keeps one list of contexts, adds to it what is
new, and looks the current context up by the names of files. `Merges` is what holds between two
files, and `namespaceOf_merges` reads the answer off it.
-/

namespace GatewayPrint.Kubeconfig

open Outcome

namespace Datum

def isMapping (d : Datum) : Bool :=
  match d.resolved with
  | .map _ => true
  | _ => false

/-- The current context that a document sets, if that counts as present. -/
def current? (d : Datum) : Option Datum :=
  (d.lookup? "current-context").filter fun c ↦ c.resolved.truthy

/-- The entries of one list of a document, in order. -/
def entriesOf (d : Datum) (s : Section) : List Datum :=
  match Merged.itemsOf d s.key with
  | .ok items => items
  | .error _ => []

/-- The details of a context, if they count as present. -/
def details? (d : Datum) : Option Datum :=
  (d.lookup? "context").filter fun c ↦ c.resolved.truthy

/-- The namespace that a context gives: empty when it gives none. -/
def contextNamespace (d : Datum) : Except Fault String :=
  Merged.textOf (d.details?.bind fun c ↦ c.lookup? "namespace")

end Datum

/-- The entries of one list of some documents, file after file. -/
def entriesOf (docs : List Datum) (s : Section) : List Datum := docs.flatMap fun d ↦ d.entriesOf s

/-- The current context of the first document that sets one. -/
def firstCurrent (docs : List Datum) : Option Datum := docs.findSome? Datum.current?

/-- The namespace that some documents give: that of the first context named as the first current
context says. -/
def firstFileNamespace (docs : List Datum) : Except Fault String :=
  match firstCurrent docs with
  | none => .ok ""
  | some c => do
    let name ← c.display
    match (entriesOf docs .contexts).find? (Datum.isNamed name) with
    | none => .error (.missingContext name)
    | some e => e.contextNamespace

theorem entriesOf_append (docs docs' : List Datum) (s : Section) :
    entriesOf (docs ++ docs') s = entriesOf docs s ++ entriesOf docs' s :=
  List.flatMap_append

theorem entriesOf_singleton (d : Datum) (s : Section) : entriesOf [d] s = d.entriesOf s := by
  rw [entriesOf, List.flatMap_cons, List.flatMap_nil, List.append_nil]

namespace Merged

/-! ## Merging documents -/

/-- Adds documents in order, each with the name of its file. -/
def addDocuments : List (String × Datum) → Option Merged → Except Fault (Option Merged)
  | [], m => .ok m
  | (path, d) :: rest, m => do
    let m ← addDocument path d m
    addDocuments rest (some m)

/-- Once every file can be loaded, adding files is adding documents. -/
theorem addFiles_eq_addDocuments {t : FileTree} {loaded : List (String × Datum)}
    (h : ∀ e ∈ loaded, load t e.1 = .ok e.2) (m : Option Merged) :
    addFiles t (loaded.map Prod.fst) m = addDocuments loaded m := by
  induction loaded generalizing m with
  | nil => rfl
  | cons e rest ih =>
    obtain ⟨path, d⟩ := e
    rw [List.map_cons, addFiles, addDocuments, h (path, d) List.mem_cons_self, ok_bind]
    congr 1
    funext m'
    exact ih (fun e he ↦ h e (List.mem_cons_of_mem _ he)) _

/-- Files that have been added could be loaded, and their documents have been added. -/
theorem exists_loaded_of_addFiles {t : FileTree} {names : List String} {m merged : Option Merged}
    (h : addFiles t names m = .ok merged) :
    ∃ loaded : List (String × Datum), loaded.map Prod.fst = names ∧
      (∀ e ∈ loaded, load t e.1 = .ok e.2) ∧ addDocuments loaded m = .ok merged := by
  induction names generalizing m with
  | nil => exact ⟨[], rfl, fun e he ↦ absurd he List.not_mem_nil, h⟩
  | cons name rest ih =>
    obtain ⟨d, hd, h⟩ := bind_eq_ok.mp h
    obtain ⟨x, hx, h⟩ := bind_eq_ok.mp h
    obtain ⟨loaded, hnames, hload, hadd⟩ := ih h
    refine ⟨(name, d) :: loaded, by rw [List.map_cons, hnames], fun e he ↦ ?_, ?_⟩
    · rcases List.mem_cons.mp he with rfl | he
      · exact hd
      · exact hload e he
    · rw [addDocuments, hx, ok_bind, hadd]

@[simp] theorem list_setList (m : Merged) (nodes : List Node) (s s' : Section) :
    (m.setList nodes s).list s' = if s = s' then nodes else m.list s' := by
  cases s <;> cases s' <;> rfl

theorem resolved_ne_null {d : Datum} (hd : d.isMapping = true) : d.resolved ≠ .null := by
  intro hn
  rw [Datum.isMapping, hn] at hd
  exact Bool.false_ne_true hd

theorem isMapping_of_itemsOf {d : Datum} {key : String} {items : List Datum}
    (h : itemsOf d key = .ok items) : d.isMapping = true := by
  rw [itemsOf] at h
  obtain ⟨f, hf, -⟩ := bind_eq_ok.mp h
  rw [Datum.isMapping]
  rw [Datum.field?] at hf
  cases hr : d.resolved <;> simp [hr] at hf ⊢

theorem addSection_eq_ok {path : String} {d : Datum} {m m' : Merged} {s : Section}
    (h : addSection path d m s = .ok m') :
    d.isMapping = true ∧ ∃ nodes, addItems path (d.entriesOf s) (m.list s) = .ok nodes ∧
      m' = m.setList nodes s := by
  rw [addSection] at h
  cases hi : itemsOf d s.key with
  | error f => simp [hi] at h
  | ok items =>
    rw [hi] at h
    obtain ⟨nodes, hn, rfl⟩ := map_eq_ok.mp h
    refine ⟨isMapping_of_itemsOf hi, nodes, ?_, rfl⟩
    rwa [Datum.entriesOf, hi]

/-- The configuration that a document is added to. -/
def before (path : String) (d : Datum) (m : Option Merged) : Except Fault Merged :=
  m.elim (start path d) .ok

/-- A document that is not null goes through the three sections in turn. -/
theorem addDocument_eq {path : String} {d : Datum} (hd : d.resolved ≠ .null) (m : Option Merged) :
    addDocument path d m = do
      let m ← before path d m
      let m ← addSection path d m .clusters
      let m ← addSection path d m .contexts
      let m ← addSection path d m .users
      return { m with documents := (path, d) :: m.documents } := by
  rw [addDocument]
  split
  · next hn => exact absurd hn hd
  · cases m with
    | none => rfl
    | some m => rfl

private theorem resolved_ne_null_of_addDocument {path : String} {d : Datum} {m : Option Merged}
    {m' : Merged} (h : addDocument path d m = .ok m') : d.resolved ≠ .null := by
  intro hn
  rw [addDocument, hn] at h
  cases h

theorem before_eq_ok {path : String} {d : Datum} {m : Option Merged} {m₀ : Merged}
    (h : before path d m = .ok m₀) :
    m₀.documents = m.elim [] Merged.documents ∧ ∀ s, m₀.list s = m.elim [] fun m ↦ m.list s := by
  cases m with
  | some m =>
    cases h
    exact ⟨rfl, fun _ ↦ rfl⟩
  | none =>
    rw [before, Option.elim_none, start] at h
    split at h
    · cases h
      refine ⟨rfl, fun s ↦ ?_⟩
      cases s <;> rfl
    · cases h
    · cases h

theorem exists_before (path : String) {d : Datum} (hd : d.isMapping = true)
    (m : Option Merged) : ∃ m₀, before path d m = .ok m₀ := by
  cases m with
  | some m => exact ⟨m, rfl⟩
  | none =>
    rw [Datum.isMapping] at hd
    rw [before, Option.elim_none, start]
    split at hd
    · next entries hr => exact ⟨⟨path, [], [], [], []⟩, by simp only [hr]⟩
    · exact absurd hd Bool.false_ne_true

/-- What stands in the lists after a document: each holds what it held before, with the entries of
the document added. -/
theorem addDocument_eq_ok {path : String} {d : Datum} {m : Option Merged} {m' : Merged}
    (h : addDocument path d m = .ok m') :
    d.isMapping = true ∧
      m'.documents = (path, d) :: (m.elim [] Merged.documents) ∧
      ∀ s, addItems path (d.entriesOf s) (m.elim [] fun m ↦ m.list s) = .ok (m'.list s) := by
  rw [addDocument_eq (resolved_ne_null_of_addDocument h)] at h
  obtain ⟨m₀, hm₀, h⟩ := bind_eq_ok.mp h
  obtain ⟨m₁, h₁, h⟩ := bind_eq_ok.mp h
  obtain ⟨m₂, h₂, h⟩ := bind_eq_ok.mp h
  obtain ⟨m₃, h₃, h⟩ := bind_eq_ok.mp h
  cases h
  have hstart := before_eq_ok hm₀
  -- Each section sets its own list, so the other two stand in it as they were.
  obtain ⟨hd, n₁, ha₁, rfl⟩ := addSection_eq_ok h₁
  obtain ⟨-, n₂, ha₂, rfl⟩ := addSection_eq_ok h₂
  obtain ⟨-, n₃, ha₃, rfl⟩ := addSection_eq_ok h₃
  refine ⟨hd, ?_, fun s ↦ ?_⟩
  · rw [← hstart.1]
    rfl
  · rw [← hstart.2]
    cases s
    · exact ha₁
    · exact ha₂
    · exact ha₃

/-- There is a configuration once a document has been added. -/
theorem exists_of_addDocuments {loaded : List (String × Datum)} {merged : Option Merged}
    (hne : loaded ≠ []) (h : addDocuments loaded none = .ok merged) : ∃ m, merged = some m := by
  have hsome : ∀ (rest : List (String × Datum)) (m : Merged) (r : Option Merged),
      addDocuments rest (some m) = .ok r → ∃ m', r = some m' := by
    intro rest
    induction rest with
    | nil =>
      intro m r hr
      cases hr
      exact ⟨m, rfl⟩
    | cons e rest ih =>
      intro m r hr
      obtain ⟨m', -, hr⟩ := bind_eq_ok.mp hr
      exact ih m' r hr
  cases loaded with
  | nil => exact absurd rfl hne
  | cons e rest =>
    obtain ⟨m, -, h⟩ := bind_eq_ok.mp h
    exact hsome rest m merged h

/-! ## The invariant of merging -/

/-- What a configuration knows after some files: which documents there were, that they are mappings,
and of each name the first context. -/
structure Merges (loaded : List (String × Datum)) (m : Merged) : Prop where
  documents : m.documents = loaded.reverse
  mappings : ∀ e ∈ loaded, e.2.isMapping = true
  contexts : ∀ name, (dataOf m.contexts).find? (Datum.isNamed name)
    = (entriesOf (loaded.map Prod.snd) .contexts).find? (Datum.isNamed name)
  unique : UniqueNames m.contexts

/-- One more file keeps the invariant. -/
theorem merges_addDocument {loaded : List (String × Datum)} {m : Option Merged} {m' : Merged}
    {path : String} {d : Datum} (hm : ∀ x, m = some x → Merges loaded x)
    (hnone : m = none → loaded = []) (h : addDocument path d m = .ok m') :
    Merges (loaded ++ [(path, d)]) m' := by
  obtain ⟨hd, hdocs, hlists⟩ := addDocument_eq_ok h
  have hcontexts := hlists .contexts
  -- Before the first document there are empty lists, of which the invariant holds as well.
  have hold : (∀ e ∈ loaded, e.2.isMapping = true) ∧
      (m.elim [] Merged.documents) = loaded.reverse ∧
      UniqueNames (m.elim [] Merged.contexts) ∧
      ∀ name, (dataOf (m.elim [] Merged.contexts)).find? (Datum.isNamed name)
        = (entriesOf (loaded.map Prod.snd) .contexts).find? (Datum.isNamed name) := by
    cases m with
    | none =>
      rw [hnone rfl]
      exact ⟨fun e he ↦ absurd he List.not_mem_nil, rfl, List.Pairwise.nil, fun _ ↦ rfl⟩
    | some x =>
      have hx := hm x rfl
      exact ⟨hx.mappings, hx.documents, hx.unique, hx.contexts⟩
  obtain ⟨hmap, hdoc, huniq, hfind⟩ := hold
  refine ⟨?_, ?_, fun name ↦ ?_, uniqueNames_addItems hcontexts huniq⟩
  · rw [hdocs, hdoc, List.reverse_append]
    rfl
  · intro e he
    rcases List.mem_append.mp he with he | he
    · exact hmap e he
    · rw [List.mem_singleton.mp he]
      exact hd
  · change (dataOf (m'.list .contexts)).find? _ = _
    rw [find?_addItems hcontexts, List.find?_append, List.map_append, entriesOf_append,
      List.find?_append, List.map_cons, List.map_nil, entriesOf_singleton]
    exact congrArg (Option.or · _) (hfind name)

private theorem merges_addDocuments {rest : List (String × Datum)} {loaded : List (String × Datum)}
    {m : Option Merged} {m' : Merged} (hm : ∀ x, m = some x → Merges loaded x)
    (hnone : m = none → loaded = []) (h : addDocuments rest m = .ok (some m')) :
    Merges (loaded ++ rest) m' := by
  induction rest generalizing loaded m with
  | nil =>
    cases h
    rw [List.append_nil]
    exact hm m' rfl
  | cons e rest ih =>
    obtain ⟨path, d⟩ := e
    obtain ⟨x, hx, h⟩ := bind_eq_ok.mp h
    rw [← List.singleton_append, ← List.append_assoc]
    refine ih (fun y hy ↦ ?_) (fun hy ↦ absurd hy (Option.some_ne_none _)) h
    cases hy
    exact merges_addDocument hm hnone hx

theorem merges_of_addDocuments {loaded : List (String × Datum)} {m : Merged}
    (h : addDocuments loaded none = .ok (some m)) : Merges loaded m := by
  have := @merges_addDocuments loaded [] none m
    (fun x hx ↦ absurd hx.symm (Option.some_ne_none _)) (fun _ ↦ rfl) h
  rwa [List.nil_append] at this

/-- The documents that are kept of files are those that could be loaded, the last one first. -/
theorem documents_of_addFiles {t : FileTree} {names : List String} {merged : Option Merged}
    (h : addFiles t names none = .ok merged) :
    ∃ loaded : List (String × Datum), loaded.map Prod.fst = names ∧
      (∀ e ∈ loaded, load t e.1 = .ok e.2) ∧
        merged.elim [] Merged.documents = loaded.reverse := by
  obtain ⟨loaded, hnames, hload, hadd⟩ := exists_loaded_of_addFiles h
  refine ⟨loaded, hnames, hload, ?_⟩
  cases merged with
  | some m => exact (merges_of_addDocuments hadd).documents
  | none =>
    have hnil : loaded = [] := by
      by_contra hne
      obtain ⟨m, hm⟩ := exists_of_addDocuments hne hadd
      cases hm
    rw [hnil]
    rfl

/-- Under the name of a file that was added, and under no other name, its document is kept. -/
theorem lookup_documents_eq_some {t : FileTree} {names : List String} {merged : Option Merged}
    (h : addFiles t names none = .ok merged) {name : String} {d : Datum} :
    (merged.elim [] Merged.documents).lookup name = some d
      ↔ name ∈ names ∧ load t name = .ok d := by
  obtain ⟨loaded, rfl, hload, hdocs⟩ := documents_of_addFiles h
  have hfound : ∀ d', (merged.elim [] Merged.documents).lookup name = some d' →
      (name, d') ∈ loaded := by
    intro d' hd'
    rw [hdocs] at hd'
    exact List.mem_reverse.mp (mem_of_lookup hd')
  constructor
  · intro hd
    exact ⟨List.mem_map_of_mem (hfound d hd), hload _ (hfound d hd)⟩
  · rintro ⟨hname, hd⟩
    obtain ⟨e, he, rfl⟩ := List.mem_map.mp hname
    cases hl : (merged.elim [] Merged.documents).lookup e.1 with
    | none =>
      rw [hdocs, List.lookup_eq_none_iff] at hl
      exact absurd (hl e (List.mem_reverse.mpr he)) (by simp)
    | some d' =>
      have hd' := hload _ (hfound d' hl)
      rw [hd] at hd'
      rw [Except.ok.inj hd']

/-! ## Reading the answer off -/

/-- The documents are kept last first, so a name must have one document for it to be found. -/
theorem lookup_documents {loaded : List (String × Datum)} {m : Merged}
    (hm : m.documents = loaded.reverse)
    (hsame : ∀ e ∈ loaded, ∀ e' ∈ loaded, e.1 = e'.1 → e.2 = e'.2) :
    ∀ e ∈ loaded, m.documents.lookup e.1 = some e.2 := by
  intro e he
  have hmem : e ∈ m.documents := by rwa [hm, List.mem_reverse]
  obtain ⟨d, hd⟩ : ∃ d, m.documents.lookup e.1 = some d := by
    cases hl : m.documents.lookup e.1 with
    | some d => exact ⟨d, rfl⟩
    | none =>
      rw [List.lookup_eq_none_iff] at hl
      exact absurd (hl e hmem) (by simp)
  obtain ⟨l₁, l₂, hsplit, -⟩ := List.lookup_eq_some_iff.mp hd
  have hmem' : (e.1, d) ∈ loaded := by
    rw [← List.mem_reverse, ← hm, hsplit]
    exact List.mem_append_right _ List.mem_cons_self
  have hde : d = e.2 := hsame (e.1, d) hmem' e he rfl
  rw [hd, hde]

/-- The current context is that of the first file whose document is kept and sets one. -/
theorem currentContext_eq_elim (m : Merged) (names : List String) :
    m.currentContext names
      = (names.findSome? fun name ↦ (m.documents.lookup name).bind Datum.current?).elim (.ok "")
          Datum.display := by
  induction names with
  | nil => rfl
  | cons name rest ih =>
    rw [currentContext, List.findSome?_cons, ih]
    cases m.documents.lookup name with
    | none => rfl
    | some d =>
      rw [Option.bind_some, Option.bind_some, Datum.current?]
      cases d.lookup? "current-context" with
      | none => rfl
      | some c =>
        rw [Option.filter_some]
        cases ht : c.resolved.truthy <;> simp [ht]

/-- The current context, looked up by the names of files, is that of the first document that sets
one; files of one name must have one document. -/
theorem currentContext_eq {loaded : List (String × Datum)} {m : Merged}
    (hm : m.documents = loaded.reverse)
    (hsame : ∀ e ∈ loaded, ∀ e' ∈ loaded, e.1 = e'.1 → e.2 = e'.2) :
    m.currentContext (loaded.map Prod.fst)
      = (firstCurrent (loaded.map Prod.snd)).elim (.ok "") Datum.display := by
  have hlookup := lookup_documents hm hsame
  clear hm hsame
  rw [currentContext_eq_elim, firstCurrent, List.findSome?_map, List.findSome?_map]
  congr 1
  -- On the files that are left to ask; the configuration stays the whole one.
  induction loaded with
  | nil => rfl
  | cons e rest ih =>
    rw [List.findSome?_cons, List.findSome?_cons, Function.comp, Function.comp,
      hlookup e List.mem_cons_self, Option.bind_some,
      ih fun e' he' ↦ hlookup e' (List.mem_cons_of_mem e he')]

/-- A finished search among contexts has found the first of the name. -/
theorem findContext_eq_ok {m : Merged} {name : String} {nodes : List Node} {found r : Option Node}
    (h : m.findContext name nodes found = .ok r) :
    r = found.or (nodes.find? fun n ↦ n.datum.isNamed name) := by
  induction nodes generalizing found with
  | nil =>
    cases h
    rw [List.find?_nil, Option.or_none]
  | cons n rest ih =>
    rw [findContext] at h
    split at h
    · cases h
    · cases h
    · obtain ⟨d, hd, h⟩ := bind_eq_ok.mp h
      -- A name is looked up in every node, so a search that comes to the end has seen all of them.
      have hl := Node.lookup?_of_get hd
      rw [List.find?_cons]
      split at h
      · next ht =>
        have hn : n.datum.isNamed name = true := Datum.isNamed_eq_true.mpr
          (Datum.textName?_eq_some.mpr ⟨d, hl, Datum.isText_eq_true.mp ht⟩)
        cases found with
        | some f => cases h
        | none =>
          rw [hn, ih h]
          rfl
      · next ht =>
        have hn : n.datum.isNamed name = false := by
          rw [Bool.eq_false_iff, ne_eq, Datum.isNamed_eq_true, Datum.textName?_eq_some]
          rintro ⟨d', hl', ht'⟩
          rw [hl] at hl'
          cases hl'
          exact ht (Datum.isText_eq_true.mpr ht')
        rw [hn]
        exact ih h

/-- A search among named contexts of different names finishes. -/
theorem findContext_of_named {m : Merged} {name : String} {nodes : List Node}
    {found : Option Node} (hnamed : ∀ n ∈ nodes, n.datum.textName?.isSome = true)
    (hu : UniqueNames nodes)
    (hfound : found.isSome = true → ∀ n ∈ nodes, n.datum.textName? ≠ some name) :
    m.findContext name nodes found
      = .ok (found.or (nodes.find? fun n ↦ n.datum.isNamed name)) := by
  induction nodes generalizing found with
  | nil => rw [findContext, List.find?_nil, Option.or_none]
  | cons n rest ih =>
    obtain ⟨own, hown⟩ := Option.isSome_iff_exists.mp (hnamed n List.mem_cons_self)
    obtain ⟨d, hl, ht⟩ := Datum.textName?_eq_some.mp hown
    have hget : n.get "name" = .ok d := Node.get_of_lookup? hl (by rw [ht]; exact nofun)
    have hrest := fun k hk ↦ hnamed k (List.mem_cons_of_mem n hk)
    obtain ⟨hfirst, hu⟩ := List.pairwise_cons.mp hu
    rw [findContext, Datum.contains_of_lookup? hl, hget, List.find?_cons]
    simp only [ok_bind]
    -- A second node of the name would end the search in a fault; different names leave only one.
    by_cases hs : own = name
    · subst hs
      rw [if_pos (Datum.isText_eq_true.mpr ht), Datum.isNamed_eq_true.mpr hown]
      cases found with
      | some f => exact absurd hown (hfound rfl n List.mem_cons_self)
      | none =>
        rw [Option.isSome_none, if_neg Bool.false_ne_true,
          ih hrest hu fun _ k hk ↦ hfirst k hk own hown]
        rfl
    · have hn : n.datum.isNamed name = false := by
        rw [Bool.eq_false_iff, ne_eq, Datum.isNamed_eq_true, hown, Option.some_inj]
        exact hs
      rw [if_neg (by rw [ht, Datum.isText_eq_true, Value.text.injEq]; exact hs), hn]
      exact ih hrest hu fun hf k hk ↦ hfound hf k (List.mem_cons_of_mem n hk)

theorem isMapping_of_textName? {d : Datum} {s : String} (h : d.textName? = some s) :
    d.isMapping = true := by
  obtain ⟨n, hn, -⟩ := Datum.textName?_eq_some.mp h
  rw [Datum.lookup?] at hn
  rw [Datum.isMapping]
  cases hr : d.resolved <;> simp [hr] at hn ⊢

private theorem get?_of_isMapping {n : Node} (h : n.datum.isMapping = true) (key : String) :
    n.get? key = .ok (n.datum.lookup? key) := by
  cases hl : n.datum.lookup? key with
  | some d => exact Node.get?_eq_some.mpr hl
  | none =>
    rw [Datum.isMapping] at h
    rw [Datum.lookup?] at hl
    rw [Node.get?, Datum.contains]
    cases hr : n.datum.resolved with
    | map entries =>
      rw [hr] at hl
      simp only [Option.map_eq_none_iff.mp hl]
      rfl
    | _ => simp [hr] at h

/-- The namespace of a context that has been found: its details must be a mapping. -/
theorem namespaceOf_of_found {m : Merged} {name : String} {n : Node}
    (h : m.contextNamed? name = .ok (some n)) (hn : n.datum.isMapping = true) :
    m.namespaceOf name =
      match n.datum.details? with
      | none => .ok ""
      | some c =>
        if c.isMapping then n.datum.contextNamespace
        else .error (.badContext name c.resolved.kindName) := by
  rw [namespaceOf, h, ok_bind]
  simp only
  rw [get?_of_isMapping hn, Datum.contextNamespace, Datum.details?]
  cases n.datum.lookup? "context" with
  | none => rfl
  | some c =>
    rw [Option.filter_some]
    cases ht : c.resolved.truthy with
    | false => simp [ht, pure, Except.pure]
    | true =>
      simp only [ht, Datum.isMapping, Bool.not_true, Bool.false_eq_true, if_false, if_true,
        Option.bind_some]
      cases hr : c.resolved <;> simp

theorem find?_dataOf (nodes : List Node) (name : String) :
    (dataOf nodes).find? (Datum.isNamed name)
      = (nodes.find? fun n ↦ n.datum.isNamed name).map Node.datum := by
  rw [dataOf, List.find?_map]
  rfl

/-- A namespace that merging arrives at is that of the first context of the name. -/
theorem namespaceOf_merges {loaded : List (String × Datum)} {m : Merged} (hm : Merges loaded m)
    {name ns : String} (h : m.namespaceOf name = .ok ns) :
    ∃ e, (entriesOf (loaded.map Prod.snd) .contexts).find? (Datum.isNamed name) = some e ∧
      e.contextNamespace = .ok ns := by
  obtain ⟨r, hr, hrest⟩ := bind_eq_ok.mp h
  have hfind := findContext_eq_ok hr
  rw [Option.none_or] at hfind
  cases r with
  | none => cases hrest
  | some n =>
    have hnamed := List.find?_some hfind.symm
    have hmap := isMapping_of_textName? (Datum.isNamed_eq_true.mp hnamed)
    refine ⟨n.datum, ?_, ?_⟩
    · rw [← hm.contexts, find?_dataOf, ← hfind]
      rfl
    · rw [namespaceOf_of_found hr hmap] at h
      split at h
      · next hd =>
        cases h
        rw [Datum.contextNamespace, hd]
        rfl
      · split at h
        · exact h
        · cases h

end Merged

end GatewayPrint.Kubeconfig
