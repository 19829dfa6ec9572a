import GatewayPrint.Proofs.Kubeconfig.Alike
import GatewayPrint.Proofs.Kubeconfig.Resolution
import GatewayPrint.Proofs.Paths

/-!
# One file on several routes

A file can be named explicitly, listed in the environment, or be the one below the home directory.
The route does not matter (`lookUp_fromHome`, `lookUp_listing`).

The name of the file does not matter either while it is stable: two names of one content have the
same outcome (`alike_answerOf`). A name that is not stable is opened as something else, and what the
file itself says is lost without an error: the namespace is empty, whatever the file says
(`eq_empty_of_not_stable`).
-/

namespace GatewayPrint

open Outcome

/-! ## Environments -/

theorem Environment.lookup_filter_of_ne {name other : String} (h : other ≠ name)
    (env : Environment) :
    (env.filter fun e ↦ e.1 != name).lookup other = env.lookup other := by
  induction env with
  | nil => rfl
  | cons e rest ih =>
    obtain ⟨key, value⟩ := e
    rw [List.filter_cons]
    by_cases hk : key = name
    · subst hk
      have hne : (other == key) = false := beq_eq_false_iff_ne.mpr h
      rw [if_neg (by simp), ih, List.lookup_cons, hne]
    · rw [if_pos (by simpa using hk), List.lookup_cons, List.lookup_cons, ih]

theorem Environment.get_set_of_ne {name other : String} (h : other ≠ name) (env : Environment)
    (value : Option String) : (env.set name value).get other = env.get other := by
  have hfilter := lookup_filter_of_ne h env
  cases value with
  | none => exact congrArg (Option.getD · "") hfilter
  | some v =>
    rw [get, get, set, List.lookup_cons, beq_eq_false_iff_ne.mpr h, hfilter]

theorem Environment.get_set_self (env : Environment) (name v : String) :
    (env.set name (some v)).get name = v := by
  rw [get, set]
  simp

theorem Environment.get_set_none (env : Environment) (name : String) :
    (env.set name none).get name = "" := by
  have hnone : (env.filter fun e ↦ e.1 != name).lookup name = none := by
    rw [List.lookup_eq_none_iff]
    intro e he
    have hne : e.1 ≠ name := by simpa using (List.mem_filter.mp he).2
    exact bne_iff_ne.mpr (Ne.symm hne)
  rw [get, set, hnone, Option.getD_none]

namespace Kubeconfig

namespace Source

/-! ## Routes -/

/-- The file is named explicitly. -/
def explicitly (s : Source) (p : Path) : Source := { s with explicitPath := some p }

/-- The file is the one below the home directory, and the environment lists none. -/
def fromHome (s : Source) (p : Path) : Source :=
  { s with explicitPath := none, env := s.env.set "KUBECONFIG" none, homeFile := p }

/-- The environment lists a text. -/
def listing (s : Source) (t : String) : Source :=
  { s with explicitPath := none, env := s.env.set "KUBECONFIG" (some t) }

/-- What one file that is found leads to. -/
def answerOf (s : Source) (p : Path) : Except Fault String := do
  let d ← Merged.load s.files p.text
  if d.isNull then s.podNamespace.mapError afterReading else s.namespaceIn [p.text]

theorem lookUp_of_paths {s : Source} {p : Path} (h : s.paths = .ok [p]) :
    s.lookUp = s.answerOf p := by
  rw [lookUp_eq, h, ok_bind, if_neg (by simp), answerOf, namedDocuments, namedDocuments]
  cases Merged.load s.files p.text with
  | error f => rfl
  | ok d =>
    simp only [ok_bind]
    cases d.isNull with
    | true => rfl
    | false => rfl

theorem podNamespace_set (s : Source) (value : Option String) (p : Option Path) (q : Path) :
    ({ s with explicitPath := p, env := s.env.set "KUBECONFIG" value, homeFile := q } :
      Source).podNamespace = s.podNamespace := by
  rw [podNamespace, podNamespace, inCluster, inCluster,
    Environment.get_set_of_ne (by decide), Environment.get_set_of_ne (by decide),
    Environment.get_set_of_ne (by decide)]
  rfl

theorem answerOf_set (s : Source) (value : Option String) (p : Option Path) (q r : Path) :
    ({ s with explicitPath := p, env := s.env.set "KUBECONFIG" value, homeFile := q } :
      Source).answerOf r = s.answerOf r := by
  rw [answerOf, answerOf, podNamespace_set]
  rfl

section Routes

variable {s : Source} {p P : Path} {content : List UInt8}

theorem lookUp_explicitly (hp : s.expand p = .ok P) (hP : s.files.find P.text = .file content) :
    (s.explicitly p).lookUp = s.answerOf P := by
  refine lookUp_of_paths (s := s.explicitly p) ?_
  have hfile : (s.explicitly p).isFile P = .ok true := by
    rw [isFile, explicitly, hP]
  rw [paths]
  change s.expand p >>= _ = _
  rw [hp, ok_bind, hfile]
  rfl

/-- The file below the home directory is read as if it were named explicitly. -/
theorem lookUp_fromHome (hp : s.expand p = .ok P) (hP : s.files.find P.text = .file content) :
    (s.fromHome p).lookUp = s.answerOf P := by
  have hexists : (s.fromHome p).exists? P = .ok true := by
    rw [exists?, fromHome, hP]
  have hpaths : (s.fromHome p).paths = .ok [P] := by
    rw [paths]
    simp only [fromHome, Environment.get_set_none]
    change s.expand p >>= _ = _
    rw [hp, ok_bind]
    change (s.fromHome p).exists? P >>= _ = _
    rw [hexists]
    rfl
  rw [lookUp_of_paths hpaths]
  exact answerOf_set s none none p P

/-- The only file that the environment lists is read as if it were named explicitly. -/
theorem lookUp_listing {t : String} (ht : t ≠ "") (hcolon : ':' ∉ t.toList)
    (hp : s.expand (.ofText t) = .ok P) (hP : s.files.find P.text = .file content) :
    (s.listing t).lookUp = s.answerOf P := by
  have hnames : Merged.namesIn t = [t] := by
    have h : Merged.namesIn (":".intercalate [t]) = [t] :=
      Merged.namesIn_intercalate (by simpa using hcolon) (by simpa using ht)
    rwa [String.intercalate_singleton] at h
  have hexists : (s.listing t).exists? P = .ok true := by
    rw [exists?, listing, hP]
  have hlisted : (s.listing t).listed [t] [] = .ok [P] := by
    rw [listed]
    change s.expand (.ofText t) >>= _ = _
    rw [hp, ok_bind, hexists]
    rfl
  have hpaths : (s.listing t).paths = .ok [P] := by
    rw [paths]
    simp only [listing, Environment.get_set_self]
    rw [if_pos (by simpa using ht), hnames]
    exact hlisted
  rw [lookUp_of_paths hpaths]
  exact answerOf_set s (some t) none s.homeFile P

end Routes

/-! ## Stable names -/

theorem load_of_find {t : FileTree} {name : String} {content : List UInt8}
    (h : t.find name = .file content) :
    Merged.load t name = ((Yaml.load content t.room).map fun d ↦
      (⟨d.root, d.cells⟩ : Datum)).mapError (Fault.yaml name) := by
  rw [Merged.load, h]
  simp only
  cases Yaml.load content t.room with
  | error f => rfl
  | ok d => rfl

/-- One document that is not null, under a stable name. -/
theorem namespaceIn_singleton {s : Source} {name : String} {d : Datum}
    (hload : Merged.load s.files name = .ok d) (hstable : s.Stable name) :
    s.namespaceIn [name] = (do
      let m ← Merged.addDocument name d none
      match firstCurrent [d] with
      | some c => do
        let current ← c.display
        m.namespaceOf current
      | none => return "") := by
  have h := @namespaceIn_eq s [(name, d)]
    (fun e he ↦ by rw [List.mem_singleton.mp he]; exact hload)
    (fun e he ↦ by rw [List.mem_singleton.mp he]; exact hstable)
  rw [List.map_cons, List.map_nil] at h
  rw [h, Merged.addDocuments]
  cases Merged.addDocument name d none with
  | error f => rfl
  | ok m =>
    rw [ok_bind, ok_bind, Merged.addDocuments, ok_bind, List.map_cons, List.map_nil]
    cases firstCurrent [d] <;> rfl

/-- **Names.** Two names of one content lead to the same answer or to faults of the same classes. -/
theorem alike_answerOf {s : Source} {P Q : Path} {content : List UInt8}
    (hP : s.files.find P.text = .file content) (hQ : s.files.find Q.text = .file content)
    (hstable : ∀ d, Merged.load s.files P.text = .ok d → d.isNull = false →
      s.Stable P.text ∧ s.Stable Q.text) :
    Alike Eq (s.answerOf P) (s.answerOf Q) := by
  have hloadP := load_of_find hP
  have hloadQ := load_of_find hQ
  rw [answerOf, answerOf]
  cases hy : Yaml.load content s.files.room with
  | error f =>
    rw [hloadP, hloadQ, hy]
    exact .error (Fault.classes_yaml _ _ f)
  | ok document =>
    rw [hy, map_ok, mapError_ok] at hloadP hloadQ
    rw [hloadP, hloadQ, ok_bind, ok_bind]
    -- A null document gives the same answer under both names; any other is merged from nothing.
    split
    · exact .refl _
    · next hnull =>
      obtain ⟨hstableP, hstableQ⟩ := hstable _ hloadP (Bool.eq_false_iff.mpr hnull)
      rw [namespaceIn_singleton hloadP hstableP, namespaceIn_singleton hloadQ hstableQ]
      refine (Merged.alike_addDocument _).bind fun m m' hm ↦ ?_
      split
      · exact (Alike.refl _).bind fun current current' hc ↦ by
          rw [hc]
          exact Merged.alike_namespaceOf hm.1 current'
      · exact .ok rfl

/-! ## Other names -/

/-- A name that is not stable is opened under other names only. -/
theorem not_mem_rereads {s : Source} (hhome : ':' ∉ s.home.toList) {name : String}
    (h : ¬s.Stable name) : name ∉ s.rereads [name] := by
  intro hmem
  obtain ⟨hmem, -⟩ := List.mem_filter.mp hmem
  obtain ⟨piece, hpiece, hname⟩ := List.mem_map.mp hmem
  rw [String.intercalate_singleton, Merged.namesIn] at hpiece
  obtain ⟨cs, hcs, rfl⟩ := List.mem_map.mp hpiece
  obtain ⟨hcs, -⟩ := List.mem_filter.mp hcs
  have hcolon : ':' ∉ name.toList := by
    rw [← hname]
    refine Path.noColon_expandText hhome ?_
    rw [String.toList_ofList]
    exact Text.not_mem_of_mem_splitOn hcs
  rw [Text.splitOn_of_not_mem hcolon, List.mem_singleton] at hcs
  rw [hcs, String.ofList_toList] at hname
  exact h ⟨hcolon, hname⟩

/-- **Lost.** Under a name that is not stable a file never gives a namespace. -/
theorem eq_empty_of_not_stable {s : Source} (hhome : ':' ∉ s.home.toList) {name : String}
    (h : ¬s.Stable name) {n : String} (hn : s.namespaceIn [name] = .ok n) : n = "" := by
  rw [namespaceIn, ofFiles_eq_addFiles] at hn
  obtain ⟨merged, hm, hn⟩ := bind_eq_ok.mp hn
  cases merged with
  | none => exact (Except.ok.inj hn).symm
  | some m =>
    have hlookup : m.documents.lookup name = none := by
      rw [Option.eq_none_iff_forall_ne_some]
      intro d hd
      exact not_mem_rereads hhome h ((Merged.lookup_documents_eq_some hm).mp hd).1
    simp only at hn
    rw [Merged.currentContext, hlookup] at hn
    exact (Except.ok.inj hn).symm

/-- **One file.** The route to it does not matter. Its name does not matter while it is stable;
under another name the namespace that the file gives is lost. -/
theorem activeNamespace_sameFile (s : Source) {p P : Path} {content : List UInt8}
    (hp : s.expand p = .ok P) (hP : s.files.find P.text = .file content) :
    (s.fromHome p).activeNamespace.result = (s.explicitly p).activeNamespace.result ∧
    (∀ t, t ≠ "" → ':' ∉ t.toList → p = .ofText t →
      (s.listing t).activeNamespace.result = (s.explicitly p).activeNamespace.result) ∧
    (∀ q Q, s.expand q = .ok Q → s.files.find Q.text = .file content →
      (∀ d, Merged.load s.files P.text = .ok d → d.isNull = false →
        s.Stable P.text ∧ s.Stable Q.text) →
      SameOutcome (s.explicitly p).activeNamespace.result
        (s.explicitly q).activeNamespace.result) ∧
    (∀ d n, Merged.load s.files P.text = .ok d → d.isNull = false →
      (s.explicitly p).activeNamespace.result = .ok n →
      (s.Stable P.text → firstFileNamespace [d] = .ok n) ∧
      (¬s.Stable P.text → ':' ∉ s.home.toList → n = "")) := by
  refine ⟨?_, fun t ht hcolon htext ↦ ?_, fun q Q hq hQ hstable ↦ ?_, fun d n hd hnull hn ↦ ?_⟩
  · rw [result_activeNamespace, result_activeNamespace, lookUp_fromHome hp hP,
      lookUp_explicitly hp hP]
  · rw [htext] at hp ⊢
    rw [result_activeNamespace, result_activeNamespace, lookUp_listing ht hcolon hp hP,
      lookUp_explicitly hp hP]
  · rw [result_activeNamespace, result_activeNamespace, lookUp_explicitly hp hP,
      lookUp_explicitly hq hQ]
    exact sameOutcome_of_alike (alike_answerOf hP hQ hstable)
  · rw [result_activeNamespace, lookUp_explicitly hp hP, mapError_eq_ok, answerOf, hd, ok_bind,
      hnull, if_neg Bool.false_ne_true] at hn
    refine ⟨fun hstable ↦ ?_, fun hstable hhome ↦ eq_empty_of_not_stable hhome hstable hn⟩
    exact (@firstFileNamespace_of_namespaceIn s [(P.text, d)]
      (fun e he ↦ by rw [List.mem_singleton.mp he]; exact hd)
      (fun e he ↦ by rw [List.mem_singleton.mp he]; exact hstable) (List.cons_ne_nil _ _) n hn).2

/-- Two files of one content. -/
def twins : Source where
  explicitPath := none
  env := []
  home := "/root"
  homeFile := .ofText defaultHomeFile
  account := .ofText defaultAccount
  files := { entries := [(["a"], .file teamFile), (["b"], .file teamFile)] }

theorem activeNamespace_sameFile_twins :
    twins.expand ⟨"", ["a"]⟩ = .ok ⟨"", ["a"]⟩ ∧ twins.files.find "a" = .file teamFile ∧
      SameOutcome (twins.explicitly ⟨"", ["a"]⟩).activeNamespace.result
        (twins.explicitly ⟨"", ["b"]⟩).activeNamespace.result ∧
      (twins.explicitly ⟨"", ["a"]⟩).activeNamespace.result = .ok "team-a" := by
  have ha : twins.expand ⟨"", ["a"]⟩ = .ok ⟨"", ["a"]⟩ := by rfl
  have hb : twins.expand ⟨"", ["b"]⟩ = .ok ⟨"", ["b"]⟩ := by rfl
  have hA : twins.files.find (Path.text ⟨"", ["a"]⟩) = .file teamFile := by decide +kernel
  have hB : twins.files.find (Path.text ⟨"", ["b"]⟩) = .file teamFile := by decide +kernel
  refine ⟨ha, hA, (activeNamespace_sameFile twins ha hA).2.2.1 _ _ hb hB fun d _ _ ↦ ?_,
    eq_ok_of_toOption (by decide +kernel)⟩
  decide

end Source

end Kubeconfig

end GatewayPrint
