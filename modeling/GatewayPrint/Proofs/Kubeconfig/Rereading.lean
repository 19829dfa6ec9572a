import GatewayPrint.Proofs.Kubeconfig.FirstFile
import GatewayPrint.Proofs.Kubeconfig.LookUp
import GatewayPrint.Proofs.Pieces

/-!
# Files that are named twice

The files that count are found once, when paths are looked for, and once more, when their names have
been joined by colons, cut apart again and searched for tildes (`Source.rereads`). A name that holds
no colon and no tilde to expand comes through that unchanged (`Source.Stable`, `rereads_of_stable`).

For stable names the look-up is a matter of documents alone: those of the files that are found, null
ones left out, merged in order (`namespaceIn_of_stable`).
-/

namespace GatewayPrint

open Outcome

namespace Kubeconfig

/-- Names without colons are what is between the colons of their join. -/
theorem Merged.namesIn_intercalate {names : List String} (h : ∀ n ∈ names, ':' ∉ n.toList)
    (hne : ∀ n ∈ names, n ≠ "") : namesIn (":".intercalate names) = names := by
  rw [namesIn, String.toList_intercalate]
  cases names with
  | nil => rfl
  | cons n rest =>
    have hsplit : Text.splitOn ':' (":".toList.intercalate ((n :: rest).map String.toList))
        = (n :: rest).map String.toList :=
      Text.splitOn_intercalate (List.cons_ne_nil _ _) fun p hp ↦ by
        obtain ⟨m, hm, rfl⟩ := List.mem_map.mp hp
        exact h m hm
    have hkeep : ((n :: rest).map String.toList).filter (fun p ↦ !p.isEmpty)
        = (n :: rest).map String.toList := by
      rw [List.filter_eq_self]
      intro p hp
      obtain ⟨m, hm, rfl⟩ := List.mem_map.mp hp
      rw [Bool.not_eq_true', List.isEmpty_eq_false_iff, ne_eq, String.toList_eq_nil_iff]
      exact hne m hm
    rw [hsplit, hkeep, List.map_map]
    exact (List.map_congr_left fun m _ ↦ String.ofList_toList).trans (List.map_id _)

namespace Source

/-! ## Names that are read as they are -/

/-- The names under which files are opened after they have been found under some names. -/
def rereads (s : Source) (names : List String) : List String :=
  ((Merged.namesIn (":".intercalate names)).map (Path.expandText s.accounts s.home)).filter
    s.files.holds

/-- A name that is opened as it is found. -/
structure Stable (s : Source) (name : String) : Prop where
  noColon : ':' ∉ name.toList
  noTilde : Path.expandText s.accounts s.home name = name

instance (s : Source) (name : String) : Decidable (s.Stable name) :=
  decidable_of_iff (':' ∉ name.toList ∧ Path.expandText s.accounts s.home name = name)
    ⟨fun h ↦ ⟨h.1, h.2⟩, fun h ↦ ⟨h.noColon, h.noTilde⟩⟩

theorem ofFiles_eq_addFiles (s : Source) (names : List String) :
    Merged.ofFiles s.files s.accounts s.home (":".intercalate names)
      = Merged.addFiles s.files (s.rereads names) none := rfl

theorem ne_empty_of_holds {t : FileTree} {name : String} (h : t.holds name = true) :
    name ≠ "" := by
  rintro rfl
  exact absurd h (by simp [FileTree.holds, FileTree.find])

private theorem holds_of_load {t : FileTree} {name : String} {d : Datum}
    (h : Merged.load t name = .ok d) : t.holds name = true := by
  rw [Merged.load] at h
  rw [FileTree.holds]
  cases hf : t.find name <;> simp [hf] at h ⊢

theorem rereads_of_stable {s : Source} {names : List String} (h : ∀ n ∈ names, s.Stable n)
    (hholds : ∀ n ∈ names, s.files.holds n = true) : s.rereads names = names := by
  have hmap : names.map (Path.expandText s.accounts s.home) = names := by
    conv_rhs => rw [← List.map_id names]
    exact List.map_congr_left fun n hn ↦ (h n hn).noTilde
  rw [rereads, Merged.namesIn_intercalate (fun n hn ↦ (h n hn).noColon)
    (fun n hn ↦ ne_empty_of_holds (hholds n hn)), hmap, List.filter_eq_self]
  exact hholds

/-! ## Documents -/

end Source

/-- A document that says nothing. -/
def Datum.isNull (d : Datum) : Bool :=
  match d.resolved with
  | .null => true
  | _ => false

namespace Source

/-- The documents of some files that are not null, each with the name of its file. -/
def namedDocuments (s : Source) : List Path → Except Fault (List (String × Datum))
  | [] => .ok []
  | p :: rest => do
    let d ← Merged.load s.files p.text
    let others ← s.namedDocuments rest
    return if d.isNull then others else (p.text, d) :: others

/-- The documents of some files that are not null, in order. -/
def documents (s : Source) (paths : List Path) : Except Fault (List Datum) :=
  (s.namedDocuments paths).map fun loaded ↦ loaded.map Prod.snd

/-- A file without content holds the null document. -/
theorem load_nil (room : Option Nat) : Yaml.load [] room = .ok ⟨.null, []⟩ := by
  cases room <;> rfl

theorem isBlank_eq (s : Source) (p : Path) :
    s.isBlank p = (Merged.load s.files p.text).map Datum.isNull := by
  rw [isBlank]
  split
  · next hf =>
    rw [Merged.load, hf]
    simp only [load_nil]
    rfl
  · rfl

/-- The files that say something are those of the documents that are not null. -/
theorem written_eq (s : Source) (paths : List Path) :
    (s.written paths).map (fun ps ↦ ps.map Path.text)
      = (s.namedDocuments paths).map fun loaded ↦ loaded.map Prod.fst := by
  induction paths with
  | nil => rfl
  | cons p rest ih =>
    rw [written, namedDocuments, isBlank_eq]
    cases Merged.load s.files p.text with
    | error f => rfl
    | ok d =>
      rw [map_ok, ok_bind, ok_bind]
      cases hw : s.written rest with
      | error f =>
        rw [hw, map_error] at ih
        rw [(map_eq_error.mp ih.symm), error_bind, error_bind, map_error, map_error]
      | ok ws =>
        rw [hw, map_ok] at ih
        obtain ⟨loaded, hl, heq⟩ := map_eq_ok.mp ih.symm
        rw [hl, ok_bind, ok_bind]
        change Except.ok _ = Except.ok _
        cases d.isNull with
        | true => exact congrArg Except.ok heq.symm
        | false => exact congrArg Except.ok (congrArg (List.cons p.text) heq.symm)

theorem lookUp_eq (s : Source) :
    s.lookUp = (do
      let paths ← s.paths
      if paths.isEmpty then s.podNamespace
      else
        let loaded ← s.namedDocuments paths
        if loaded.isEmpty then s.podNamespace.mapError afterReading
        else s.namespaceIn (loaded.map Prod.fst)) := by
  rw [lookUp]
  congr 1
  funext paths
  have h := s.written_eq paths
  cases hw : s.written paths with
  | error f =>
    rw [hw, map_error] at h
    rw [map_eq_error.mp h.symm, error_bind, error_bind]
  | ok ws =>
    rw [hw, map_ok] at h
    obtain ⟨loaded, hl, heq⟩ := map_eq_ok.mp h.symm
    have hempty : ws.isEmpty = loaded.isEmpty := by
      rw [← List.isEmpty_map (f := Path.text), ← heq, List.isEmpty_map]
    rw [hl, ok_bind, ok_bind, hempty, ← heq]

theorem load_of_mem_namedDocuments {s : Source} {paths : List Path}
    {loaded : List (String × Datum)} (h : s.namedDocuments paths = .ok loaded) :
    ∀ e ∈ loaded, Merged.load s.files e.1 = .ok e.2 ∧ e.2.isNull = false ∧
      ∃ p ∈ paths, p.text = e.1 := by
  induction paths generalizing loaded with
  | nil =>
    cases h
    exact fun e he ↦ absurd he List.not_mem_nil
  | cons p rest ih =>
    obtain ⟨d, hd, h⟩ := bind_eq_ok.mp h
    obtain ⟨others, ho, h⟩ := bind_eq_ok.mp h
    intro e he
    cases h
    have hothers : e ∈ others → Merged.load s.files e.1 = .ok e.2 ∧ e.2.isNull = false ∧
        ∃ q ∈ p :: rest, q.text = e.1 := by
      intro he
      obtain ⟨h₁, h₂, q, hq, hqe⟩ := ih ho e he
      exact ⟨h₁, h₂, q, List.mem_cons_of_mem p hq, hqe⟩
    split at he
    · exact hothers he
    · next hnull =>
      rcases List.mem_cons.mp he with rfl | he
      · exact ⟨hd, Bool.eq_false_iff.mpr hnull, p, List.mem_cons_self, rfl⟩
      · exact hothers he

/-- The documents of files that are opened as they are found are merged in order. -/
theorem namespaceIn_of_stable {s : Source} {loaded : List (String × Datum)}
    (hload : ∀ e ∈ loaded, Merged.load s.files e.1 = .ok e.2)
    (hstable : ∀ e ∈ loaded, s.Stable e.1) :
    s.namespaceIn (loaded.map Prod.fst) = (do
      let merged ← Merged.addDocuments loaded none
      match merged with
      | none => return ""
      | some m =>
        let current ← m.currentContext (loaded.map Prod.fst)
        if current.isEmpty then return "" else m.namespaceOf current) := by
  have hre : s.rereads (loaded.map Prod.fst) = loaded.map Prod.fst := by
    refine rereads_of_stable (fun n hn ↦ ?_) (fun n hn ↦ ?_)
    · obtain ⟨e, he, rfl⟩ := List.mem_map.mp hn
      exact hstable e he
    · obtain ⟨e, he, rfl⟩ := List.mem_map.mp hn
      exact holds_of_load (hload e he)
  have hadd := Merged.addFiles_eq_addDocuments hload none
  rw [namespaceIn, ofFiles_eq_addFiles, hre]
  refine (congrArg (· >>= _) hadd).trans (bind_congr fun merged ↦ ?_)
  cases merged <;> rfl

end Source

/-! ## A file in use -/

def bytesOf (s : String) : List UInt8 := s.toList.map fun c ↦ UInt8.ofNat c.toNat

/-- A file whose current context has a namespace. -/
def teamFile : List UInt8 :=
  bytesOf ("\x7bcurrent-context: d, "
    ++ "contexts: [\x7bname: d, context: \x7bnamespace: team-a\x7d\x7d]\x7d")

end Kubeconfig

end GatewayPrint
