import GatewayPrint.Proofs.Kubeconfig.Rereading
import GatewayPrint.Proofs.Kubeconfig.WellShaped
import GatewayPrint.Proofs.Yaml.Plain

/-!
# The namespace of the first file

The look-up over files whose names are stable, said by its documents alone. Whatever the documents
are, an answer is the one that the first file gives (`firstFileNamespace`); for well-shaped
documents that answer is given, unless an entry that merging keeps has no words.

A current context that counts as present never has an empty name, since documents hold plain data
only (`name_ne_empty_of_firstCurrent`). So the empty answer of a configuration without a current
context is not mistaken for that of another one.
-/

namespace GatewayPrint.Kubeconfig

open Outcome

private theorem plain_of_merged_load {t : FileTree} {name : String} {d : Datum}
    (h : Merged.load t name = .ok d) : d.value.Plain ∧ Value.Cells.Plain d.cells := by
  rw [Merged.load] at h
  split at h
  · split at h
    · next hl =>
      cases h
      exact Yaml.plain_of_load hl
    · cases h
  · cases h
  · cases h

private theorem name_ne_empty_of_firstCurrent {docs : List Datum}
    (hplain : ∀ d ∈ docs, d.value.Plain ∧ Value.Cells.Plain d.cells) {c : Datum}
    (hc : firstCurrent docs = some c) {name : String} (hname : c.display = .ok name) :
    name ≠ "" := by
  obtain ⟨l₁, d, l₂, hsplit, hd, -⟩ := List.findSome?_eq_some_iff.mp hc
  obtain ⟨hvalue, hcells⟩ := hplain d (by rw [hsplit]; simp)
  rw [Datum.current?, Option.filter_eq_some_iff] at hd
  obtain ⟨hlookup, htruthy⟩ := hd
  have hc' : c.value.Plain ∧ c.cells = d.cells := by
    have hresolved := Value.plain_resolve hcells hvalue
    rw [Datum.lookup?] at hlookup
    split at hlookup
    · next entries hr =>
      obtain ⟨v, hv, rfl⟩ := Option.map_eq_some_iff.mp hlookup
      rw [Datum.resolved] at hr
      rw [hr] at hresolved
      cases hresolved with
      | map hk hvs => exact ⟨Value.plain_of_lookup (fun e he ↦ ⟨hk e he, hvs e he⟩) hv, rfl⟩
    · cases hlookup
  -- What counts as present is no empty text, and other plain data has some text to be shown as.
  rw [Datum.display] at hname
  split at hname
  · next text htext =>
    cases hname
    rw [Value.display?] at htext
    split at htext
    · cases htext
    · cases htext
      rw [Datum.resolved] at htruthy
      exact Value.display_ne_empty (hc'.2 ▸ hcells) hc'.1 htruthy
  · cases hname

namespace Source

/-- The look-up in documents that are there: merged, then asked for the first current context. -/
theorem namespaceIn_eq {s : Source} {loaded : List (String × Datum)}
    (hload : ∀ e ∈ loaded, Merged.load s.files e.1 = .ok e.2)
    (hstable : ∀ e ∈ loaded, s.Stable e.1) :
    s.namespaceIn (loaded.map Prod.fst) = (do
      let merged ← Merged.addDocuments loaded none
      match merged, firstCurrent (loaded.map Prod.snd) with
      | some m, some c => do
        let name ← c.display
        m.namespaceOf name
      | _, _ => return "") := by
  rw [namespaceIn_of_stable hload hstable]
  cases hm : Merged.addDocuments loaded none with
  | error f => rfl
  | ok merged =>
    cases merged with
    | none => rfl
    | some m =>
      -- Documents are found by the names of their files again, and a name has one document.
      have hsame : ∀ e ∈ loaded, ∀ e' ∈ loaded, e.1 = e'.1 → e.2 = e'.2 := by
        intro e he e' he' heq
        have h := hload e he
        rw [heq, hload e' he'] at h
        exact (Except.ok.inj h).symm
      rw [ok_bind, ok_bind]
      simp only
      rw [Merged.currentContext_eq (Merged.merges_of_addDocuments hm).documents hsame]
      cases hc : firstCurrent (loaded.map Prod.snd) with
      | none => rfl
      | some c =>
        rw [Option.elim_some]
        simp only
        cases hd : c.display with
        | error f => rfl
        | ok name =>
          have hplain : ∀ d ∈ loaded.map Prod.snd, d.value.Plain ∧ Value.Cells.Plain d.cells := by
            intro d hd
            obtain ⟨e, he, rfl⟩ := List.mem_map.mp hd
            exact plain_of_merged_load (hload e he)
          have hname := name_ne_empty_of_firstCurrent hplain hc hd
          rw [ok_bind, ok_bind, if_neg (by rwa [String.isEmpty_iff])]

/-- Whatever the documents are, an answer is that of the first file. -/
theorem firstFileNamespace_of_namespaceIn {s : Source} {loaded : List (String × Datum)}
    (hload : ∀ e ∈ loaded, Merged.load s.files e.1 = .ok e.2)
    (hstable : ∀ e ∈ loaded, s.Stable e.1) (hne : loaded ≠ []) {n : String}
    (h : s.namespaceIn (loaded.map Prod.fst) = .ok n) :
    (∀ d ∈ loaded.map Prod.snd, d.isMapping = true) ∧
      firstFileNamespace (loaded.map Prod.snd) = .ok n := by
  rw [namespaceIn_eq hload hstable] at h
  obtain ⟨merged, hm, h⟩ := bind_eq_ok.mp h
  obtain ⟨m, rfl⟩ := Merged.exists_of_addDocuments hne hm
  have hmerges := Merged.merges_of_addDocuments hm
  refine ⟨fun d hd ↦ ?_, ?_⟩
  · obtain ⟨e, he, rfl⟩ := List.mem_map.mp hd
    exact hmerges.mappings e he
  · rw [firstFileNamespace]
    cases hc : firstCurrent (loaded.map Prod.snd) with
    | none =>
      rw [hc] at h
      exact h
    | some c =>
      rw [hc] at h
      obtain ⟨name, hname, h⟩ := bind_eq_ok.mp h
      obtain ⟨e, he, hns⟩ := Merged.namespaceOf_merges hmerges h
      simp only
      rw [hname, ok_bind, he]
      exact hns

/-- For well-shaped documents the answer of the first file is given, unless an entry that is kept
has no words. -/
theorem namespaceIn_of_wellShaped {s : Source} {loaded : List (String × Datum)}
    (hload : ∀ e ∈ loaded, Merged.load s.files e.1 = .ok e.2)
    (hstable : ∀ e ∈ loaded, s.Stable e.1) (hne : loaded ≠ [])
    (hwell : ∀ e ∈ loaded, e.2.WellShaped) :
    (AllKeptShown (loaded.map Prod.snd) →
      s.namespaceIn (loaded.map Prod.fst) = firstFileNamespace (loaded.map Prod.snd)) ∧
    (¬AllKeptShown (loaded.map Prod.snd) →
      s.namespaceIn (loaded.map Prod.fst) = .error .digits) := by
  have hbefore : Merged.KeepsBefore [] none := fun _ ↦ rfl
  have hmerge := Merged.addDocuments_of_wellShaped hwell hbefore
  rw [List.nil_append] at hmerge
  rw [namespaceIn_eq hload hstable]
  constructor
  · intro hall
    obtain ⟨merged, hm, hkeep⟩ := hmerge.ok hall
    obtain ⟨m, rfl⟩ := Merged.exists_of_addDocuments hne hm
    rw [hm, ok_bind, firstFileNamespace]
    cases firstCurrent (loaded.map Prod.snd) with
    | none => rfl
    | some c =>
      simp only
      refine bind_congr fun name ↦ ?_
      exact Merged.namespaceOf_of_wellShaped hwell (Merged.merges_of_addDocuments hm) hkeep name
  · intro hnot
    rw [hmerge.error hnot, error_bind]

/-- **First file wins.** -/
theorem activeNamespace_firstFile (s : Source) {paths : List Path} (hpaths : s.paths = .ok paths)
    (hstable : ∀ p ∈ paths, s.Stable p.text) :
    (∀ n, s.activeNamespace.result = .ok n →
      ∃ docs, s.documents paths = .ok docs ∧
        (docs ≠ [] → (∀ d ∈ docs, d.isMapping = true) ∧ firstFileNamespace docs = .ok n)) ∧
    (∀ docs, s.documents paths = .ok docs → docs ≠ [] → (∀ d ∈ docs, d.WellShaped) →
      (AllKeptShown docs →
        s.activeNamespace.result = (firstFileNamespace docs).mapError Fault.failure) ∧
      (¬AllKeptShown docs → s.activeNamespace.result = .error Fault.digits.failure)) := by
  have hnames : ∀ loaded, s.namedDocuments paths = .ok loaded →
      (∀ e ∈ loaded, Merged.load s.files e.1 = .ok e.2) ∧ ∀ e ∈ loaded, s.Stable e.1 := by
    intro loaded hl
    refine ⟨fun e he ↦ (load_of_mem_namedDocuments hl e he).1, fun e he ↦ ?_⟩
    obtain ⟨-, -, p, hp, hpe⟩ := load_of_mem_namedDocuments hl e he
    exact hpe ▸ hstable p hp
  rw [result_activeNamespace]
  constructor
  · intro n hn
    have hn := mapError_eq_ok.mp hn
    rw [lookUp_eq, hpaths, ok_bind] at hn
    split at hn
    · next hempty =>
      rw [List.isEmpty_iff.mp hempty]
      exact ⟨[], rfl, fun h ↦ absurd rfl h⟩
    · obtain ⟨loaded, hl, hn⟩ := bind_eq_ok.mp hn
      refine ⟨loaded.map Prod.snd, by rw [documents, hl, map_ok], fun hne ↦ ?_⟩
      have hne' : loaded ≠ [] := fun h ↦ hne (by rw [h, List.map_nil])
      rw [if_neg (by rwa [List.isEmpty_iff])] at hn
      exact firstFileNamespace_of_namespaceIn (hnames loaded hl).1 (hnames loaded hl).2 hne' hn
  · intro docs hdocs hne hwell
    obtain ⟨loaded, hl, rfl⟩ := map_eq_ok.mp hdocs
    have hne' : loaded ≠ [] := fun h ↦ hne (by rw [h, List.map_nil])
    have hpaths_ne : paths ≠ [] := by
      rintro rfl
      cases hl
      exact hne' rfl
    have hwell' : ∀ e ∈ loaded, e.2.WellShaped := fun e he ↦ hwell e.2 (List.mem_map_of_mem he)
    have hlook : s.lookUp = s.namespaceIn (loaded.map Prod.fst) := by
      rw [lookUp_eq, hpaths, ok_bind, if_neg (by rwa [List.isEmpty_iff]), hl, ok_bind,
        if_neg (by rwa [List.isEmpty_iff])]
    obtain ⟨hok, herr⟩ := namespaceIn_of_wellShaped (hnames loaded hl).1 (hnames loaded hl).2 hne'
      hwell'
    rw [hlook]
    exact ⟨fun hall ↦ by rw [hok hall], fun hnot ↦ by rw [herr hnot, mapError_error]⟩

/-- Two files in the environment: the first one sets the current context, the second one has a
context of that name. -/
def twoFiles : Source where
  explicitPath := none
  env := [("KUBECONFIG", "a:b")]
  home := "/root"
  homeFile := .ofText defaultHomeFile
  account := .ofText defaultAccount
  files := { entries := [
    (["a"], .file (bytesOf "current-context: dev")),
    (["b"], .file (bytesOf "contexts: [\x7bname: dev, context: \x7bnamespace: team-a\x7d\x7d]"))] }

theorem activeNamespace_firstFile_twoFiles :
    twoFiles.paths = .ok [⟨"", ["a"]⟩, ⟨"", ["b"]⟩] ∧ twoFiles.Stable "a" ∧ twoFiles.Stable "b" ∧
      ∃ docs, twoFiles.documents [⟨"", ["a"]⟩, ⟨"", ["b"]⟩] = .ok docs ∧
        (docs ≠ [] → (∀ d ∈ docs, d.isMapping = true) ∧
          firstFileNamespace docs = .ok "team-a") := by
  have hpaths : twoFiles.paths = .ok [⟨"", ["a"]⟩, ⟨"", ["b"]⟩] := by rfl
  have hstable : ∀ p ∈ [(⟨"", ["a"]⟩ : Path), ⟨"", ["b"]⟩], twoFiles.Stable p.text := by decide
  refine ⟨hpaths, hstable _ List.mem_cons_self, by decide, ?_⟩
  refine (activeNamespace_firstFile twoFiles hpaths hstable).1 "team-a" ?_
  exact eq_ok_of_toOption (by decide +kernel)

end Source

end GatewayPrint.Kubeconfig
