import GatewayPrint.Proofs.Kubeconfig.MergeFaults
import GatewayPrint.Proofs.Kubeconfig.Padding
import Mathlib.Data.List.Nodup

/-!
# Listed files, found and opened

The list of the environment is read twice. The program looks for the files of its entries: it puts
the home directory in place of a tilde, and keeps the places where something is, each once, in the
order of the entries (`listed_eq_ok`). The names of those with content are then joined by colons,
cut apart, expanded and looked for again, by other functions on texts, and under the names that come
out of this the files are opened.

No name falls apart at a colon, since the entries have none and the home directory is taken to have
none. A name is opened as it is found unless it begins with a tilde that stands for something
(`mem_rereads_iff`), and a listed file gets such a name only from a home directory that is not
settled. So all names are the same in both readings if and only if all of them are stable
(`rereads_listed_iff`); a name that is not stable is not among those that are opened at all, and the
document of its file is missed when the current context is looked up.
-/

namespace GatewayPrint.Kubeconfig.Source

open Outcome

variable {s : Source} {name : String} {names : List String} {found ps ws : List Path} {P : Path}

/-! ## What is found -/

/-- The path that an entry of the list leads to. -/
def placeOf (s : Source) (name : String) : Option Path :=
  (Path.ofText name).expandHome s.accounts s.home

/-- The paths that some entries lead to and where something is, entry after entry. -/
def occupied (s : Source) (names : List String) : List Path :=
  (names.filterMap s.placeOf).filter fun P ↦ s.files.holds P.text

theorem occupied_cons (hP : s.placeOf name = some P) (names : List String) :
    s.occupied (name :: names)
      = if s.files.holds P.text then P :: s.occupied names else s.occupied names := by
  rw [occupied, List.filterMap_cons_some hP, List.filter_cons]
  rfl

/-- What is left without some elements and one more. -/
theorem removeAll_concat (l found : List Path) (P : Path) :
    l.removeAll (found ++ [P]) = (l.removeAll found).filter fun Q ↦ !Q == P := by
  rw [List.removeAll, List.removeAll, List.filter_filter]
  refine List.filter_congr fun Q _ ↦ ?_
  rw [Bool.eq_iff_iff]
  simp [and_comm]

/-- **What a look through a list finds**: every entry leads to a path, and to what had been found
before come those paths where something is, each when it occurs for the first time. -/
theorem listed_eq_ok (h : s.listed names found = .ok ps) :
    (∀ name ∈ names, (s.placeOf name).isSome = true) ∧
      ps = found ++ ((s.occupied names).removeAll found).eraseDups := by
  induction names generalizing found with
  | nil =>
    cases h
    exact ⟨fun _ hname ↦ absurd hname List.not_mem_nil, (List.append_nil _).symm⟩
  | cons name rest ih =>
    obtain ⟨P, hP, h⟩ := bind_eq_ok.mp h
    obtain ⟨there, hthere, h⟩ := bind_eq_ok.mp h
    obtain ⟨hplaces, hps⟩ := ih h
    have hplace : s.placeOf name = some P := expand_eq_ok.mp hP
    refine ⟨fun n hn ↦ ?_, ?_⟩
    · rcases List.mem_cons.mp hn with rfl | hn
      · rw [hplace]
        rfl
      · exact hplaces n hn
    · rw [hps, occupied_cons hplace, holds_of_exists? hthere]
      cases there with
      | false => rfl
      | true =>
        rw [if_pos rfl, List.cons_removeAll, Bool.true_and]
        cases hmem : found.contains P with
        | true => rfl
        | false =>
          simp only [Bool.not_false, if_true]
          rw [List.eraseDups_cons, removeAll_concat, List.append_assoc]
          rfl

theorem nodup_noted (there : Bool) (P : Path) (h : found.Nodup) : (noted there P found).Nodup := by
  rw [noted]
  split
  · next hnew =>
    have hP : P ∉ found := by simpa using (Bool.and_eq_true_iff.mp hnew).2
    exact List.nodup_append.mpr ⟨h, List.nodup_singleton P, fun Q hQ R hR heq ↦
      hP (List.mem_singleton.mp hR ▸ heq ▸ hQ)⟩
  · exact h

theorem nodup_listed (h : s.listed names found = .ok ps) (hfound : found.Nodup) : ps.Nodup := by
  induction names generalizing found with
  | nil =>
    cases h
    exact hfound
  | cons name rest ih =>
    obtain ⟨P, -, h⟩ := bind_eq_ok.mp h
    obtain ⟨there, -, h⟩ := bind_eq_ok.mp h
    exact ih h (nodup_noted there P hfound)

/-! ## What is opened -/

/-- A path that a name without a colon leads to, and where something is. -/
def IsListed (s : Source) (P : Path) : Prop :=
  ∃ name, ':' ∉ name.toList ∧ s.placeOf name = some P ∧ s.files.holds P.text = true

private theorem isListed_of_mem_occupied {v : String} (h : P ∈ s.occupied (named (entriesIn v))) :
    s.IsListed P := by
  rw [occupied, List.mem_filter, List.mem_filterMap] at h
  obtain ⟨⟨name, hname, hplace⟩, hholds⟩ := h
  obtain ⟨cs, hcs, rfl⟩ := List.mem_map.mp (List.mem_filter.mp hname).1
  refine ⟨_, ?_, hplace, hholds⟩
  rw [String.toList_ofList]
  exact Text.not_mem_of_mem_splitOn hcs

theorem IsListed.holds (h : s.IsListed P) : s.files.holds P.text = true := by
  obtain ⟨-, -, -, hholds⟩ := h
  exact hholds

theorem IsListed.normal (h : s.IsListed P) : P.Normal := by
  obtain ⟨name, -, hP, -⟩ := h
  exact Path.normal_expandHome (Path.normal_ofText name) hP

theorem IsListed.noColon (hhome : ':' ∉ s.home.toList) (h : s.IsListed P) :
    ':' ∉ P.text.toList := by
  obtain ⟨name, hname, hP, -⟩ := h
  have hnormal := Path.normal_ofText name
  exact Path.noColon_text (Path.normal_expandHome hnormal hP)
    (Path.noColon_expandHome hhome hnormal (Path.noColon_ofText hname) hP)

/-- A settled home directory makes all names stable. -/
theorem IsListed.stable (hhome : ':' ∉ s.home.toList) (hsettled : Path.SettledHome s.home)
    (h : s.IsListed P) : s.Stable P.text := by
  refine ⟨h.noColon hhome, Path.expandText_of_not_tilde ?_⟩
  obtain ⟨name, -, hP, -⟩ := h
  exact Path.not_tilde_of_settledHome hsettled (Path.normal_ofText name) hP

/-- Names of listed files do not fall apart. -/
theorem rereads_listed (hhome : ':' ∉ s.home.toList) (h : ∀ P ∈ ws, s.IsListed P) :
    s.rereads (ws.map Path.text)
      = ((ws.map Path.text).map (Path.expandText s.accounts s.home)).filter s.files.holds := by
  rw [rereads, Merged.namesIn_intercalate]
  · intro n hn
    obtain ⟨P, hP, rfl⟩ := List.mem_map.mp hn
    exact (h P hP).noColon hhome
  · intro n hn
    obtain ⟨P, hP, rfl⟩ := List.mem_map.mp hn
    exact ne_empty_of_holds (h P hP).holds

/-- **The same names**, in the same order, if and only if all of them are stable. -/
theorem rereads_listed_iff (hhome : ':' ∉ s.home.toList) (h : ∀ P ∈ ws, s.IsListed P) :
    s.rereads (ws.map Path.text) = ws.map Path.text ↔ ∀ P ∈ ws, s.Stable P.text := by
  constructor
  · intro heq P hP
    rw [rereads_listed hhome h] at heq
    -- as many names are left as there were, so that none has been dropped
    have hall : ∀ n ∈ (ws.map Path.text).map (Path.expandText s.accounts s.home),
        s.files.holds n = true := by
      rw [← List.length_filter_eq_length_iff, heq, List.length_map, List.length_map,
        List.length_map]
    rw [List.filter_eq_self.mpr hall, List.map_map] at heq
    exact ⟨(h P hP).noColon hhome, List.map_eq_map_iff.mp heq P hP⟩
  · intro hstable
    refine rereads_of_stable (fun n hn ↦ ?_) (fun n hn ↦ ?_)
    · obtain ⟨P, hP, rfl⟩ := List.mem_map.mp hn
      exact hstable P hP
    · obtain ⟨P, hP, rfl⟩ := List.mem_map.mp hn
      exact (h P hP).holds

/-- A name that is not stable begins with a tilde, and no name that is opened does, apart from
stable ones. -/
theorem mem_rereads_iff (hhome : ':' ∉ s.home.toList) (h : ∀ P ∈ ws, s.IsListed P) (hP : P ∈ ws) :
    P.text ∈ s.rereads (ws.map Path.text) ↔ s.Stable P.text := by
  have hcolon := (h P hP).noColon hhome
  obtain ⟨name, -, hplace, -⟩ := h P hP
  rw [rereads_listed hhome h, List.mem_filter, List.mem_map]
  constructor
  · rintro ⟨⟨n, -, hn⟩, -⟩
    by_cases htilde : Path.Tilde P.text
    · have hnot := Path.not_tilde_home (Path.normal_ofText name) hplace htilde
      have hself : Path.expandText s.accounts s.home n = n :=
        Path.eq_self_of_tilde_expandText (by rwa [hn]) hnot
      rw [hself] at hn
      exact ⟨hcolon, hn ▸ hself⟩
    · exact ⟨hcolon, Path.expandText_of_not_tilde htilde⟩
  · intro hstable
    exact ⟨⟨P.text, List.mem_map_of_mem hP, hstable.noTilde⟩, (h P hP).holds⟩

/-! ## The two readings -/

/-- How files with content are opened after they have been found. -/
structure OpenedAsFound (s : Source) (ws : List Path) : Prop where
  /-- The same names come out of the second reading just when all of them are stable. -/
  names : s.rereads (ws.map Path.text) = ws.map Path.text ↔ ∀ P ∈ ws, s.Stable P.text
  content : ∀ P ∈ ws, ∃ d, Merged.load s.files P.text = .ok d ∧ d.isNull = false
  /-- A document is kept under the name of a file just when that is stable, and then it is the one
  in the file. -/
  documents : ∀ merged,
    Merged.ofFiles s.files s.accounts s.home (":".intercalate (ws.map Path.text)) = .ok merged →
    ∀ P ∈ ws, ∀ d, (merged.elim [] Merged.documents).lookup P.text = some d ↔
      s.Stable P.text ∧ Merged.load s.files P.text = .ok d
  /-- A file that is reported as empty has been opened under another name. -/
  empty : ∀ path,
    Merged.ofFiles s.files s.accounts s.home (":".intercalate (ws.map Path.text))
      = .error (.emptyFile path) →
    ∃ P ∈ ws, ¬s.Stable P.text ∧ path = Path.expandText s.accounts s.home P.text

/-- The files with content are those that can be loaded and are not null. -/
theorem content_of_written (h : s.written ps = .ok ws) :
    ∀ P ∈ ws, ∃ d, Merged.load s.files P.text = .ok d ∧ d.isNull = false := by
  intro P hP
  have hnames := s.written_eq ps
  rw [h, map_ok] at hnames
  obtain ⟨loaded, hloaded, hfst⟩ := map_eq_ok.mp hnames.symm
  have hmem : P.text ∈ loaded.map Prod.fst := by
    rw [hfst]
    exact List.mem_map_of_mem hP
  obtain ⟨e, he, heq⟩ := List.mem_map.mp hmem
  obtain ⟨hload, hnull, -⟩ := load_of_mem_namedDocuments hloaded e he
  exact ⟨e.2, heq ▸ hload, hnull⟩

private theorem written_eq_speaking (h : s.written ps = .ok ws) : ws = s.speaking ps := by
  induction ps generalizing ws with
  | nil =>
    cases h
    rfl
  | cons P rest ih =>
    obtain ⟨blank, hblank, h⟩ := bind_eq_ok.mp h
    obtain ⟨others, hothers, h⟩ := bind_eq_ok.mp h
    cases h
    rw [speaking, List.filter_cons, saysNothing, hblank, ih hothers]
    cases blank <;> rfl

private theorem openedAsFound (hhome : ':' ∉ s.home.toList) (hlisted : ∀ P ∈ ps, s.IsListed P)
    (h : s.written ps = .ok ws) : s.OpenedAsFound ws := by
  have hws : ∀ P ∈ ws, s.IsListed P := fun P hP ↦ hlisted P (mem_of_written h P hP)
  refine ⟨rereads_listed_iff hhome hws, content_of_written h, ?_, ?_⟩
  · intro merged hmerged P hP d
    rw [ofFiles_eq_addFiles] at hmerged
    rw [Merged.lookup_documents_eq_some hmerged, mem_rereads_iff hhome hws hP]
  · intro path hempty
    rw [ofFiles_eq_addFiles] at hempty
    obtain ⟨hmem, d, hload, hnull⟩ := Merged.isNull_of_emptyFile hempty
    rw [rereads_listed hhome hws, List.mem_filter, List.map_map, List.mem_map] at hmem
    obtain ⟨⟨P, hP, rfl⟩, -⟩ := hmem
    refine ⟨P, hP, fun hstable ↦ ?_, rfl⟩
    obtain ⟨d', hload', hnull'⟩ := content_of_written h P hP
    rw [Function.comp_apply, hstable.noTilde, hload'] at hload
    cases hload
    rw [hnull] at hnull'
    cases hnull'

/-- **The two readings of the list.** Let the environment list files, with a home directory without
colons, and let them be found. Then they are the places of the entries that are not empty where
something is, each once and in the order in which they first occur, and no two have one text. Those
with content are opened under the names they are found under, and their documents are kept under
these names, if and only if the names are stable. All names are, if the home directory is settled,
which it is when it is below the root. -/
theorem listedFiles_agree (hexplicit : s.explicitPath = none) (hlist : s.env.get "KUBECONFIG" ≠ "")
    (hhome : ':' ∉ s.home.toList) (hpaths : s.paths = .ok ps) :
    let entries := named (entriesIn (s.env.get "KUBECONFIG"))
    (∀ name ∈ entries, (s.placeOf name).isSome = true) ∧
    (ps = (s.occupied entries).eraseDups ∧ ps.Nodup ∧ (ps.map Path.text).Nodup) ∧
    (∀ ws, s.written ps = .ok ws → ws = s.speaking ps ∧ s.OpenedAsFound ws) ∧
    (Path.SettledHome s.home → ∀ P ∈ ps, s.Stable P.text) ∧
    (s.home.toList.head? = some '/' → Path.SettledHome s.home) := by
  intro entries
  rw [paths_listed hexplicit hlist] at hpaths
  obtain ⟨hplaces, hps⟩ := listed_eq_ok hpaths
  rw [List.nil_append, List.removeAll_nil] at hps
  have hlisted : ∀ P ∈ ps, s.IsListed P := by
    intro P hP
    rw [hps, List.mem_eraseDups] at hP
    exact isListed_of_mem_occupied hP
  have hnodup := nodup_listed hpaths List.nodup_nil
  have htexts : (ps.map Path.text).Nodup := List.Nodup.map_on (fun P hP Q hQ ↦
    Path.text_inj (hlisted P hP).normal (hlisted Q hQ).normal) hnodup
  exact ⟨hplaces, ⟨hps, hnodup, htexts⟩,
    fun ws hws ↦ ⟨written_eq_speaking hws, openedAsFound hhome hlisted hws⟩,
    fun hsettled P hP ↦ (hlisted P hP).stable hhome hsettled, Path.settledHome_of_absolute⟩

/-- A list that leads to two files, to each of them by two entries. The second file says nothing. -/
def spelledTwice : Source where
  explicitPath := none
  env := [("KUBECONFIG", "a:./a::x:~/a:h//a")]
  home := "h"
  homeFile := .ofText defaultHomeFile
  account := .ofText defaultAccount
  files := { entries := [(["h"], .folder), (["h", "a"], .file (bytesOf "#")),
    (["a"], .file (bytesOf "current-context: dev"))] }

theorem listedFiles_agree_spelledTwice :
    (spelledTwice.explicitPath = none ∧ spelledTwice.env.get "KUBECONFIG" ≠ "" ∧
      ':' ∉ spelledTwice.home.toList ∧
      spelledTwice.paths = .ok [⟨"", ["a"]⟩, ⟨"", ["h", "a"]⟩]) ∧
    spelledTwice.written [⟨"", ["a"]⟩, ⟨"", ["h", "a"]⟩] = .ok [⟨"", ["a"]⟩] ∧
    spelledTwice.OpenedAsFound [⟨"", ["a"]⟩] ∧
    Path.SettledHome spelledTwice.home ∧ spelledTwice.Stable "h/a" := by
  have hlist : spelledTwice.env.get "KUBECONFIG" ≠ "" := by decide
  have hhome : ':' ∉ spelledTwice.home.toList := by decide
  have hpaths : spelledTwice.paths = .ok [⟨"", ["a"]⟩, ⟨"", ["h", "a"]⟩] :=
    eq_ok_of_toOption (by decide)
  have hwritten : spelledTwice.written [⟨"", ["a"]⟩, ⟨"", ["h", "a"]⟩] = .ok [⟨"", ["a"]⟩] :=
    eq_ok_of_toOption (by decide +kernel)
  have hsettled : Path.SettledHome spelledTwice.home := by
    intro H hH
    obtain ⟨-, rfl⟩ := Path.ofHome?_eq_some.mp hH
    decide
  obtain ⟨-, -, hopened, hstable, -⟩ := listedFiles_agree rfl hlist hhome hpaths
  exact ⟨⟨rfl, hlist, hhome, hpaths⟩, hwritten, (hopened _ hwritten).2, hsettled,
    hstable hsettled ⟨"", ["h", "a"]⟩ (by decide)⟩

/-- A list of one file, below a home directory whose name begins with a tilde. -/
def belowTilde : Source where
  explicitPath := none
  env := [("KUBECONFIG", "~/a")]
  home := "./~root"
  homeFile := .ofText defaultHomeFile
  account := .ofText defaultAccount
  files := { entries := [(["~root"], .folder),
    (["~root", "a"], .file (bytesOf "current-context: dev"))] }

example : belowTilde.paths.toOption = some [⟨"", ["~root", "a"]⟩] ∧
    belowTilde.rereads ["~root/a"] = [] := by decide

end GatewayPrint.Kubeconfig.Source
