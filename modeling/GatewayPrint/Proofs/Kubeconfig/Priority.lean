import GatewayPrint.Proofs.Kubeconfig.Places
import GatewayPrint.Proofs.Kubeconfig.Rereading

/-!
# What a look-up depends on

A file that is named explicitly is the only one that counts; otherwise the list of the environment
counts, even if nothing on it is there; otherwise the file below the home directory; and only if all
files that count are blank, the pod. A source of lower priority is not even looked at.

So two sources that name the same candidates and find the same under their names have the same
outcome, whatever else there is. One more thing counts: the files that are found are opened under
names that are cut apart at colons and searched for tildes once more (`Source.reopened`). For stable
names this adds nothing (`reopened_of_stable`), but a name with another tilde in it leads to a file
that is no candidate, and may well be the one below the home directory.
-/

namespace GatewayPrint

open Outcome

namespace Kubeconfig

theorem Merged.namesIn_join (texts : List String) :
    namesIn (":".intercalate texts) = texts.flatMap namesIn := by
  induction texts with
  | nil => rfl
  | cons t rest ih =>
    cases rest with
    | nil => rw [String.intercalate_singleton, List.flatMap_singleton]
    | cons u us =>
      have hsplit : namesIn (":".intercalate (t :: u :: us))
          = namesIn t ++ namesIn (":".intercalate (u :: us)) := by
        have hlist : (":".intercalate (t :: u :: us)).toList
            = t.toList ++ ':' :: (":".intercalate (u :: us)).toList := by
          simp [String.toList_intercalate]
        rw [namesIn, hlist, Text.splitOn_append_cons, List.filter_append, List.map_append]
        rfl
      rw [hsplit, ih]
      exact List.flatMap_cons.symm

namespace Source

variable {s s' : Source} {ps : List Path} {p P : Path}

/-! ## What counts -/

/-- The names under which a file is opened after it has been found. -/
def reopened (s : Source) (P : Path) : List String :=
  (Merged.namesIn P.text).map (Path.expandText s.accounts s.home)

/-- Two sources find the same under a name. -/
def FindsSame (s s' : Source) (name : String) : Prop := s'.files.find name = s.files.find name

instance (s s' : Source) (name : String) : Decidable (FindsSame s s' name) :=
  inferInstanceAs (Decidable (s'.files.find name = s.files.find name))

/-- Two sources name the same candidates, by the same one of the three ways. -/
structure SameRoute (s s' : Source) : Prop where
  explicitPath : s'.explicitPath = s.explicitPath
  home : s'.home = s.home
  accounts : s'.accounts = s.accounts
  list : s.explicitPath = none → s'.env.get "KUBECONFIG" = s.env.get "KUBECONFIG"
  homeFile : s.explicitPath = none → s.env.get "KUBECONFIG" = "" → s'.homeFile = s.homeFile

/-- Two sources agree on the pod. -/
structure SamePod (s s' : Source) : Prop where
  host : s'.env.get "KUBERNETES_SERVICE_HOST" = s.env.get "KUBERNETES_SERVICE_HOST"
  port : s'.env.get "KUBERNETES_SERVICE_PORT" = s.env.get "KUBERNETES_SERVICE_PORT"
  named : s'.env.get "POD_NAMESPACE" = s.env.get "POD_NAMESPACE"
  account : s'.account = s.account
  token : FindsSame s s' (s.account.append "token").text
  namespaceFile : FindsSame s s' (s.account.append "namespace").text

/-! ## Which files count -/

theorem expand_congr (hhome : s'.home = s.home) (haccounts : s'.accounts = s.accounts) (p : Path) :
    s'.expand p = s.expand p := by
  rw [expand, expand, hhome, haccounts]

theorem exists?_congr (h : FindsSame s s' P.text) : s'.exists? P = s.exists? P := by
  rw [exists?, exists?, h]

theorem isFile_congr (h : FindsSame s s' P.text) : s'.isFile P = s.isFile P := by
  rw [isFile, isFile, h]

theorem listed_congr (hhome : s'.home = s.home) (haccounts : s'.accounts = s.accounts)
    {names : List String}
    (h : ∀ name ∈ names, ∀ P, s.expand (.ofText name) = .ok P → FindsSame s s' P.text)
    (found : List Path) : s'.listed names found = s.listed names found := by
  induction names generalizing found with
  | nil => rfl
  | cons name rest ih =>
    rw [listed, listed, expand_congr hhome haccounts]
    cases hP : s.expand (.ofText name) with
    | error f => rfl
    | ok P =>
      rw [ok_bind, ok_bind, exists?_congr (h name List.mem_cons_self P hP)]
      exact bind_congr fun there ↦ ih (fun n hn ↦ h n (List.mem_cons_of_mem name hn)) _

/-- **The files that count** are those that two sources with the same candidates find there. -/
theorem paths_congr (h : SameRoute s s')
    (hfound : ∀ p ∈ s.candidates, ∀ P, s.expand p = .ok P → FindsSame s s' P.text) :
    s'.paths = s.paths := by
  rw [paths, paths, h.explicitPath]
  rw [candidates] at hfound
  cases hexplicit : s.explicitPath with
  | some p =>
    rw [hexplicit] at hfound
    dsimp only
    rw [expand_congr h.home h.accounts]
    cases hP : s.expand p with
    | error f => rfl
    | ok P => rw [ok_bind, ok_bind, isFile_congr (hfound p List.mem_cons_self P hP)]
  | none =>
    rw [hexplicit] at hfound
    dsimp only at hfound ⊢
    rw [h.list hexplicit]
    by_cases hlist : s.env.get "KUBECONFIG" = ""
    · rw [hlist] at hfound ⊢
      rw [if_neg (by decide), if_neg (by decide), h.homeFile hexplicit hlist,
        expand_congr h.home h.accounts]
      cases hP : s.expand s.homeFile with
      | error f => rfl
      | ok P => rw [ok_bind, ok_bind, exists?_congr (hfound _ List.mem_cons_self P hP)]
    · have hempty : (s.env.get "KUBECONFIG").isEmpty = false := by simpa using hlist
      rw [hempty, if_neg Bool.false_ne_true] at hfound
      rw [hempty]
      exact listed_congr h.home h.accounts
        (fun name hname ↦ hfound _ (List.mem_map_of_mem hname)) []

theorem holds_of_exists? {there : Bool} (h : s.exists? P = .ok there) :
    s.files.holds P.text = there := by
  rw [exists?] at h
  rw [FileTree.holds]
  cases hf : s.files.find P.text <;> simp_all

private theorem holds_of_isFile (h : s.isFile P = .ok true) : s.files.holds P.text = true := by
  rw [isFile] at h
  rw [FileTree.holds]
  cases hf : s.files.find P.text <;> simp [hf] at h ⊢

/-- A file that counts is the place of a candidate where something is. -/
def IsFound (s : Source) (P : Path) : Prop :=
  (∃ p ∈ s.candidates, s.expand p = .ok P) ∧ s.files.holds P.text = true

private theorem isFound_of_listed {names : List String} {found : List Path}
    (h : s.listed names found = .ok ps)
    (hnames : ∀ name ∈ names, Path.ofText name ∈ s.candidates)
    (hfound : ∀ P ∈ found, s.IsFound P) : ∀ P ∈ ps, s.IsFound P := by
  induction names generalizing found with
  | nil =>
    cases h
    exact hfound
  | cons name rest ih =>
    obtain ⟨Q, hQ, h⟩ := bind_eq_ok.mp h
    obtain ⟨there, hthere, h⟩ := bind_eq_ok.mp h
    refine ih h (fun n hn ↦ hnames n (List.mem_cons_of_mem name hn)) fun P hP ↦ ?_
    split at hP
    · next hnew =>
      rcases List.mem_append.mp hP with hP | hP
      · exact hfound P hP
      · rw [List.mem_singleton.mp hP]
        rw [(Bool.and_eq_true_iff.mp hnew).1] at hthere
        exact ⟨⟨_, hnames name List.mem_cons_self, hQ⟩, holds_of_exists? hthere⟩
    · exact hfound P hP

theorem isFound_of_paths (h : s.paths = .ok ps) : ∀ P ∈ ps, s.IsFound P := by
  rw [paths] at h
  cases hexplicit : s.explicitPath with
  | some p =>
    have hp : p ∈ s.candidates := by
      rw [candidates, hexplicit]
      exact List.mem_cons_self
    rw [hexplicit] at h
    obtain ⟨Q, hQ, h⟩ := bind_eq_ok.mp h
    obtain ⟨there, hthere, h⟩ := bind_eq_ok.mp h
    cases there with
    | false => cases h
    | true =>
      cases h
      intro P hP
      rw [List.mem_singleton.mp hP]
      exact ⟨⟨p, hp, hQ⟩, holds_of_isFile hthere⟩
  | none =>
    -- Without an explicit file, the list counts if it is not empty, and the file at home otherwise.
    have hcandidates : s.candidates = if (s.env.get "KUBECONFIG").isEmpty then [s.homeFile]
        else (Merged.namesIn (s.env.get "KUBECONFIG")).map Path.ofText := by
      rw [candidates, hexplicit]
    rw [hexplicit] at h
    dsimp only at h
    cases hempty : (s.env.get "KUBECONFIG").isEmpty with
    | false =>
      rw [hempty] at h hcandidates
      refine isFound_of_listed h (fun name hname ↦ ?_) fun P hP ↦ absurd hP List.not_mem_nil
      rw [hcandidates]
      exact List.mem_map_of_mem hname
    | true =>
      rw [hempty] at h hcandidates
      obtain ⟨Q, hQ, h⟩ := bind_eq_ok.mp h
      obtain ⟨there, hthere, h⟩ := bind_eq_ok.mp h
      cases there with
      | false =>
        cases h
        exact fun P hP ↦ absurd hP List.not_mem_nil
      | true =>
        cases h
        intro P hP
        rw [List.mem_singleton.mp hP]
        refine ⟨⟨s.homeFile, ?_, hQ⟩, holds_of_exists? hthere⟩
        rw [hcandidates]
        exact List.mem_cons_self

private theorem reopened_of_stable (h : s.paths = .ok ps) (hP : P ∈ ps)
    (hstable : s.Stable P.text) : s.reopened P = [P.text] := by
  have hne : P.text ≠ "" := ne_empty_of_holds (isFound_of_paths h P hP).2
  have hnames : Merged.namesIn P.text = [P.text] := by
    have hjoin : Merged.namesIn (":".intercalate [P.text]) = [P.text] :=
      Merged.namesIn_intercalate
        (fun n hn ↦ by rw [List.mem_singleton.mp hn]; exact hstable.noColon)
        (fun n hn ↦ by rw [List.mem_singleton.mp hn]; exact hne)
    rwa [String.intercalate_singleton] at hjoin
  rw [reopened, hnames, List.map_singleton, hstable.noTilde]

/-! ## What they say -/

theorem load_congr (hroom : s'.files.room = s.files.room) {name : String}
    (h : FindsSame s s' name) : Merged.load s'.files name = Merged.load s.files name := by
  rw [Merged.load, Merged.load, h, hroom]

theorem holds_congr {name : String} (h : FindsSame s s' name) :
    s'.files.holds name = s.files.holds name := by
  rw [FileTree.holds, FileTree.holds, h]

theorem written_congr (hroom : s'.files.room = s.files.room)
    (h : ∀ P ∈ ps, FindsSame s s' P.text) : s'.written ps = s.written ps := by
  induction ps with
  | nil => rfl
  | cons P rest ih =>
    rw [written, written, isBlank_eq, isBlank_eq, load_congr hroom (h P List.mem_cons_self),
      ih fun Q hQ ↦ h Q (List.mem_cons_of_mem P hQ)]

theorem mem_of_written {ws : List Path} (h : s.written ps = .ok ws) : ∀ P ∈ ws, P ∈ ps := by
  induction ps generalizing ws with
  | nil =>
    cases h
    exact fun P hP ↦ hP
  | cons Q rest ih =>
    obtain ⟨blank, -, h⟩ := bind_eq_ok.mp h
    obtain ⟨others, hothers, h⟩ := bind_eq_ok.mp h
    cases h
    intro P hP
    split at hP
    · exact List.mem_cons_of_mem Q (ih hothers P hP)
    · rcases List.mem_cons.mp hP with rfl | hP
      · exact List.mem_cons_self
      · exact List.mem_cons_of_mem Q (ih hothers P hP)

theorem rereads_eq (s : Source) (ws : List Path) :
    s.rereads (ws.map Path.text) = (ws.flatMap s.reopened).filter s.files.holds := by
  rw [rereads, Merged.namesIn_join, List.flatMap_map, List.map_flatMap]
  rfl

theorem addFiles_congr (hroom : s'.files.room = s.files.room) {names : List String}
    (h : ∀ n ∈ names, FindsSame s s' n) (m : Option Merged) :
    Merged.addFiles s'.files names m = Merged.addFiles s.files names m := by
  induction names generalizing m with
  | nil => rfl
  | cons n rest ih =>
    rw [Merged.addFiles, Merged.addFiles, load_congr hroom (h n List.mem_cons_self)]
    exact bind_congr fun d ↦ bind_congr fun m ↦ ih (fun k hk ↦ h k (List.mem_cons_of_mem n hk)) _

/-- **What files with content say** depends on what is found when they are opened. -/
theorem namespaceIn_congr (hhome : s'.home = s.home) (haccounts : s'.accounts = s.accounts)
    (hroom : s'.files.room = s.files.room) {ws : List Path}
    (h : ∀ P ∈ ws, ∀ name ∈ s.reopened P, FindsSame s s' name) :
    s'.namespaceIn (ws.map Path.text) = s.namespaceIn (ws.map Path.text) := by
  have hopened : ∀ name ∈ ws.flatMap s.reopened, FindsSame s s' name := by
    intro name hname
    obtain ⟨P, hP, hname⟩ := List.mem_flatMap.mp hname
    exact h P hP name hname
  have hreopened : s'.reopened = s.reopened := by
    funext P
    rw [reopened, reopened, hhome, haccounts]
  have hre : s'.rereads (ws.map Path.text) = s.rereads (ws.map Path.text) := by
    rw [rereads_eq, rereads_eq, hreopened]
    exact List.filter_congr fun name hname ↦ holds_congr (hopened name hname)
  rw [namespaceIn, namespaceIn, ofFiles_eq_addFiles, ofFiles_eq_addFiles, hre]
  rw [addFiles_congr hroom fun name hname ↦ ?_]
  rw [rereads_eq] at hname
  exact hopened name (List.mem_filter.mp hname).1

/-! ## What the pod says -/

theorem podNamespace_congr (h : SamePod s s') : s'.podNamespace = s.podNamespace := by
  have hinside : s'.inCluster = s.inCluster := by
    rw [inCluster, inCluster, h.host, h.port, h.account, isFile_congr h.token]
  have haccount : s'.accountNamespace = s.accountNamespace := by
    rw [accountNamespace, accountNamespace, h.account, h.namespaceFile]
  rw [podNamespace, podNamespace, hinside, h.named, haccount]

/-! ## The outcome -/

/-- Two sources have the same outcome: the same files count, and the look-up ends alike. -/
def SameResults (s s' : Source) : Prop :=
  s'.paths = s.paths ∧ s'.activeNamespace.result = s.activeNamespace.result

/-- Two sources with the same candidates agree on the files: on the accounts of the system and the
room to read in, on what is found at the candidates, and on what is found when those of them that
count are opened. -/
structure SameFiles (s s' : Source) : Prop where
  accounts : s'.accounts = s.accounts
  room : s'.files.room = s.files.room
  found : ∀ p ∈ s.candidates, ∀ P, s.expand p = .ok P → FindsSame s s' P.text
  opened : ∀ ps, s.paths = .ok ps → ∀ P ∈ ps, ∀ name ∈ s.reopened P, FindsSame s s' name

/-- Some file that counts says something, or cannot be read. -/
def HasContent (s : Source) : Prop := ∃ ps, s.paths = .ok ps ∧ ∃ P ∈ ps, s.isBlank P ≠ .ok true

theorem written_ne_nil (h : ∃ P ∈ ps, s.isBlank P ≠ .ok true) : s.written ps ≠ .ok [] := by
  induction ps with
  | nil =>
    obtain ⟨P, hP, -⟩ := h
    cases hP
  | cons Q rest ih =>
    intro hw
    obtain ⟨blank, hblank, hw⟩ := bind_eq_ok.mp hw
    obtain ⟨others, hothers, hw⟩ := bind_eq_ok.mp hw
    cases blank with
    | false => cases hw
    | true =>
      cases hw
      obtain ⟨P, hP, hcontent⟩ := h
      rcases List.mem_cons.mp hP with rfl | hP
      · exact hcontent hblank
      · exact ih ⟨P, hP, hcontent⟩ hothers

/-- The look-up after the files that count have been found. -/
theorem lookUp_congr (h : SameRoute s s') (hfiles : SameFiles s s')
    (hpod : SamePod s s' ∨ s.HasContent) : s'.lookUp = s.lookUp := by
  rw [lookUp, lookUp, paths_congr h hfiles.found]
  cases hpaths : s.paths with
  | error f => rw [error_bind, error_bind]
  | ok ps =>
    have htexts : ∀ P ∈ ps, FindsSame s s' P.text := by
      intro P hP
      obtain ⟨⟨p, hp, hexpand⟩, -⟩ := isFound_of_paths hpaths P hP
      exact hfiles.found p hp P hexpand
    rw [ok_bind, ok_bind, written_congr hfiles.room htexts]
    split
    · next hempty =>
      rcases hpod with hpod | ⟨qs, hqs, P, hP, -⟩
      · exact podNamespace_congr hpod
      · cases hpaths.symm.trans hqs
        rw [List.isEmpty_iff.mp hempty] at hP
        cases hP
    · cases hw : s.written ps with
      | error f => rw [error_bind, error_bind]
      | ok ws =>
        rw [ok_bind, ok_bind]
        split
        · next hempty =>
          rcases hpod with hpod | ⟨qs, hqs, hcontent⟩
          · rw [podNamespace_congr hpod]
          · cases hpaths.symm.trans hqs
            rw [List.isEmpty_iff.mp hempty] at hw
            exact absurd hw (written_ne_nil hcontent)
        · exact namespaceIn_congr h.home h.accounts hfiles.room fun P hP ↦
            hfiles.opened ps hpaths P (mem_of_written hw P hP)

theorem sameResults_of_sameRoute (h : SameRoute s s') (hfiles : SameFiles s s')
    (hpod : SamePod s s' ∨ s.HasContent) : SameResults s s' := by
  refine ⟨paths_congr h hfiles.found, ?_⟩
  rw [result_activeNamespace, result_activeNamespace, lookUp_congr h hfiles hpod]

/-- **Sources of lower priority do not interfere.** Let two sources have the same explicit path and
home directory, and find the same at the candidates and when files that count are opened.

* With an explicit path, the list of the environment and the file below the home directory do not
  matter.
* Without one, a list in the environment is all that counts, even if nothing on it is there, and
  the file below the home directory does not matter.
* As soon as some file that counts is not blank, be it that it cannot be read, the pod does not
  matter.

Files that count and have a stable name are opened under this name, so that nothing is asked of
other names then. -/
theorem activeNamespace_priority (hexplicit : s'.explicitPath = s.explicitPath)
    (hhome : s'.home = s.home) (hfiles : SameFiles s s') :
    (s.explicitPath ≠ none → SamePod s s' → SameResults s s') ∧
    (s.explicitPath = none → s.env.get "KUBECONFIG" ≠ "" →
      s'.env.get "KUBECONFIG" = s.env.get "KUBECONFIG" → SamePod s s' → SameResults s s') ∧
    (s'.env.get "KUBECONFIG" = s.env.get "KUBECONFIG" → s'.homeFile = s.homeFile →
      s.HasContent → SameResults s s') ∧
    (∀ ps, s.paths = .ok ps → ∀ P ∈ ps, s.Stable P.text → s.reopened P = [P.text]) := by
  refine ⟨fun hsome hpod ↦ ?_, fun hnone hne hlist hpod ↦ ?_, fun hlist hfile hcontent ↦ ?_,
    fun ps hps P hP hstable ↦ reopened_of_stable hps hP hstable⟩
  · exact sameResults_of_sameRoute ⟨hexplicit, hhome, hfiles.accounts, fun h ↦ absurd h hsome,
      fun h ↦ absurd h hsome⟩ hfiles (.inl hpod)
  · exact sameResults_of_sameRoute ⟨hexplicit, hhome, hfiles.accounts, fun _ ↦ hlist,
      fun _ h ↦ absurd h hne⟩ hfiles (.inl hpod)
  · exact sameResults_of_sameRoute ⟨hexplicit, hhome, hfiles.accounts, fun _ ↦ hlist,
      fun _ _ ↦ hfile⟩ hfiles (.inr hcontent)

/-- One file, named explicitly. -/
def alone : Source where
  explicitPath := some ⟨"", ["a"]⟩
  env := []
  home := "/root"
  homeFile := .ofText defaultHomeFile
  account := .ofText defaultAccount
  files := { entries := [(["a"], .file teamFile)] }

/-- The same file, and others in the environment and below the home directory. -/
def crowded : Source where
  explicitPath := some ⟨"", ["a"]⟩
  env := [("KUBECONFIG", "b:c")]
  home := "/root"
  homeFile := .ofText "b"
  account := .ofText defaultAccount
  files := { entries := [(["b"], .folder), (["a"], .file teamFile)] }

theorem activeNamespace_priority_crowded :
    (crowded.explicitPath = alone.explicitPath ∧ crowded.home = alone.home ∧
      SameFiles alone crowded) ∧
    alone.explicitPath ≠ none ∧ SamePod alone crowded ∧ SameResults alone crowded ∧
      alone.activeNamespace.result = .ok "team-a" := by
  have hfind : FindsSame alone crowded "a" := by decide
  have hpaths : alone.paths = .ok [⟨"", ["a"]⟩] := eq_ok_of_toOption (by decide)
  have htext : (⟨"", ["a"]⟩ : Path).text = "a" := by decide
  have hcandidates : alone.candidates = [⟨"", ["a"]⟩] := rfl
  have hexpand : alone.expand ⟨"", ["a"]⟩ = .ok ⟨"", ["a"]⟩ := by rfl
  have hfiles : SameFiles alone crowded := by
    refine ⟨rfl, rfl, ?_, ?_⟩
    · intro p hp P hP
      rw [hcandidates] at hp
      rw [List.mem_singleton.mp hp] at hP
      cases hexpand.symm.trans hP
      rw [htext]
      exact hfind
    · intro ps hps P hP name hname
      cases hpaths.symm.trans hps
      have hreopened : alone.reopened ⟨"", ["a"]⟩ = ["a"] := by decide
      rw [List.mem_singleton.mp hP, hreopened] at hname
      rw [List.mem_singleton.mp hname]
      exact hfind
  have hpod : SamePod alone crowded :=
    ⟨rfl, rfl, rfl, rfl, by decide, by decide⟩
  have hexplicit : crowded.explicitPath = alone.explicitPath := rfl
  have hhome : crowded.home = alone.home := rfl
  have hsome : alone.explicitPath ≠ none := Option.some_ne_none _
  exact ⟨⟨hexplicit, hhome, hfiles⟩, hsome, hpod,
    (activeNamespace_priority hexplicit hhome hfiles).1 hsome hpod,
    eq_ok_of_toOption (by decide +kernel)⟩

end Source

end Kubeconfig

end GatewayPrint
