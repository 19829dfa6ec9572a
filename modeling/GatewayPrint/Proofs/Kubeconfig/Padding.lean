import GatewayPrint.Proofs.Kubeconfig.Priority
import GatewayPrint.Proofs.Kubeconfig.SameFile

/-!
# Entries of the list that add nothing

An entry of the list in the environment adds nothing when it is empty, when nothing is at its place,
when it leads to a file that says nothing, or when an entry before it leads to the same place. A
list that is padded with such entries finds the same files, apart from some that say nothing
(`listed_padded`). So the same files are merged in the same order, and the same fault comes first.

One thing is not the same. Where nothing is found the pod is asked at once, and where only files
are found that say nothing it is asked after reading. A look that does not get to its token is
reported in two ways then, and padding makes a difference just where it turns the one into the other
(`activeNamespace_padded`).
-/

namespace GatewayPrint.Kubeconfig

open Outcome

/-- The entries of a list, empty ones included. -/
def entriesIn (list : String) : List String := (Text.splitOn ':' list.toList).map String.ofList

/-- The entries that are not empty. -/
def named (entries : List String) : List String := entries.filter (· ≠ "")

theorem named_cons {name : String} (h : name ≠ "") (entries : List String) :
    named (name :: entries) = name :: named entries :=
  List.filter_cons_of_pos (by simpa using h)

/-- Empty entries do not count. -/
theorem namesIn_eq_named (list : String) : Merged.namesIn list = named (entriesIn list) := by
  rw [Merged.namesIn, named, entriesIn, List.filter_map]
  refine congrArg (List.map String.ofList) (List.filter_congr fun p _ ↦ ?_)
  rw [Function.comp_apply, Bool.eq_iff_iff]
  simp

namespace Source

variable {s : Source} {before names padded : List String} {name : String} {P : Path} {there : Bool}
  {found found' ps ps' : List Path}

/-! ## Padding -/

/-- An entry that adds nothing to a list in which other entries stand before it. -/
inductive AddsNothing (s : Source) (before : List String) (name : String) : Prop where
  | empty (h : name = "")
  /-- Nothing is at the place. -/
  | missing {P : Path} (hP : s.expand (.ofText name) = .ok P) (h : s.exists? P = .ok false)
  /-- A file is at the place that can be read and has no content, or only comments. -/
  | blank {P : Path} {content : List UInt8} (hP : s.expand (.ofText name) = .ok P)
      (hfile : s.files.find P.text = .file content) (h : s.isBlank P = .ok true)
  /-- An entry before leads to the same place. -/
  | repeated {earlier : String} (hmem : earlier ∈ before) (hne : earlier ≠ "")
      (h : s.expand (.ofText name) = s.expand (.ofText earlier))

/-- A list of entries that is padded, after other entries, with entries that add nothing. -/
inductive Padded (s : Source) : List String → List String → List String → Prop where
  | nil (before : List String) : Padded s before [] []
  | keep {before names padded : List String} (name : String)
      (h : Padded s (before ++ [name]) names padded) :
      Padded s before (name :: names) (name :: padded)
  | add {before names padded : List String} {name : String} (hname : s.AddsNothing before name)
      (h : Padded s (before ++ [name]) names padded) : Padded s before names (name :: padded)

/-! ## What is found -/

/-- Whether a file can be read and says nothing. -/
def saysNothing (s : Source) (P : Path) : Bool :=
  match s.isBlank P with
  | .ok blank => blank
  | .error _ => false

/-- The files that say something, or cannot be read. -/
def speaking (s : Source) (ps : List Path) : List Path := ps.filter fun P ↦ !s.saysNothing P

/-- The files that have been found after a look at a place. -/
def noted (there : Bool) (P : Path) (found : List Path) : List Path :=
  if there && !found.contains P then found ++ [P] else found

theorem saysNothing_of_isBlank (h : s.isBlank P = .ok true) : s.saysNothing P = true := by
  rw [saysNothing, h]

theorem listed_cons (hP : s.expand (.ofText name) = .ok P) (hthere : s.exists? P = .ok there)
    (names : List String) (found : List Path) :
    s.listed (name :: names) found = s.listed names (noted there P found) := by
  rw [listed, hP, ok_bind, hthere, ok_bind, noted]

theorem subset_noted (there : Bool) (P : Path) (found : List Path) :
    found ⊆ noted there P found := by
  rw [noted]
  split
  · exact List.subset_append_left found [P]
  · exact List.Subset.refl found

theorem mem_noted (P : Path) (found : List Path) : P ∈ noted true P found := by
  rw [noted, Bool.true_and]
  split
  · exact List.mem_append_right found List.mem_cons_self
  · next h => simpa using h

/-- A file that says nothing, or has been found already, is not one more that speaks. -/
theorem speaking_noted (h : there = true → P ∈ found ∨ s.saysNothing P = true) :
    s.speaking (noted there P found) = s.speaking found := by
  rw [noted]
  split
  · next hnew =>
    obtain ⟨hthere, hfound⟩ := Bool.and_eq_true_iff.mp hnew
    have hP : s.saysNothing P = true := by
      refine (h hthere).resolve_left fun hmem ↦ ?_
      simp [hmem] at hfound
    rw [speaking, speaking, List.filter_append, List.filter_singleton, hP]
    exact List.append_nil _
  · rfl

/-- What has been found after some entries of a padded list, beside what has been found without the
padding: the same, apart from files that say nothing. Every entry led to nothing or to a file that
has been found. -/
structure Tracks (s : Source) (before : List String) (found found' : List Path) : Prop where
  subset : found ⊆ found'
  speaking : s.speaking found' = s.speaking found
  led : ∀ name ∈ before, name ≠ "" → ∃ P there, s.expand (.ofText name) = .ok P ∧
    s.exists? P = .ok there ∧ (there = true → P ∈ found')

namespace Tracks

theorem empty (h : s.Tracks before found found') : s.Tracks (before ++ [""]) found found' where
  subset := h.subset
  speaking := h.speaking
  led := by
    intro n hn hne
    rcases List.mem_append.mp hn with hn | hn
    · exact h.led n hn hne
    · exact absurd (List.mem_singleton.mp hn) hne

theorem led_noted (h : s.Tracks before found found') (hP : s.expand (.ofText name) = .ok P)
    (hthere : s.exists? P = .ok there) :
    ∀ n ∈ before ++ [name], n ≠ "" → ∃ Q b, s.expand (.ofText n) = .ok Q ∧
      s.exists? Q = .ok b ∧ (b = true → Q ∈ noted there P found') := by
  intro n hn hne
  rcases List.mem_append.mp hn with hn | hn
  · obtain ⟨Q, b, hQ, hb, hmem⟩ := h.led n hn hne
    exact ⟨Q, b, hQ, hb, fun htrue ↦ subset_noted there P found' (hmem htrue)⟩
  · rw [List.mem_singleton.mp hn]
    refine ⟨P, there, hP, hthere, ?_⟩
    rintro rfl
    exact mem_noted P found'

/-- An entry of both lists. Only a file that says nothing can have been found by the padding
alone. -/
theorem keep (h : s.Tracks before found found') (hP : s.expand (.ofText name) = .ok P)
    (hthere : s.exists? P = .ok there) :
    s.Tracks (before ++ [name]) (noted there P found) (noted there P found') where
  subset := by
    intro Q hQ
    rw [noted] at hQ
    split at hQ
    · next hnew =>
      rcases List.mem_append.mp hQ with hQ | hQ
      · exact subset_noted there P found' (h.subset hQ)
      · rw [List.mem_singleton.mp hQ, (Bool.and_eq_true_iff.mp hnew).1]
        exact mem_noted P found'
    · exact subset_noted there P found' (h.subset hQ)
  speaking := by
    -- A file that the padding has brought in already is not added again. It is missing in the other
    -- list only if it says nothing, and then it does not count there either.
    by_cases hmem : P ∈ found'
    · have hold : P ∈ found ∨ s.saysNothing P = true := by
        by_cases hsays : s.saysNothing P = true
        · exact .inr hsays
        · have hspeaks : P ∈ s.speaking found' := List.mem_filter.mpr ⟨hmem, by simpa using hsays⟩
          rw [h.speaking] at hspeaks
          exact .inl (List.mem_filter.mp hspeaks).1
      rw [speaking_noted fun _ ↦ .inl hmem, speaking_noted fun _ ↦ hold, h.speaking]
    · have hnot : P ∉ found := fun hP ↦ hmem (h.subset hP)
      have hnew : ∀ l : List Path, P ∉ l → noted there P l = l ++ if there then [P] else [] := by
        intro l hl
        rw [noted, List.contains_eq_mem, decide_eq_false hl, Bool.not_false, Bool.and_true]
        split
        · rfl
        · exact (List.append_nil l).symm
      have happend : ∀ l : List Path, s.speaking (l ++ if there then [P] else [])
          = s.speaking l ++ s.speaking (if there then [P] else []) :=
        fun l ↦ List.filter_append l _
      rw [hnew found' hmem, hnew found hnot, happend, happend, h.speaking]
  led := h.led_noted hP hthere

theorem add (h : s.Tracks before found found') (hP : s.expand (.ofText name) = .ok P)
    (hthere : s.exists? P = .ok there)
    (hquiet : there = true → P ∈ found' ∨ s.saysNothing P = true) :
    s.Tracks (before ++ [name]) found (noted there P found') where
  subset := fun _ hQ ↦ subset_noted there P found' (h.subset hQ)
  speaking := (speaking_noted hquiet).trans h.speaking
  led := h.led_noted hP hthere

/-- An entry that adds nothing leads to a place where nothing is, or that has been found, or to a
file that says nothing. -/
theorem exists_of_addsNothing (h : s.Tracks before found found') (hname : s.AddsNothing before name)
    (hne : name ≠ "") : ∃ P there, s.expand (.ofText name) = .ok P ∧ s.exists? P = .ok there ∧
      (there = true → P ∈ found' ∨ s.saysNothing P = true) := by
  rcases hname with hempty | ⟨hP, hnone⟩ | ⟨hP, hfile, hblank⟩ | ⟨hmem, hearlier, hsame⟩
  · exact absurd hempty hne
  · exact ⟨_, false, hP, hnone, fun h ↦ absurd h Bool.false_ne_true⟩
  · refine ⟨_, true, hP, ?_, fun _ ↦ .inr (saysNothing_of_isBlank hblank)⟩
    rw [exists?, hfile]
  · obtain ⟨P, there, hP, hthere, hfound⟩ := h.led _ hmem hearlier
    exact ⟨P, there, hsame.trans hP, hthere, fun htrue ↦ .inl (hfound htrue)⟩

end Tracks

/-- Two looks for files that fail in the same way, or find the same files apart from files that say
nothing. -/
inductive FindsAlike (s : Source) : Except Fault (List Path) → Except Fault (List Path) → Prop where
  | error (f : Fault) : FindsAlike s (.error f) (.error f)
  | ok {ps ps' : List Path} (subset : ps ⊆ ps') (speaking : s.speaking ps' = s.speaking ps) :
      FindsAlike s (.ok ps) (.ok ps')

/-- **A padded list** finds the same files, apart from files that say nothing, or fails in the same
way. -/
theorem listed_padded (h : s.Padded before names padded) (ht : s.Tracks before found found') :
    s.FindsAlike (s.listed (named names) found) (s.listed (named padded) found') := by
  -- The entries before are those that both looks have passed, so that a repetition is known.
  induction h generalizing found found' with
  | nil before => exact .ok ht.subset ht.speaking
  | keep name _ ih =>
    by_cases hname : name = ""
    · subst hname
      exact ih ht.empty
    · rw [named_cons hname, named_cons hname, listed, listed]
      cases hP : s.expand (.ofText name) with
      | error f => exact .error f
      | ok P =>
        rw [ok_bind, ok_bind]
        cases hthere : s.exists? P with
        | error f => exact .error f
        | ok there => exact ih (ht.keep hP hthere)
  | @add before names padded name hname _ ih =>
    by_cases hempty : name = ""
    · subst hempty
      exact ih ht.empty
    · obtain ⟨P, there, hP, hthere, hquiet⟩ := ht.exists_of_addsNothing hname hempty
      rw [named_cons hempty, listed_cons hP hthere]
      exact ih (ht.add hP hthere hquiet)

/-! ## What is read -/

/-- Files that say nothing leave no trace in what is read. -/
theorem written_speaking (s : Source) (ps : List Path) :
    s.written (s.speaking ps) = s.written ps := by
  induction ps with
  | nil => rfl
  | cons P rest ih =>
    by_cases hP : s.isBlank P = .ok true
    · have hdrop : s.speaking (P :: rest) = s.speaking rest :=
        List.filter_cons_of_neg (by simp [saysNothing_of_isBlank hP])
      rw [hdrop, ih, written, hP, ok_bind]
      cases s.written rest <;> rfl
    · have hkeep : s.speaking (P :: rest) = P :: s.speaking rest := by
        refine List.filter_cons_of_pos ?_
        rw [saysNothing]
        split
        · next blank hblank => simpa [hblank] using hP
        · rfl
      rw [hkeep, written, written, ih]

theorem written_of_speaking_eq (h : s.speaking ps' = s.speaking ps) :
    s.written ps' = s.written ps := by
  rw [← written_speaking, h, written_speaking]

/-! ## The outcome -/

theorem paths_listed (hexplicit : s.explicitPath = none) (hlist : s.env.get "KUBECONFIG" ≠ "") :
    s.paths = s.listed (named (entriesIn (s.env.get "KUBECONFIG"))) [] := by
  rw [paths, hexplicit, ← namesIn_eq_named]
  exact if_pos (by simpa using hlist)

/-- What the list is does not change what is at a place. -/
theorem listed_listing (t : String) (names : List String) (found : List Path) :
    (s.listing t).listed names found = s.listed names found := by
  apply listed_congr
  · rfl
  · rfl
  · exact fun _ _ _ _ ↦ rfl

/-- Whether the program runs in a pod is known unless a look does not get to the token. -/
theorem inCluster_cases (s : Source) :
    (s.TokenKnown ∧ ∃ inside, s.inCluster = .ok inside) ∨
      (¬s.TokenKnown ∧ ∃ o, s.files.find (s.account.append "token").text = .barred o ∧
        s.inCluster = .error (.unseen o (s.account.append "token").text)) := by
  rw [inCluster, TokenKnown, ← or_assoc, ← Bool.or_eq_true]
  by_cases hasked : ((s.env.get "KUBERNETES_SERVICE_HOST").isEmpty ||
      (s.env.get "KUBERNETES_SERVICE_PORT").isEmpty) = true
  · rw [if_pos hasked]
    exact .inl ⟨.inl hasked, false, rfl⟩
  · rw [if_neg hasked, or_iff_right hasked]
    rcases s.lookEnds_isFile (s.account.append "token") with ⟨o, ho, hl⟩ | hseen
    · exact .inr ⟨fun hsight ↦ hsight o ho, o, ho, hl⟩
    · exact .inl hseen

/-- What the pod says does not depend on when it is asked, unless a look does not get to the
token. -/
theorem podNamespace_afterReading (h : s.TokenKnown) :
    s.podNamespace.mapError afterReading = s.podNamespace := by
  rcases s.inCluster_cases with ⟨-, inside, hinside⟩ | ⟨hnot, -⟩
  · rw [podNamespace_eq, hinside]
    exact podAnswer_afterReading s inside
  · exact absurd h hnot

private theorem podNamespace_of_not_tokenKnown (h : ¬s.TokenKnown) :
    ∃ o, s.files.find (s.account.append "token").text = .barred o ∧
      s.podNamespace = .error (.unseen o (s.account.append "token").text) := by
  rcases s.inCluster_cases with ⟨hknown, -⟩ | ⟨-, o, ho, htoken⟩
  · exact absurd hknown h
  · exact ⟨o, ho, by rw [podNamespace_eq, htoken, error_bind]⟩

/-- Only files of the padding are found, and a look does not get to the token of the pod. -/
structure FindsPadding (s s' : Source) : Prop where
  none_found : s.paths = .ok []
  some_found : s'.paths ≠ .ok []
  token : ¬s.TokenKnown

/-- The look-up after the files that count are known. -/
def lookUpIn (s : Source) (paths : List Path) : Except Fault String :=
  if paths.isEmpty then s.podNamespace
  else do
    let written ← s.written paths
    if written.isEmpty then s.podNamespace.mapError afterReading
    else s.namespaceIn (written.map Path.text)

theorem lookUp_eq_bind (s : Source) : s.lookUp = s.paths >>= s.lookUpIn := rfl

/-- Where the same files speak, the look-up ends alike, unless files are found only by one side and
a look does not get to the token. -/
theorem lookUpIn_of_speaking_eq (hsub : ps ⊆ ps') (h : s.speaking ps' = s.speaking ps) :
    (s.lookUpIn ps' = s.lookUpIn ps ∧ ¬(ps = [] ∧ ps' ≠ [])) ∨
      (ps = [] ∧ ps' ≠ [] ∧ s.lookUpIn ps' = s.podNamespace.mapError afterReading) := by
  by_cases hps : ps = []
  · subst hps
    by_cases hps' : ps' = []
    · exact .inl ⟨by rw [hps'], fun h ↦ h.2 hps'⟩
    · refine .inr ⟨rfl, hps', ?_⟩
      rw [lookUpIn, if_neg (by simpa using hps'), written_of_speaking_eq h]
      rfl
  · have hps' : ps' ≠ [] := by
      rintro rfl
      exact hps (List.subset_nil.mp hsub)
    rw [lookUpIn, lookUpIn, if_neg (by simpa using hps'), if_neg (by simpa using hps),
      written_of_speaking_eq h]
    exact .inl ⟨rfl, fun h ↦ hps h.1⟩

private theorem lookUpIn_listing (s : Source) (t : String) :
    (s.listing t).lookUpIn = s.lookUpIn := by
  funext ps
  have hpod : (s.listing t).podNamespace = s.podNamespace :=
    podNamespace_set s (some t) none s.homeFile
  have hsame : ∀ P ∈ ps, FindsSame s (s.listing t) P.text := fun _ _ ↦ rfl
  have hwritten : (s.listing t).written ps = s.written ps := written_congr rfl hsame
  rw [lookUpIn, lookUpIn, hpod, hwritten]
  rfl

/-- Where two looks find alike, the look-up ends alike, unless files are found by the second one
alone. Then the pod is asked at once by the first one and after reading by the second one. -/
theorem lookUp_cases {s' : Source} (h : s.FindsAlike s.paths s'.paths)
    (hin : s'.lookUpIn = s.lookUpIn) :
    (s'.lookUp = s.lookUp ∧ ¬(s.paths = .ok [] ∧ s'.paths ≠ .ok [])) ∨
      (s.paths = .ok [] ∧ s'.paths ≠ .ok [] ∧ s.lookUp = s.podNamespace ∧
        s'.lookUp = s.podNamespace.mapError afterReading) := by
  rw [lookUp_eq_bind, lookUp_eq_bind, hin]
  generalize s.paths = x at h ⊢
  generalize s'.paths = x' at h ⊢
  rcases h with f | ⟨hsub, hspeaking⟩
  · exact .inl ⟨rfl, fun h ↦ nomatch h.1⟩
  · simp only [ok_bind, Except.ok.injEq, ne_eq]
    rcases lookUpIn_of_speaking_eq hsub hspeaking with ⟨hlook, hnot⟩ | ⟨hnone, hsome, hlook⟩
    · exact .inl ⟨hlook, hnot⟩
    · refine .inr ⟨hnone, hsome, ?_, hlook⟩
      rw [hnone]
      rfl

/-- A list without entries that count has an empty one in it, so padding does not lead to no
list. -/
theorem ne_empty_of_padded {list list' : String} (hlist : list ≠ "")
    (h : s.Padded [] (entriesIn list) (entriesIn list')) : list' ≠ "" := by
  rintro rfl
  have hjoin : Text.joinWith ':' ((entriesIn list).map String.toList) = list.toList := by
    have hmap : (entriesIn list).map String.toList = Text.splitOn ':' list.toList := by
      rw [entriesIn, List.map_map]
      exact (List.map_congr_left fun p _ ↦ String.toList_ofList).trans (List.map_id _)
    rw [hmap, Text.joinWith_splitOn]
  have hempty : entriesIn "" = [""] := rfl
  rw [hempty] at h
  generalize entriesIn list = names at h hjoin
  cases h with
  | keep _ h =>
    cases h
    exact hlist (String.toList_inj.mp hjoin.symm)
  | add _ h =>
    cases h
    exact hlist (String.toList_inj.mp hjoin.symm)

/-- **Padding is not heard.** Let the environment list files, and pad the list with entries that add
nothing: empty ones, places where nothing is, files that say nothing, and places that an entry
before leads to. The look-up ends with the same namespace or the same failure, unless it finds files
of the padding and no others while a look does not get to the token of the pod. Then the error is
raised as it is without the padding, and as one of kubeconfig with it. -/
theorem activeNamespace_padded {list : String} (hexplicit : s.explicitPath = none)
    (hlist : s.env.get "KUBECONFIG" ≠ "")
    (hpad : s.Padded [] (entriesIn (s.env.get "KUBECONFIG")) (entriesIn list)) :
    ((s.listing list).activeNamespace.result = s.activeNamespace.result ↔
      ¬s.FindsPadding (s.listing list)) ∧
    (s.FindsPadding (s.listing list) →
      ∃ o, s.files.find (s.account.append "token").text = .barred o ∧
        let e := o.error.about (s.account.append "token").text
        s.activeNamespace.result = .error (.foreign e) ∧
        (s.listing list).activeNamespace.result = .error (.configLoad
          ("Cannot read kubeconfig: " ++ e.message) none (some e))) := by
  have hlist' : (s.listing list).env.get "KUBECONFIG" = list :=
    s.env.get_set_self "KUBECONFIG" list
  have hpaths : (s.listing list).paths = s.listed (named (entriesIn list)) [] := by
    have hne := ne_empty_of_padded hlist hpad
    rw [paths_listed rfl (by rwa [hlist']), hlist', listed_listing]
  have halike := listed_padded hpad ⟨List.Subset.refl [], rfl, fun _ h ↦ absurd h List.not_mem_nil⟩
  rw [← paths_listed hexplicit hlist, ← hpaths] at halike
  rw [result_activeNamespace, result_activeNamespace]
  rcases lookUp_cases halike (lookUpIn_listing s list) with
    ⟨hlook, hnot⟩ | ⟨hnone, hsome, hlook, hlook'⟩
  · have hnot : ¬s.FindsPadding (s.listing list) := fun h ↦ hnot ⟨h.none_found, h.some_found⟩
    rw [hlook]
    exact ⟨iff_of_true rfl hnot, fun h ↦ absurd h hnot⟩
  · rw [hlook, hlook']
    by_cases htoken : s.TokenKnown
    · have hnot : ¬s.FindsPadding (s.listing list) := fun h ↦ h.token htoken
      rw [podNamespace_afterReading htoken]
      exact ⟨iff_of_true rfl hnot, fun h ↦ absurd h hnot⟩
    · have hfinds : s.FindsPadding (s.listing list) := ⟨hnone, hsome, htoken⟩
      obtain ⟨o, ho, hpod⟩ := podNamespace_of_not_tokenKnown htoken
      rw [hpod]
      refine ⟨iff_of_false ?_ (not_not.mpr hfinds), fun _ ↦ ⟨o, ho, rfl, rfl⟩⟩
      exact fun h ↦ nomatch Except.error.inj h

/-- A list with one file, beside which another one holds a comment. -/
def singleFile : Source where
  explicitPath := none
  env := [("KUBECONFIG", "c")]
  home := "/root"
  homeFile := .ofText defaultHomeFile
  account := .ofText defaultAccount
  files := { entries := [(["c"], .file teamFile), (["b"], .file (bytesOf "#"))] }

theorem activeNamespace_padded_everywhere :
    singleFile.explicitPath = none ∧ singleFile.env.get "KUBECONFIG" ≠ "" ∧
    singleFile.Padded [] (entriesIn (singleFile.env.get "KUBECONFIG")) (entriesIn ":b:x:c:./c:b:") ∧
    ¬singleFile.FindsPadding (singleFile.listing ":b:x:c:./c:b:") ∧
    (singleFile.listing ":b:x:c:./c:b:").activeNamespace.result
      = singleFile.activeNamespace.result ∧
    singleFile.activeNamespace.result = .ok "team-a" := by
  have hb : singleFile.expand (.ofText "b") = .ok ⟨"", ["b"]⟩ := eq_ok_of_toOption (by decide)
  have hx : singleFile.expand (.ofText "x") = .ok ⟨"", ["x"]⟩ := eq_ok_of_toOption (by decide)
  have hc : singleFile.expand (.ofText "./c") = singleFile.expand (.ofText "c") := rfl
  have hfile : singleFile.files.find (⟨"", ["b"]⟩ : Path).text = .file [35] := by decide
  have hblank : singleFile.isBlank ⟨"", ["b"]⟩ = .ok true := eq_ok_of_toOption (by decide)
  have hmissing : singleFile.exists? ⟨"", ["x"]⟩ = .ok false := eq_ok_of_toOption (by decide)
  have hlist : singleFile.env.get "KUBECONFIG" ≠ "" := by decide
  have hpad : singleFile.Padded [] (entriesIn (singleFile.env.get "KUBECONFIG"))
      (entriesIn ":b:x:c:./c:b:") :=
    .add (.empty rfl) <| .add (.blank hb hfile hblank) <| .add (.missing hx hmissing) <|
      .keep "c" <| .add (.repeated (by decide) (by decide) hc) <|
      .add (.repeated (by decide) (by decide) rfl) <| .add (.empty rfl) (.nil _)
  have hfinds : ¬singleFile.FindsPadding (singleFile.listing ":b:x:c:./c:b:") :=
    fun h ↦ h.token (.inl rfl)
  exact ⟨rfl, hlist, hpad, hfinds, (activeNamespace_padded rfl hlist hpad).1.mpr hfinds,
    eq_ok_of_toOption (by decide +kernel)⟩

end Source

end GatewayPrint.Kubeconfig
