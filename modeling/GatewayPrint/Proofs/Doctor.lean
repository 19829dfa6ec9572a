import GatewayPrint.Proofs.PrintCommand

/-!
# The doctor and the print command

The doctor looks for the files, for the pod, and for the namespace one after another, and turns a
bad kubeconfig into a failed check; the print command only looks for the namespace. Both come to the
same answer, because a fault that the doctor meets on the way is the fault of the look-up: the
look-up goes through the same stages first.
-/

namespace GatewayPrint

open Outcome Kubeconfig

namespace Doctor

variable {s : Source} {i : Installation} {f : Failure} {n : String}

/-! ## Checks -/

/-- The word of a failed check is in its status, and in no other one. -/
theorem isFailure_iff (status : Status) :
    status.isFailure = true ↔ "FAIL".toList <:+: status.markup.toList := by
  cases status <;> decide +kernel

theorem atLeast_iff (xs ys : List Nat) : atLeast xs ys = true ↔ ¬xs < ys := by
  induction xs generalizing ys with
  | nil => cases ys <;> simp [atLeast]
  | cons x xs ih =>
    cases ys with
    | nil => simp [atLeast]
    | cons y ys =>
      rw [atLeast, List.cons_lt_cons_iff, Bool.or_eq_true, Bool.and_eq_true, decide_eq_true_eq,
        beq_iff_eq, ih]
      constructor
      · rintro (h | ⟨rfl, h⟩) (h' | ⟨h', h''⟩)
        · omega
        · omega
        · omega
        · exact h h''
      · intro h
        rcases Nat.lt_trichotomy y x with h' | rfl | h'
        · exact .inl h'
        · exact .inr ⟨rfl, fun h'' ↦ h (.inr ⟨rfl, h''⟩)⟩
        · exact absurd (.inl h') h

private theorem isFailure_interpreterCheck :
    (interpreterCheck i).status.isFailure = true ↔ i.interpreter.take 2 < [3, 10] := by
  rw [interpreterCheck]
  dsimp only
  split
  · next h => exact iff_of_false Bool.false_ne_true ((atLeast_iff _ _).mp h)
  · next h => exact iff_of_true rfl (Decidable.not_not.mp fun h' ↦ h ((atLeast_iff _ _).mpr h'))

private theorem isFailure_packageCheck {name : String} :
    (packageCheck i name).status.isFailure = true ↔ i.packages.lookup name = none := by
  rw [packageCheck]
  cases i.packages.lookup name <;> simp [Status.isFailure]

private theorem isFailure_programCheck : programCheck.status.isFailure = false := rfl

private theorem isFailure_engineCheck : (engineCheck i).status.isFailure = false := by
  rw [engineCheck]
  split <;> rfl

/-! ## The files and the namespace -/

/-- A look at the token of the pod never finds a bad kubeconfig. -/
theorem isConfigFailure_of_inCluster {g : Fault} (h : s.inCluster = .error g) :
    isConfigFailure g.failure = false := by
  rw [Source.inCluster] at h
  split at h
  · cases h
  · rw [Source.isFile] at h
    split at h
    all_goals cases h
    rfl

/-- The check of the files is good or a warning; it fails when the look-up does, without files. -/
theorem filesCheck_cases (s : Source) (paths : List Path) :
    (∃ c, filesCheck s paths = .ok c ∧ c.label = "kubeconfig" ∧ c.status.isFailure = false) ∨
      ∃ g, filesCheck s paths = .error g.failure ∧ paths = [] ∧ s.inCluster = .error g := by
  rw [filesCheck]
  cases paths with
  | cons p rest => exact .inl ⟨_, rfl, rfl, rfl⟩
  | nil =>
    rw [if_neg (by simp)]
    cases h : s.inCluster with
    | error g => exact .inr ⟨g, rfl, rfl, rfl⟩
    | ok inside => cases inside <;> exact .inl ⟨_, rfl, rfl, rfl⟩

/-- What the check of a namespace shows. -/
def shown (n : String) : String := if n = "" then "(all namespaces)" else n

private theorem namespaceCheck_of_ok (h : s.activeNamespace.result = .ok n) :
    (namespaceCheck s).result = .ok ⟨"namespace", shown n, .ok⟩ := by
  rw [namespaceCheck, h, shown]
  simp only [String.isEmpty_iff]

private theorem namespaceCheck_of_error (h : s.activeNamespace.result = .error f) :
    (namespaceCheck s).result =
      if isConfigFailure f then .ok ⟨"namespace", f.message, .fail⟩ else .error f := by
  rw [namespaceCheck, h]

/-- Checks of the files and of the namespace that tell a bad kubeconfig: one of them fails, and it
shows the error. -/
def Tells (cs : List Check) (f : Failure) : Prop :=
  cs = [⟨"kubeconfig", f.message, .fail⟩] ∨
    ∃ files, cs = [files, ⟨"namespace", f.message, .fail⟩] ∧ files.label = "kubeconfig" ∧
      files.status.isFailure = false

/-- **The checks of the files and of the namespace** by the outcome of the look-up. -/
theorem kubeconfigChecks_eq (s : Source) :
    match s.activeNamespace.result with
    | .ok n => ∃ files, (kubeconfigChecks s).result = .ok [files, ⟨"namespace", shown n, .ok⟩] ∧
        files.label = "kubeconfig" ∧ files.status.isFailure = false
    | .error f =>
      if isConfigFailure f then ∃ cs, (kubeconfigChecks s).result = .ok cs ∧ Tells cs f
      else (kubeconfigChecks s).result = .error f := by
  rw [kubeconfigChecks]
  cases hp : s.paths with
  | error g =>
    -- The look-up needs the paths as well, so it fails by the same fault.
    have hlooked : s.activeNamespace.result = .error g.failure := by
      rw [Source.result_activeNamespace, Source.lookUp, hp]
      rfl
    rw [hlooked]
    dsimp only
    split
    · exact ⟨_, rfl, .inl rfl⟩
    · rfl
  | ok paths =>
    dsimp only
    rcases filesCheck_cases s paths with ⟨files, hfiles, hlabel, hgood⟩ | ⟨g, hg, rfl, hin⟩
    · have hchecks : (do
          let files ← Logged.lift (filesCheck s paths)
          let ns ← namespaceCheck s
          return [files, ns] : Logged (List Check)).result
            = (namespaceCheck s).result >>= fun ns ↦ .ok [files, ns] := by
        rw [Logged.result_bind, Logged.lift, hfiles, ok_bind, Logged.result_bind]
        rfl
      rw [hchecks]
      cases hr : s.activeNamespace.result with
      | ok n => exact ⟨files, by rw [namespaceCheck_of_ok hr, ok_bind], hlabel, hgood⟩
      | error f =>
        rw [namespaceCheck_of_error hr]
        dsimp only
        split
        · exact ⟨_, rfl, .inr ⟨files, rfl, hlabel, hgood⟩⟩
        · rfl
    · have hlooked : s.activeNamespace.result = .error g.failure := by
        rw [Source.result_activeNamespace, Source.lookUp, hp, ok_bind, if_pos List.isEmpty_nil,
          Source.podNamespace, hin]
        rfl
      rw [hlooked, Logged.result_bind, Logged.lift, hg]
      dsimp only
      rw [isConfigFailure_of_inCluster hin]
      rfl

/-! ## All checks -/

theorem result_checks (i : Installation) (s : Source) :
    (checks i s).result = (kubeconfigChecks s).result.map fun config ↦
      [programCheck, interpreterCheck i, packageCheck i "kubernetes", packageCheck i "PyYAML"]
        ++ config ++ [engineCheck i] := by
  rw [checks, Logged.result_bind]
  cases (kubeconfigChecks s).result <;> rfl

/-- The installation is too old or incomplete. -/
def IsLacking (i : Installation) : Prop :=
  i.interpreter.take 2 < [3, 10] ∨ ∃ name ∈ ["kubernetes", "PyYAML"], i.packages.lookup name = none

theorem anyFailure_iff (i : Installation) (config : List Check) :
    anyFailure ([programCheck, interpreterCheck i, packageCheck i "kubernetes",
      packageCheck i "PyYAML"] ++ config ++ [engineCheck i]) = true ↔
        IsLacking i ∨ anyFailure config = true := by
  simp only [anyFailure, IsLacking, List.any_append, List.any_cons, List.any_nil, Bool.or_eq_true,
    Bool.or_false, Bool.false_or, isFailure_programCheck, isFailure_engineCheck,
    isFailure_interpreterCheck, isFailure_packageCheck, List.mem_cons, List.not_mem_nil, or_false,
    exists_eq_or_imp, exists_eq_left]

theorem label_packageCheck (i : Installation) (name : String) :
    (packageCheck i name).label = name := by
  rw [packageCheck]
  split <;> rfl

theorem label_engineCheck (i : Installation) : (engineCheck i).label = "engines" := by
  rw [engineCheck]
  split <;> rfl

/-- Among all checks, those of the files and of the namespace are known by their labels. -/
theorem filter_checks (i : Installation) (config : List Check) {p : Check → Bool}
    (hp : ∀ c, p c = true → c.label ∈ ["kubeconfig", "namespace"]) :
    ([programCheck, interpreterCheck i, packageCheck i "kubernetes", packageCheck i "PyYAML"]
      ++ config ++ [engineCheck i]).filter p = config.filter p := by
  have hother : ∀ c : Check, c.label ∉ ["kubeconfig", "namespace"] → p c = false := fun c hc ↦
    Bool.eq_false_iff.mpr fun h ↦ hc (hp c h)
  have hinterpreter : (interpreterCheck i).label = "Python" := rfl
  rw [List.filter_append, List.filter_append]
  simp only [List.filter_cons, List.filter_nil, hother programCheck (by decide),
    hother (interpreterCheck i) (by rw [hinterpreter]; decide),
    hother (packageCheck i "kubernetes") (by rw [label_packageCheck]; decide),
    hother (packageCheck i "PyYAML") (by rw [label_packageCheck]; decide),
    hother (engineCheck i) (by rw [label_engineCheck]; decide), Bool.false_eq_true, if_false,
    List.nil_append, List.append_nil]

end Doctor

namespace App

open CommandLine (Settings)

variable {w : Surroundings} {s p d : Settings} {format : OutputFormat} {n : String} {f : Failure}

/-! ## The print command -/

/-- Settings of a print command that leave the filter to the current context, with a known
format. -/
structure LeavesFilter (s : Settings) (format : OutputFormat) : Prop where
  format : OutputFormat.select (selector s.output) = .ok format
  scope : s.scope.text = ""
  single : s.allNamespaces = false

theorem filterOf_eq (h : LeavesFilter s format) (w : Surroundings) :
    filterOf w s = (sourceOf w s).activeNamespace.result := by
  rw [filterOf, h.single, h.scope, if_neg Bool.false_ne_true, if_pos rfl]

/-- What a print command leaves behind, by what the look-up comes to. -/
theorem print_eq (h : LeavesFilter s format) (w : Surroundings) :
    ((print w s).calls, (print w s).out, (print w s).failure) =
      match (sourceOf w s).activeNamespace.result with
      | .error f => ([], "", some f)
      | .ok n => ((called w s format n).calls, (called w s format n).out,
          (called w s format n).failure.map PrintRun.classify) := by
  have hprint := print_of_format h.format w
  rwa [filterOf_eq h] at hprint

/-! ## The doctor -/

theorem doctor_of_ok {cs : List Doctor.Check}
    (h : (Doctor.checks w.installation (sourceOf w d)).result = .ok cs) :
    (doctor w d).ending = .returned (Doctor.verdict cs) := by
  rw [sourceOf] at h
  rw [doctor, h]

theorem doctor_of_foreign {e : Foreign}
    (h : (Doctor.checks w.installation (sourceOf w d)).result = .error (.foreign e)) :
    (doctor w d).ending = .failed (.foreign e) := by
  rw [sourceOf] at h
  rw [doctor, h]
  rfl

/-- A failed look-up is a bad kubeconfig or an error of other code. -/
theorem foreign_of_not_isConfigFailure {src : Source} (h : src.activeNamespace.result = .error f)
    (hf : Doctor.isConfigFailure f = false) : ∃ e, f = .foreign e := by
  rw [Source.result_activeNamespace] at h
  obtain ⟨g, -, rfl⟩ := mapError_eq_error.mp h
  cases hg : g.isUnhandled with
  | true =>
    obtain ⟨e, he, -⟩ := Fault.failure_of_isUnhandled hg
    exact ⟨e, he⟩
  | false =>
    obtain ⟨message, hint, cause, he⟩ := Fault.failure_of_not_isUnhandled hg
    rw [he] at hf
    cases hf

/-- The checks of the files and of the namespace that fail. -/
def failing (c : Doctor.Check) : Bool :=
  ["kubeconfig", "namespace"].contains c.label && c.status.isFailure

theorem filter_failing_of_tells {config : List Doctor.Check} (h : Doctor.Tells config f) :
    ∃ label, config.filter failing = [⟨label, f.message, .fail⟩] := by
  rcases h with rfl | ⟨files, rfl, -, hgood⟩
  · exact ⟨"kubeconfig", rfl⟩
  · have hfiles : failing files = false := by rw [failing, hgood, Bool.and_false]
    refine ⟨"namespace", ?_⟩
    rw [List.filter_cons_of_neg (by rw [hfiles]; exact Bool.false_ne_true)]
    rfl

private theorem anyFailure_of_tells {config : List Doctor.Check} (h : Doctor.Tells config f) :
    Doctor.anyFailure config = true := by
  obtain ⟨label, hlabel⟩ := filter_failing_of_tells h
  have hmem : (⟨label, f.message, .fail⟩ : Doctor.Check) ∈ config :=
    (List.mem_filter.mp (hlabel ▸ List.mem_singleton_self _)).1
  exact List.any_eq_true.mpr ⟨_, hmem, rfl⟩

/-- The checks, and the failing ones among those of the files and of the namespace. -/
structure Finds (w : Surroundings) (d : Settings) (cs : List Doctor.Check) (bad : Prop) : Prop where
  checks : (Doctor.checks w.installation (sourceOf w d)).result = .ok cs
  fails : Doctor.anyFailure cs = true ↔ Doctor.IsLacking w.installation ∨ bad

/-- **The doctor after an answer** shows it. -/
theorem finds_of_answer (h : (sourceOf w d).activeNamespace.result = .ok n) :
    ∃ cs, Finds w d cs False ∧
      cs.filter (·.label == "namespace") = [⟨"namespace", Doctor.shown n, .ok⟩] := by
  have hconfig := Doctor.kubeconfigChecks_eq (sourceOf w d)
  rw [h] at hconfig
  obtain ⟨files, hconfig, hlabel, hgood⟩ := hconfig
  refine ⟨_, ⟨by rw [Doctor.result_checks, hconfig, map_ok], ?_⟩, ?_⟩
  · rw [Doctor.anyFailure_iff, Doctor.anyFailure, List.any_cons, hgood]
    exact or_congr_right (iff_of_false Bool.false_ne_true id)
  · rw [Doctor.filter_checks _ _ fun c hc ↦ by
      rw [beq_iff_eq.mp hc]
      decide]
    rw [List.filter_cons_of_neg (by rw [hlabel]; decide)]
    rfl

/-- **The doctor after a bad kubeconfig** shows its error in one failed check. -/
theorem finds_of_configFailure (h : (sourceOf w d).activeNamespace.result = .error f)
    (hf : Doctor.isConfigFailure f = true) :
    ∃ cs label, Finds w d cs True ∧ cs.filter failing = [⟨label, f.message, .fail⟩] := by
  have hconfig := Doctor.kubeconfigChecks_eq (sourceOf w d)
  rw [h] at hconfig
  dsimp only at hconfig
  rw [if_pos hf] at hconfig
  obtain ⟨config, hconfig, htells⟩ := hconfig
  obtain ⟨label, hlabel⟩ := filter_failing_of_tells htells
  refine ⟨_, label, ⟨by rw [Doctor.result_checks, hconfig, map_ok], ?_⟩, ?_⟩
  · rw [Doctor.anyFailure_iff]
    exact or_congr_right (iff_of_true (anyFailure_of_tells htells) trivial)
  · rw [Doctor.filter_checks _ _ fun c hc ↦ by
      rw [← List.contains_iff_mem]
      exact (Bool.and_eq_true_iff.mp hc).1]
    exact hlabel

/-- **The doctor after any other error** lets it through. -/
theorem checks_of_otherFailure (h : (sourceOf w d).activeNamespace.result = .error f)
    (hf : Doctor.isConfigFailure f = false) :
    (Doctor.checks w.installation (sourceOf w d)).result = .error f := by
  have hconfig := Doctor.kubeconfigChecks_eq (sourceOf w d)
  rw [h] at hconfig
  dsimp only at hconfig
  rw [hf, if_neg Bool.false_ne_true] at hconfig
  rw [Doctor.result_checks, hconfig, map_error]

/-! ## Agreement -/

private theorem verdict_eq_general {cs : List Doctor.Check} :
    Doctor.verdict cs = .general ↔ Doctor.anyFailure cs = true := by
  rw [Doctor.verdict]
  cases Doctor.anyFailure cs <;> simp

/-- The doctor fails because of the installation or because of a bad kubeconfig. -/
def IsBad (w : Surroundings) (d : Settings) : Prop :=
  Doctor.IsLacking w.installation ∨
    ∃ f, (sourceOf w d).activeNamespace.result = .error f ∧ Doctor.isConfigFailure f = true

/-- The look-up fails by an error that is not about the kubeconfig. -/
def Escapes (w : Surroundings) (d : Settings) : Prop :=
  ∃ f, (sourceOf w d).activeNamespace.result = .error f ∧ Doctor.isConfigFailure f = false

theorem doctor_ending (w : Surroundings) (d : Settings) :
    (∃ f, Escapes w d ∧ (doctor w d).ending = .failed f) ∨
      (¬Escapes w d ∧ ∃ cs, (Doctor.checks w.installation (sourceOf w d)).result = .ok cs ∧
        (doctor w d).ending = .returned (Doctor.verdict cs) ∧
        (Doctor.anyFailure cs = true ↔ IsBad w d)) := by
  rw [Escapes, IsBad]
  cases h : (sourceOf w d).activeNamespace.result with
  | ok n =>
    obtain ⟨cs, hcs, -⟩ := finds_of_answer h
    exact .inr ⟨by simp, cs, hcs.checks, doctor_of_ok hcs.checks, by simpa using hcs.fails⟩
  | error f =>
    cases hf : Doctor.isConfigFailure f with
    | true =>
      obtain ⟨cs, -, hcs, -⟩ := finds_of_configFailure h hf
      exact .inr ⟨by simp [hf], cs, hcs.checks, doctor_of_ok hcs.checks, by
        simpa [hf] using hcs.fails⟩
    | false =>
      -- Errors of other code are what the doctor does not turn into checks.
      obtain ⟨e, rfl⟩ := foreign_of_not_isConfigFailure h hf
      exact .inl ⟨_, ⟨_, rfl, hf⟩, doctor_of_foreign (checks_of_otherFailure h hf)⟩

/-- **The doctor and the print command agree**, for one kubeconfig argument.

* If the look-up gives a namespace, the doctor shows it as good, and the print command calls the
  engine with it as the filter.
* If it finds a bad kubeconfig, the doctor has exactly one failed check of the files and of the
  namespace, with the text of the error, and the print command fails by the same error.
* Any other error ends both.
* The doctor fails if and only if no error escapes and the installation is lacking or the kubeconfig
  is bad; this is what the word FAIL in the statuses says, and nothing else matters for it. -/
theorem doctor_agrees_with_print (w : Surroundings) (d : Settings) (hp : LeavesFilter p format)
    (hk : p.kubeconfig = d.kubeconfig) :
    let looked := (sourceOf w d).activeNamespace.result
    let checks := (Doctor.checks w.installation (sourceOf w d)).result
    let printed := ((print w p).calls, (print w p).out, (print w p).failure)
    (∀ n, looked = .ok n →
      (∃ cs, checks = .ok cs ∧ cs.filter (·.label == "namespace")
        = [⟨"namespace", if n = "" then "(all namespaces)" else n, .ok⟩]) ∧
      printed = ((called w p format n).calls, (called w p format n).out,
        (called w p format n).failure.map PrintRun.classify)) ∧
    (∀ f, looked = .error f → printed = ([], "", some f) ∧
      if Doctor.isConfigFailure f then
        ∃ cs label, checks = .ok cs ∧ cs.filter failing = [⟨label, f.message, .fail⟩]
      else checks = .error f ∧ (doctor w d).ending = .failed f) ∧
    ((doctor w d).ending = .returned .general ↔ ¬Escapes w d ∧ IsBad w d) ∧
    ((doctor w d).ending = .returned .success ↔ ¬Escapes w d ∧ ¬IsBad w d) ∧
    (∀ cs, checks = .ok cs → (IsBad w d ↔
      ∃ c ∈ cs, "FAIL".toList <:+: c.status.markup.toList)) := by
  have hsource : sourceOf w p = sourceOf w d := by rw [sourceOf, sourceOf, hk]
  have hprint := print_eq hp w
  rw [hsource] at hprint
  refine ⟨fun n hn ↦ ?_, fun f hf ↦ ?_, ?_, ?_, fun cs hcs ↦ ?_⟩
  · obtain ⟨cs, hcs, hrow⟩ := finds_of_answer hn
    rw [hn] at hprint
    exact ⟨⟨cs, hcs.checks, hrow⟩, hprint⟩
  · rw [hf] at hprint
    refine ⟨hprint, ?_⟩
    split
    · next hc =>
      obtain ⟨cs, label, hcs, hrow⟩ := finds_of_configFailure hf hc
      exact ⟨cs, label, hcs.checks, hrow⟩
    · next hc =>
      have hc := Bool.eq_false_iff.mpr hc
      obtain ⟨e, rfl⟩ := foreign_of_not_isConfigFailure hf hc
      have hchecks := checks_of_otherFailure hf hc
      exact ⟨hchecks, doctor_of_foreign hchecks⟩
  · rcases doctor_ending w d with ⟨f, hesc, hend⟩ | ⟨hesc, cs, -, hend, hbad⟩
    · rw [hend]
      simp [hesc]
    · rw [hend, Ending.returned.injEq, verdict_eq_general, hbad, and_iff_right hesc]
  · rcases doctor_ending w d with ⟨f, hesc, hend⟩ | ⟨hesc, cs, -, hend, hbad⟩
    · rw [hend]
      simp [hesc]
    · rw [hend, Ending.returned.injEq, and_iff_right hesc, ← hbad, Doctor.verdict]
      cases Doctor.anyFailure cs <;> simp
  · rcases doctor_ending w d with ⟨f, ⟨g, hg, hc⟩, -⟩ | ⟨-, cs', hcs', -, hbad⟩
    · rw [checks_of_otherFailure hg hc] at hcs
      cases hcs
    · rw [hcs] at hcs'
      cases hcs'
      rw [← hbad, Doctor.anyFailure, List.any_eq_true]
      exact exists_congr fun c ↦ and_congr_right fun _ ↦ Doctor.isFailure_iff c.status

/-- A namespace and an engine named like the word of a failed check. -/
def oddNames : Surroundings where
  source := {
    explicitPath := none
    env := []
    home := "/root"
    homeFile := .ofText Source.defaultHomeFile
    account := .ofText Source.defaultAccount
    files := { entries := [(["cfg"], .file (
      "current-context: a\ncontexts: [\x7bname: a, context: \x7bnamespace: FAIL\x7d\x7d]".toList.map
        fun c ↦ UInt8.ofNat c.toNat))] } }
  installation := {
    interpreter := [3, 10, 1]
    packages := [("kubernetes", "37.0.2"), ("PyYAML", "6.0.3")]
    engines := [⟨"FAIL", "fail:run", none, true, [.write "FAIL"]⟩] }
  width := 80

/-- Settings that name the file of `oddNames`. -/
def namingFile : Settings := { kubeconfig := some (.given "cfg") }

theorem doctor_agrees_with_print_oddNames :
    LeavesFilter namingFile .yaml ∧
      (sourceOf oddNames namingFile).activeNamespace.result = .ok "FAIL" ∧
      (∃ cs, (Doctor.checks oddNames.installation (sourceOf oddNames namingFile)).result = .ok cs ∧
        cs.filter (·.label == "namespace") = [⟨"namespace", "FAIL", .ok⟩]) ∧
      ((doctor oddNames namingFile).ending = .returned .success ↔
        ¬Escapes oddNames namingFile ∧ ¬IsBad oddNames namingFile) := by
  have hp : LeavesFilter namingFile .yaml := ⟨rfl, rfl, rfl⟩
  have hlooked : (sourceOf oddNames namingFile).activeNamespace.result = .ok "FAIL" :=
    eq_ok_of_toOption (by decide +kernel)
  obtain ⟨hanswer, -, -, hsuccess, -⟩ := doctor_agrees_with_print oddNames namingFile hp rfl
  exact ⟨hp, hlooked, (hanswer "FAIL" hlooked).1, hsuccess⟩

end App

end GatewayPrint
