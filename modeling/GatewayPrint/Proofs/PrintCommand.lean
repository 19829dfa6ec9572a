import GatewayPrint.App
import GatewayPrint.Proofs.Kubeconfig.LookUp

/-!
# The print command, stage by stage

A print command knows its format, then its filter, then its engine, and only then calls anything.
The first stage that fails ends it, with nothing called and nothing written (`print_cases`). What is
written once the engine is called is the work of its actions up to the first one that fails
(`Engine.perform_eq`).

An error that escapes as an error of other code comes from the look-up of the current context,
since the other stages put all errors into words of their own (`kind_of_foreign`).
-/

namespace GatewayPrint

open Outcome

namespace Engine

/-- What each action writes and what it fails with, if the actions before it do not fail. -/
def steps (filter : String) : Printer → List Action → List (String × Option Failure)
  | _, [] => []
  | p, a :: rest =>
    let (p, step) := act filter p a
    step :: steps filter p rest

/-- The steps up to the first one that fails, this one included. -/
def upToFailure : List (String × Option Failure) → List (String × Option Failure)
  | [] => []
  | step :: rest => step :: if step.2.isSome then [] else upToFailure rest

/-- The text that an engine writes, action by action, until it returns or fails. -/
def written (filter : String) (p : Printer) (actions : List Action) : List String :=
  (upToFailure (steps filter p actions)).map Prod.fst

/-- **The work of a script** is what its actions write up to the first one that fails, and its
failure is the failure of that action. -/
theorem perform_eq (filter : String) (p : Printer) (actions : List Action) :
    perform filter p actions =
      (String.join (written filter p actions), (steps filter p actions).findSome? Prod.snd) := by
  induction actions generalizing p with
  | nil => rfl
  | cons a rest ih =>
    rw [perform, written, steps]
    rcases act filter p a with ⟨p', out, _ | f⟩
    · dsimp only
      rw [ih p', upToFailure, written]
      simp [String.join_cons]
    · simp [upToFailure]

end Engine

namespace Registry

variable {engines : List Engine} {request : Option Value} {e : Engine}

/-- The engine that a request means, and it can be called. -/
structure IsReady (engines : List Engine) (request : Option Value) (e : Engine) : Prop where
  selected : select engines request = .ok e
  loads : e.loadFailure = none
  callable : e.callable = true

theorem IsReady.unique {e' : Engine} (h : IsReady engines request e)
    (h' : IsReady engines request e') : e = e' :=
  Except.ok.inj (h.selected.symm.trans h'.selected)

/-- A failure to find an engine is put into words of the program's own. -/
theorem select_eq_error {f : Failure} (h : select engines request = .error f) :
    ∃ message hint, f = unavailable message hint := by
  unfold select at h
  dsimp only at h
  split at h
  · cases h
    exact ⟨_, _, rfl⟩
  · split at h
    · split at h
      · cases h
      · cases h
        exact ⟨_, _, rfl⟩
    · split at h
      · cases h
      · cases h
        exact ⟨_, _, rfl⟩

/-- Loading gives an engine that is ready, or a failure that is no error of other code. -/
theorem load_cases (engines : List Engine) (request : Option Value) :
    (∃ e, IsReady engines request e ∧ (load engines request).result = .ok e) ∨
      ∃ f, (∀ e, ¬IsReady engines request e) ∧ (load engines request).result = .error f ∧
        ∀ error, f ≠ .foreign error := by
  rw [load, Logged.result_bind]
  cases hs : select engines request with
  | error f =>
    obtain ⟨message, hint, rfl⟩ := select_eq_error hs
    refine .inr ⟨_, fun e he ↦ ?_, rfl, nofun⟩
    exact nomatch hs.symm.trans he.selected
  | ok e =>
    -- At most the engine that is selected can be ready; what is left is whether it loads and is
    -- callable.
    have hsame : ∀ {e'}, IsReady engines request e' → e' = e := fun he ↦
      Except.ok.inj (he.selected.symm.trans hs)
    rw [Logged.lift, ok_bind, Logged.result_bind, Logged.note, ok_bind]
    cases hl : e.loadFailure with
    | some f =>
      have hnone : ∀ e', ¬IsReady engines request e' := fun e' he ↦ by
        rw [hsame he] at he
        exact nomatch hl.symm.trans he.loads
      dsimp only
      split
      · exact .inr ⟨_, hnone, rfl, nofun⟩
      · next hf =>
        refine .inr ⟨f, hnone, rfl, ?_⟩
        rintro error rfl
        exact hf rfl
    | none =>
      cases hc : e.callable with
      | true => exact .inl ⟨e, ⟨hs, hl, hc⟩, rfl⟩
      | false =>
        refine .inr ⟨_, fun e' he ↦ ?_, rfl, nofun⟩
        rw [hsame he] at he
        exact nomatch hc.symm.trans he.callable

private theorem call_of_isReady (h : IsReady engines request e) (p : Printer) (filter : String) :
    ((call engines request p filter).calls, (call engines request p filter).out) =
      ([⟨e.name, p.name, filter⟩], String.join (Engine.written filter p e.actions)) := by
  rcases load_cases engines request with ⟨e', he', hload⟩ | ⟨f, hnone, -, -⟩
  · rw [h.unique he', call, hload]
    dsimp only
    rw [Engine.run, Engine.perform_eq]
  · exact absurd h (hnone e)

private theorem call_of_not_isReady (h : ∀ e, ¬IsReady engines request e) (p : Printer)
    (filter : String) :
    ∃ f, ((call engines request p filter).calls, (call engines request p filter).out,
      (call engines request p filter).failure) = ([], "", some f) := by
  rcases load_cases engines request with ⟨e, he, -⟩ | ⟨f, -, hload, -⟩
  · exact absurd he (h e)
  · refine ⟨f, ?_⟩
    rw [call, hload]

end Registry

namespace PrintRun

/-- A failure of an engine never leaves the run as an error of other code. -/
theorem classify_ne_foreign (f : Failure) (error : Foreign) : classify f ≠ .foreign error := by
  cases f <;> exact nofun

end PrintRun

namespace App

open CommandLine (Settings)
open Kubeconfig (Source)

variable {w : Surroundings} {s : Settings} {format : OutputFormat} {n : String} {f : Failure}

/-! ## The filter -/

/-- The source that the commands look at. -/
def sourceOf (w : Surroundings) (s : Settings) : Source := withKubeconfig w s.kubeconfig

/-- The engine that a print command means, called with a fresh printer and a filter. -/
def called (w : Surroundings) (s : Settings) (format : OutputFormat) (filter : String) :
    Engine.Outcome :=
  Registry.call w.installation.engines (s.engine.map selector) (.new format) filter

/-- The filter of a print command: all namespaces, the one that was asked for, or that of the
current context. -/
def filterOf (w : Surroundings) (s : Settings) : Except Failure String :=
  if s.allNamespaces then .ok ""
  else if s.scope.text = "" then (sourceOf w s).activeNamespace.result
  else .ok s.scope.text

private theorem select_text (h : OutputFormat.select (selector s.output) = .ok format) :
    OutputFormat.select (.text s.output.text) = .ok format := by
  cases hs : s.output with
  | given name => rwa [hs] at h
  | nothing =>
    rw [hs] at h
    cases h

private theorem result_resolve (h : OutputFormat.select (selector s.output) = .ok format)
    (w : Surroundings) :
    (PrintRun.resolve (fun src : Source ↦ (src.activeNamespace, src))
      { outputFormat := s.output.text, requestedNamespace := s.scope.text,
        allNamespaces := s.allNamespaces } (sourceOf w s)).1.result =
      (filterOf w s).map fun n ↦ ⟨.new format, n⟩ := by
  rw [PrintRun.resolve, select_text h, filterOf]
  dsimp only [PrintOptions.filter]
  by_cases hall : s.allNamespaces = true
  · rw [if_pos hall, if_pos hall]
    split <;> rfl
  · rw [if_neg hall, if_neg hall]
    by_cases hscope : s.scope.text = ""
    · rw [if_pos hscope, hscope, if_neg (by decide)]
      dsimp only [Logged.bind]
      cases (sourceOf w s).activeNamespace.result <;> rfl
    · rw [if_neg hscope, if_pos (by simpa using hscope)]
      rfl

/-! ## The stages -/

/-- What a print command with a known format leaves behind, by its filter. -/
theorem print_of_format (h : OutputFormat.select (selector s.output) = .ok format)
    (w : Surroundings) :
    ((print w s).calls, (print w s).out, (print w s).failure) =
      match filterOf w s with
      | .error f => ([], "", some f)
      | .ok n => ((called w s format n).calls, (called w s format n).out,
          (called w s format n).failure.map PrintRun.classify) := by
  have hresolve := result_resolve h w
  rw [sourceOf] at hresolve
  rw [print, h]
  dsimp only
  rw [PrintRun.run]
  generalize PrintRun.resolve _ _ _ = resolved at hresolve ⊢
  obtain ⟨⟨records, result⟩, src⟩ := resolved
  dsimp only at hresolve ⊢
  rw [hresolve]
  cases filterOf w s <;> rfl

/-- A print command gets as far as calling an engine: with this format, filter and engine. -/
structure Reaches (w : Surroundings) (s : Settings) (format : OutputFormat) (filter : String)
    (e : Engine) : Prop where
  format : OutputFormat.select (selector s.output) = .ok format
  filter : filterOf w s = .ok filter
  ready : Registry.IsReady w.installation.engines (s.engine.map selector) e

/-- **The stages of a print command.** It reaches one engine, calls it once, and writes what the
engine writes; or it reaches none, and neither calls nor writes anything. -/
theorem print_cases (w : Surroundings) (s : Settings) :
    (∃ format filter e, Reaches w s format filter e ∧
      (print w s).calls = [⟨e.name, (Printer.new format).name, filter⟩] ∧
      (print w s).out = String.join (Engine.written filter (.new format) e.actions)) ∨
    ((∀ format filter e, ¬Reaches w s format filter e) ∧
      (print w s).calls = [] ∧ (print w s).out = "" ∧ (print w s).failure.isSome) := by
  cases hformat : OutputFormat.select (selector s.output) with
  | error f =>
    refine .inr ⟨fun format filter e h ↦ (nomatch hformat.symm.trans h.format), ?_⟩
    rw [print, hformat]
    exact ⟨rfl, rfl, rfl⟩
  | ok format =>
    have hprint := print_of_format hformat w
    -- The filter comes before the engine is loaded, so a failed look-up reaches none.
    cases hfilter : filterOf w s with
    | error f =>
      rw [hfilter] at hprint
      refine .inr ⟨fun format filter e h ↦ (nomatch hfilter.symm.trans h.filter), ?_⟩
      simp only [Prod.mk.injEq] at hprint
      obtain ⟨hcalls, hout, hfailure⟩ := hprint
      exact ⟨hcalls, hout, by rw [hfailure]; rfl⟩
    | ok filter =>
      rw [hfilter] at hprint
      simp only [Prod.mk.injEq] at hprint
      obtain ⟨hcalls, hout, hfailure⟩ := hprint
      rw [hcalls, hout, hfailure, called]
      rcases Registry.load_cases w.installation.engines (s.engine.map selector) with
        ⟨e, he, -⟩ | ⟨-, hnone, -⟩
      · have hcall := Registry.call_of_isReady he (.new format) filter
        rw [Prod.mk.injEq] at hcall
        exact .inl ⟨format, filter, e, ⟨hformat, hfilter, he⟩, hcall⟩
      · obtain ⟨f, hcall⟩ := Registry.call_of_not_isReady hnone (.new format) filter
        simp only [Prod.mk.injEq] at hcall
        exact .inr ⟨fun format filter e h ↦ hnone e h.ready, hcall.1, hcall.2.1, by
          rw [hcall.2.2]
          rfl⟩

/-- An error of other code that ends a look-up is of a class without brackets in its name. -/
theorem kind_of_activeNamespace {src : Source} {error : Foreign}
    (h : src.activeNamespace.result = .error (.foreign error)) :
    error.kind ∈ Kubeconfig.Fault.escapingKinds := by
  rw [Source.result_activeNamespace] at h
  obtain ⟨g, -, hg⟩ := mapError_eq_error.mp h
  cases hu : g.isUnhandled with
  | true =>
    obtain ⟨error', he, hkind⟩ := Kubeconfig.Fault.failure_of_isUnhandled hu
    cases he.symm.trans hg
    exact hkind
  | false =>
    obtain ⟨message, hint, cause, he⟩ := Kubeconfig.Fault.failure_of_not_isUnhandled hu
    cases he.symm.trans hg

/-- **An error of other code comes from the look-up**: the other stages put every error into words
of their own. -/
theorem kind_of_print {error : Foreign} (h : (print w s).failure = some (.foreign error)) :
    error.kind ∈ Kubeconfig.Fault.escapingKinds := by
  cases hformat : OutputFormat.select (selector s.output) with
  | error f =>
    rw [print, hformat] at h
    cases h
    unfold OutputFormat.select at hformat
    dsimp only at hformat
    repeat' split at hformat
    all_goals cases hformat
  | ok format =>
    have hprint := print_of_format hformat w
    cases hfilter : filterOf w s with
    | error f =>
      rw [hfilter, h] at hprint
      obtain rfl : .foreign error = f := Option.some.inj (congrArg (·.2.2) hprint)
      rw [filterOf] at hfilter
      repeat' split at hfilter
      · cases hfilter
      · exact kind_of_activeNamespace hfilter
      · cases hfilter
    | ok filter =>
      rw [hfilter, h] at hprint
      obtain ⟨g, -, hg⟩ := Option.map_eq_some_iff.mp (congrArg (·.2.2) hprint).symm
      exact absurd hg (PrintRun.classify_ne_foreign g error)

end App

end GatewayPrint
