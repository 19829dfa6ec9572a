import GatewayPrint.Proofs.Engine.Selection
import GatewayPrint.Proofs.PrintCommand

/-!
# Failures of an engine

An engine works through its actions and stops at the first one that fails. What it has written up
to there stays written, and its failure leaves the run once it has been put into words, which
happens at one of two places. An error that comes up while the engine is loaded means that no engine
is available, whatever kind of error it is; one that comes up while it works means that the
conversion failed, unless it is an error of the program itself. An interrupt or a request to exit is
no error, and passes through both.

The proof cuts a script at its first failing action: the actions before it only move the printer on
(`perform_append`), and those behind it are never looked at.
-/

namespace GatewayPrint

open Outcome

namespace Engine

variable {filter : String} {p : Printer} {before actions : List Action} {a : Action} {f : Failure}

/-- The printer after some actions. -/
def reached (filter : String) (p : Printer) (actions : List Action) : Printer :=
  actions.foldl (fun p a ↦ (act filter p a).1) p

/-- No action of a script fails. -/
def IsSmooth (filter : String) (p : Printer) (actions : List Action) : Prop :=
  ∀ step ∈ steps filter p actions, step.2 = none

/-- What the actions of a script write, were all of them carried out. -/
def texts (filter : String) (p : Printer) (actions : List Action) : List String :=
  (steps filter p actions).map Prod.fst

theorem isSmooth_nil (filter : String) (p : Printer) : IsSmooth filter p [] :=
  fun _ h ↦ nomatch h

theorem isSmooth_cons :
    IsSmooth filter p (a :: actions) ↔
      (act filter p a).2.2 = none ∧ IsSmooth filter (act filter p a).1 actions :=
  List.forall_mem_cons

theorem steps_append (filter : String) (p : Printer) (before rest : List Action) :
    steps filter p (before ++ rest)
      = steps filter p before ++ steps filter (reached filter p before) rest := by
  induction before generalizing p with
  | nil => rfl
  | cons a before ih => exact congrArg (_ :: ·) (ih _)

/-- **Actions that do not fail** move the printer on, and what they wrote stays in front. -/
theorem perform_append (h : IsSmooth filter p before) (rest : List Action) :
    perform filter p (before ++ rest) =
      (String.join (texts filter p before) ++ (perform filter (reached filter p before) rest).1,
        (perform filter (reached filter p before) rest).2) := by
  induction before generalizing p with
  | nil => simp [texts, steps, reached]
  | cons a before ih =>
    obtain ⟨ha, hrest⟩ := isSmooth_cons.mp h
    rw [List.cons_append, perform]
    split
    · next hact =>
      rw [hact] at ha
      cases ha
    · next p' out hact =>
      rw [hact] at hrest
      have htexts : texts filter p (a :: before) = out :: texts filter p' before := by
        simp only [texts, steps, hact, List.map_cons]
      have hreached : reached filter p (a :: before) = reached filter p' before := by
        rw [reached, List.foldl_cons, hact, reached]
      dsimp only
      rw [ih hrest, htexts, hreached, String.join_cons, String.append_assoc]

private theorem perform_of_isSmooth (h : IsSmooth filter p actions) :
    perform filter p actions = (String.join (texts filter p actions), none) := by
  have happend := perform_append h []
  rwa [List.append_nil, perform, String.append_empty] at happend

/-- **The first action that fails** ends the work; what it wrote itself comes last. -/
theorem perform_of_failing (h : IsSmooth filter p before)
    (ha : (act filter (reached filter p before) a).2.2 = some f) (after : List Action) :
    perform filter p (before ++ a :: after) =
      (String.join (texts filter p (before ++ [a])), some f) := by
  have hlast : texts filter p (before ++ [a])
      = texts filter p before ++ [(act filter (reached filter p before) a).2.1] := by
    rw [texts, steps_append, List.map_append]
    rfl
  rw [perform_append h, perform]
  split
  · next hact =>
    rw [hact] at ha hlast
    cases ha
    rw [hlast, String.join_append]
    simp
  · next hact =>
    rw [hact] at ha
    cases ha

/-- A script is smooth, or it has a first action that fails. -/
theorem isSmooth_or_failing (filter : String) (p : Printer) (actions : List Action) :
    IsSmooth filter p actions ∨ ∃ before a after f, actions = before ++ a :: after ∧
      IsSmooth filter p before ∧ (act filter (reached filter p before) a).2.2 = some f := by
  induction actions generalizing p with
  | nil => exact .inl (isSmooth_nil filter p)
  | cons a rest ih =>
    by_cases ha : (act filter p a).2.2 = none
    · rcases ih (act filter p a).1 with hrest | ⟨before, b, after, f, rfl, hbefore, hb⟩
      · exact .inl (isSmooth_cons.mpr ⟨ha, hrest⟩)
      · exact .inr ⟨a :: before, b, after, f, rfl, isSmooth_cons.mpr ⟨ha, hbefore⟩, hb⟩
    · obtain ⟨f, hf⟩ := Option.ne_none_iff_exists'.mp ha
      exact .inr ⟨[], a, rest, f, rfl, isSmooth_nil filter p, hf⟩

end Engine

namespace PrintRun

variable {σ : Type} {ask : σ → Logged String × σ} {o : PrintOptions} {s : σ} {r : Request}

/-- What a failure of an engine is in the end. -/
def classified (f : Failure) : Failure :=
  if f.isOwn || !f.isError then f
  else .conversion ("Conversion failed: " ++ f.message) none (some f.summary)

theorem classify_eq (f : Failure) : classify f = classified f := by
  cases f <;> rfl

/-- What an outcome leaves behind besides its records. -/
def remains (outcome : Engine.Outcome) : List Engine.Call × String × Option Failure :=
  (outcome.calls, outcome.out, outcome.failure)

/-- With a request at hand, a run leaves behind what the engine does, with its failure put into
words. -/
theorem remains_run (hr : (resolve ask o s).1.result = .ok r)
    (engine : Printer → String → Engine.Outcome) :
    remains (run engine ask o s).1 =
      ((engine r.printer r.filter).calls, (engine r.printer r.filter).out,
        (engine r.printer r.filter).failure.map classified) := by
  have hclassify : classify = classified := funext classify_eq
  rw [run]
  dsimp only
  rw [hr]
  dsimp only [remains]
  rw [hclassify]

end PrintRun

namespace Registry

variable {engines : List Engine} {request : Option Value} {e : Engine} {f : Failure}

/-- An engine that is ready works as if it were at hand. -/
theorem remains_call_of_isReady (h : IsReady engines request e) (p : Printer) (filter : String) :
    PrintRun.remains (call engines request p filter) = PrintRun.remains (e.run p filter) := by
  have hload : (load engines request).result = .ok e := by
    rw [result_load, h.selected, ok_bind, readied_eq_ok]
    exact ⟨rfl, h.loads, h.callable⟩
  rw [call]
  dsimp only
  rw [hload]
  rfl

/-- **An engine that cannot be loaded** does nothing. -/
theorem remains_call_of_loadFailure (hselect : select engines request = .ok e)
    (hf : e.loadFailure = some f) (p : Printer) (filter : String) :
    PrintRun.remains (call engines request p filter) =
      ([], "", some (if f.isError then
        .engineUnavailable ("Conversion engine '" ++ e.name ++ "' failed to load: " ++ f.message)
          none (some f.summary)
        else f)) := by
  have hload : (load engines request).result = .error (if f.isError then
      .engineUnavailable ("Conversion engine '" ++ e.name ++ "' failed to load: " ++ f.message)
        none (some f.summary)
      else f) := by
    rw [result_load, hselect, ok_bind, readied, hf]
    dsimp only
    split <;> rfl
  rw [call]
  dsimp only
  rw [hload]
  rfl

end Registry

namespace PrintRun

open Engine (Action act reached texts IsSmooth)

variable {σ : Type} {ask : σ → Logged String × σ} {o : PrintOptions} {s : σ} {r : Request}
  {e : Engine}

theorem remains_run_of_isSmooth (hr : (resolve ask o s).1.result = .ok r)
    (h : IsSmooth r.filter r.printer e.actions) :
    remains (run e.run ask o s).1 =
      ([⟨e.name, r.printer.name, r.filter⟩],
        String.join (texts r.filter r.printer e.actions), none) := by
  rw [remains_run hr, Engine.run, Engine.perform_of_isSmooth h]
  rfl

theorem remains_run_of_failing (hr : (resolve ask o s).1.result = .ok r)
    {before after : List Action} {a : Action} {f : Failure}
    (hactions : e.actions = before ++ a :: after) (h : IsSmooth r.filter r.printer before)
    (ha : (act r.filter (reached r.filter r.printer before) a).2.2 = some f) :
    remains (run e.run ask o s).1 =
      ([⟨e.name, r.printer.name, r.filter⟩],
        String.join (texts r.filter r.printer (before ++ [a])), some (classified f)) := by
  rw [remains_run hr, Engine.run, hactions, Engine.perform_of_failing h ha]
  rfl

/-- **Failures of an engine are classified once, and its output is kept.** Let some options come to
a request, with its printer and filter. Then for every engine:

* If no action of its script fails, a run writes what the actions write, and succeeds; otherwise it
  fails.
* At the first action that fails, the run ends: it has written what the actions wrote up to this
  one, whatever comes after, and its failure is that of the action, if it is an error of the program
  or no error at all. Any other error becomes a failed conversion with this error behind it.
* Failing to print a resource is such an other error.
* An installed engine that can be loaded and called does the same. An error that comes up while it
  is loaded becomes, of whatever kind it is, an unavailable engine with this error behind it, while
  an interrupt or a request to exit stays what it is; nothing is called or written then. -/
theorem run_classifies_once (hr : (resolve ask o s).1.result = .ok r) (e : Engine) :
    (IsSmooth r.filter r.printer e.actions → remains (run e.run ask o s).1 =
      ([⟨e.name, r.printer.name, r.filter⟩],
        String.join (texts r.filter r.printer e.actions), none)) ∧
    ((run e.run ask o s).1.failure = none ↔ IsSmooth r.filter r.printer e.actions) ∧
    (∀ before a after f, e.actions = before ++ a :: after → IsSmooth r.filter r.printer before →
      (act r.filter (reached r.filter r.printer before) a).2.2 = some f →
      remains (run e.run ask o s).1 =
        ([⟨e.name, r.printer.name, r.filter⟩],
          String.join (texts r.filter r.printer (before ++ [a])),
          some (if f.isOwn || !f.isError then f
            else .conversion ("Conversion failed: " ++ f.message) none (some f.summary))) ∧
      ∀ after', remains (run (Engine.run { e with actions := before ++ a :: after' }) ask o s).1
        = remains (run e.run ask o s).1) ∧
    (∀ before v after fault, e.actions = before ++ .print v :: after →
      IsSmooth r.filter r.printer before →
      ((reached r.filter r.printer before).print v).fault = some fault →
      (run e.run ask o s).1.failure = some (.conversion
        ("Conversion failed: " ++ fault.error.message) none (some fault.error))) ∧
    ∀ engines request, Registry.select engines request = .ok e →
      (e.loadFailure = none → e.callable = true →
        remains (run (Registry.call engines request) ask o s).1
          = remains (run e.run ask o s).1) ∧
      ∀ f, e.loadFailure = some f → remains (run (Registry.call engines request) ask o s).1 =
        ([], "", some (if f.isError then
          .engineUnavailable ("Conversion engine '" ++ e.name ++ "' failed to load: " ++ f.message)
            none (some f.summary)
          else f)) := by
  refine ⟨remains_run_of_isSmooth hr, ⟨fun hnone ↦ ?_, fun hsmooth ↦ ?_⟩,
    fun before a after f hactions hbefore ha ↦ ?_,
    fun before v after fault hactions hbefore hfault ↦ ?_,
    fun engines request hselect ↦ ⟨fun hloads hcallable ↦ ?_, fun f hf ↦ ?_⟩⟩
  · rcases Engine.isSmooth_or_failing r.filter r.printer e.actions with
      hsmooth | ⟨before, a, after, f, hactions, hbefore, ha⟩
    · exact hsmooth
    · have hfailure := congrArg (·.2.2) (remains_run_of_failing hr hactions hbefore ha)
      exact nomatch hnone.symm.trans hfailure
  · exact congrArg (·.2.2) (remains_run_of_isSmooth hr hsmooth)
  · refine ⟨remains_run_of_failing hr hactions hbefore ha, fun after' ↦ ?_⟩
    rw [remains_run_of_failing hr hactions hbefore ha]
    exact remains_run_of_failing (e := { e with actions := before ++ a :: after' }) hr rfl hbefore
      ha
  · have ha : (act r.filter (reached r.filter r.printer before) (.print v)).2.2
        = some (.foreign fault.error) := by
      simp only [act, hfault, Option.map_some]
    exact congrArg (·.2.2) (remains_run_of_failing hr hactions hbefore ha)
  · have hcall := Registry.remains_call_of_isReady ⟨hselect, hloads, hcallable⟩ r.printer r.filter
    simp only [remains, Prod.mk.injEq] at hcall
    rw [remains_run hr, remains_run hr, hcall.1, hcall.2.1, hcall.2.2]
  · have hcall := Registry.remains_call_of_loadFailure hselect hf r.printer r.filter
    simp only [remains, Prod.mk.injEq] at hcall
    rw [remains_run hr, hcall.1, hcall.2.1, hcall.2.2, Option.map_some]
    cases f <;> rfl

/-- An engine that writes a line, prints what is no resource, and writes another line; and an
interrupt while it is loaded. -/
def nameless : Engine :=
  ⟨"demo", "demo:run", some (.interrupt "stop"), true,
    [.write "# routes\n", .print (.map [(.text "name", .text "web")]), .write "# end\n"]⟩

theorem run_classifies_once_nameless :
    (resolve (fun s : Unit ↦ (Logged.pure "team-a", s)) {} ()).1.result
        = .ok ⟨.new .yaml, "team-a"⟩ ∧
      remains (run nameless.run (fun s : Unit ↦ (Logged.pure "team-a", s)) {} ()).1 =
        ([⟨"demo", "YAMLPrinter", "team-a"⟩], "# routes\n",
          some (.conversion "Conversion failed: missing apiVersion or kind" none
            (some ⟨"ValueError", "missing apiVersion or kind"⟩))) ∧
      remains (run (Registry.call [nameless] none) (fun s : Unit ↦ (Logged.pure "team-a", s))
        {} ()).1 = ([], "", some (.interrupt "stop")) := by
  have hr : (resolve (fun s : Unit ↦ (Logged.pure "team-a", s)) {} ()).1.result
      = .ok ⟨.new .yaml, "team-a"⟩ := rfl
  obtain ⟨-, -, hfailing, -, hinstalled⟩ := run_classifies_once hr nameless
  refine ⟨hr, ?_, (hinstalled [nameless] none rfl).2 _ rfl⟩
  exact (hfailing [.write "# routes\n"] (.print (.map [(.text "name", .text "web")]))
    [.write "# end\n"] (.foreign ⟨"ValueError", "missing apiVersion or kind"⟩) rfl
    (Engine.isSmooth_cons.mpr ⟨rfl, Engine.isSmooth_nil _ _⟩) rfl).1

end PrintRun

end GatewayPrint
