import GatewayPrint.PrintRun
import GatewayPrint.Proofs.Outcome

/-!
# Sessions of a print service

A service is asked to resolve options or to run, again and again, with one namespace source behind
it. It keeps nothing between two steps. The only thing that changes is how often the source was
asked, and that is known from the steps alone: a step asks once if its format is known and the
current context decides the filter, and not at all otherwise.

A step goes through three stages, the format, the filter and the engine, and stops at the first one
that fails. `Step.request` is what the first two come to, given the answer that the source has
ready, and `Step.conclude` is what a step leaves behind then.
-/

namespace GatewayPrint

namespace ScriptedSource

/-- The source after some more consultations. -/
def advance (s : ScriptedSource) (n : Nat) : ScriptedSource := { s with asked := s.asked + n }

@[simp] theorem advance_zero (s : ScriptedSource) : s.advance 0 = s := rfl

@[simp] theorem advance_advance (s : ScriptedSource) (m n : Nat) :
    (s.advance m).advance n = s.advance (m + n) := by
  rw [advance, advance, advance, Nat.add_assoc]

theorem ask_eq (s : ScriptedSource) : s.ask = (Logged.lift s.answer, s.advance 1) := rfl

end ScriptedSource

namespace PrintRun

/-- What a service is asked for. -/
inductive Step where
  | resolve (o : PrintOptions)
  | run (o : PrintOptions)
deriving DecidableEq, Repr

/-- What a step leaves behind. A step that succeeds gives the request that it resolved, or nothing
after a run. -/
structure Report where
  result : Except Failure (Option Request)
  calls : List Engine.Call
  out : String

namespace Step

def options : Step → PrintOptions
  | resolve o => o
  | run o => o

def hasFormat (t : Step) : Bool := ["yaml", "", "json"].contains t.options.outputFormat

/-- A step asks the source if its format is known and no option decides the filter. -/
def consults (t : Step) : Bool :=
  t.hasFormat && !t.options.allNamespaces && t.options.requestedNamespace.isEmpty

/-- The complaint about the format of a step. -/
def badFormat (t : Step) : Failure :=
  .unsupportedFormat (.text t.options.outputFormat) (some "Use one of: json, yaml")

/-- The format of a step whose format is known. -/
def format (t : Step) : OutputFormat := if t.options.outputFormat = "json" then .json else .yaml

/-- The filter of a step that does not ask the source. -/
def ownFilter (t : Step) : String :=
  if t.options.allNamespaces then "" else t.options.requestedNamespace

/-- The filter of a step when the source would give some answer. -/
def filter (t : Step) (answer : Except Failure String) : Except Failure String :=
  if t.consults then answer else .ok t.ownFilter

/-- What the format and the filter come to when the source would give some answer. -/
def request (t : Step) (answer : Except Failure String) : Except Failure Request :=
  if t.hasFormat then (t.filter answer).map fun ns ↦ ⟨.new t.format, ns⟩ else .error t.badFormat

/-- The end of a run whose engine has ended. -/
def ended : Option Failure → Except Failure (Option Request)
  | none => .ok none
  | some f => .error (classify f)

/-- What a step leaves behind when its request has come to something: only a run goes on to the
engine, and only with a request. -/
def conclude (engine : Printer → String → Engine.Outcome) :
    Step → Except Failure Request → Report
  | _, .error f => ⟨.error f, [], ""⟩
  | resolve _, .ok r => ⟨.ok (some r), [], ""⟩
  | run _, .ok r =>
    let called := engine r.printer r.filter
    ⟨ended called.failure, called.calls, called.out⟩

end Step

section Service

variable {σ : Type} (engine : Printer → String → Engine.Outcome) (ask : σ → Logged String × σ)

def step (t : Step) (s : σ) : Report × σ :=
  match t with
  | .resolve o =>
    let (request, s) := resolve ask o s
    (⟨request.result.map some, [], ""⟩, s)
  | .run o =>
    let (r, s) := run engine ask o s
    (⟨r.failure.elim (.ok none) .error, r.calls, r.out⟩, s)

/-- The reports of steps in turn, and the state of the source afterwards. -/
def session : List Step → σ → List Report × σ
  | [], s => ([], s)
  | t :: ts, s =>
    let (report, s) := step engine ask t s
    let (reports, s) := session ts s
    (report :: reports, s)

end Service

/-! ## One step -/

variable {engine : Printer → String → Engine.Outcome} {t : Step}

private theorem select_of_hasFormat (h : t.hasFormat = true) :
    OutputFormat.select (.text t.options.outputFormat) = .ok t.format := by
  rw [Step.hasFormat, List.contains_iff_mem] at h
  rw [Step.format]
  generalize t.options.outputFormat = name at h
  simp only [List.mem_cons, List.not_mem_nil, or_false] at h
  rcases h with rfl | rfl | rfl <;> rfl

private theorem select_of_not_hasFormat (h : t.hasFormat = false) :
    OutputFormat.select (.text t.options.outputFormat) = .error t.badFormat := by
  have hname : t.options.outputFormat ∉ ["yaml", "", "json"] := by
    rwa [← List.contains_iff_mem, ← Step.hasFormat, Bool.not_eq_true]
  simp only [List.mem_cons, List.not_mem_nil, or_false, not_or] at hname
  obtain ⟨hyaml, hempty, hjson⟩ := hname
  rw [OutputFormat.select, Step.badFormat]
  simp only [String.isEmpty_iff, hempty, if_false, OutputFormat.ofName?, beq_iff_eq, hyaml, hjson]
  rfl

/-- The filter of a step with a known format, and the source afterwards. -/
theorem filter_eq (h : t.hasFormat = true) (s : ScriptedSource) :
    (t.options.filter ScriptedSource.ask s).1.result = t.filter s.answer ∧
      (t.options.filter ScriptedSource.ask s).2 = if t.consults then s.advance 1 else s := by
  rw [PrintOptions.filter, Step.filter, Step.consults, h, Step.ownFilter]
  cases t.options.allNamespaces <;> cases hn : t.options.requestedNamespace.isEmpty
  · exact ⟨rfl, rfl⟩
  · rw [ScriptedSource.ask_eq]
    refine ⟨?_, rfl⟩
    simp only [Bool.not_true, Bool.not_false, Bool.and_true, Bool.false_eq_true, if_false, if_true]
    cases ha : s.answer <;> rfl
  · exact ⟨rfl, rfl⟩
  · exact ⟨rfl, rfl⟩

/-- **Resolving** comes to the request of the step, and the source is asked if the step asks it. -/
theorem resolve_eq (t : Step) (s : ScriptedSource) :
    (resolve ScriptedSource.ask t.options s).1.result = t.request s.answer ∧
      (resolve ScriptedSource.ask t.options s).2 = if t.consults then s.advance 1 else s := by
  rw [Step.request, resolve]
  cases h : t.hasFormat with
  | false =>
    rw [select_of_not_hasFormat h, Step.consults, h]
    exact ⟨rfl, rfl⟩
  | true =>
    obtain ⟨hresult, hstate⟩ := filter_eq h s
    rw [select_of_hasFormat h, if_pos rfl, ← hresult]
    refine ⟨?_, hstate⟩
    dsimp only
    rw [Logged.bind]
    split
    · next f hf => rw [hf]; rfl
    · next ns hns => rw [hns]; rfl

/-- **One step** leaves behind what its request comes to, and the source is asked if the step asks
it. -/
theorem step_eq (engine : Printer → String → Engine.Outcome) (t : Step) (s : ScriptedSource) :
    step engine ScriptedSource.ask t s =
      (t.conclude engine (t.request s.answer), if t.consults then s.advance 1 else s) := by
  obtain ⟨hresult, hstate⟩ := resolve_eq t s
  rw [← hresult, ← hstate]
  cases t with
  | resolve o =>
    rw [step, Step.options]
    generalize resolve ScriptedSource.ask o s = resolved
    obtain ⟨⟨records, result⟩, s'⟩ := resolved
    cases result <;> rfl
  | run o =>
    rw [step, run, Step.options]
    generalize resolve ScriptedSource.ask o s = resolved
    obtain ⟨⟨records, result⟩, s'⟩ := resolved
    cases result with
    | error f => rfl
    | ok r =>
      dsimp only [Step.conclude]
      cases (engine r.printer r.filter).failure <;> rfl

/-! ## Sessions -/

/-- How often some steps ask the source. -/
def asks (steps : List Step) : Nat := steps.countP Step.consults

theorem asks_cons (t : Step) (steps : List Step) :
    asks (t :: steps) = (if t.consults then 1 else 0) + asks steps := by
  rw [asks, asks, List.countP_cons, Nat.add_comm]

/-- **A session** gives the reports of its steps, each on a source that was asked by the steps
before it. -/
theorem session_eq (steps : List Step) (s : ScriptedSource) :
    session engine ScriptedSource.ask steps s =
      (steps.mapIdx fun i t ↦
        (step engine ScriptedSource.ask t (s.advance (asks (steps.take i)))).1,
        s.advance (asks steps)) := by
  induction steps generalizing s with
  | nil => rfl
  | cons t ts ih =>
    have hstate : (step engine ScriptedSource.ask t s).2
        = s.advance (if t.consults then 1 else 0) := by
      rw [step_eq]
      split <;> rfl
    rw [session]
    dsimp only
    rw [hstate, ih, List.mapIdx_cons]
    simp only [List.take_zero, List.take_succ_cons, asks_cons, ScriptedSource.advance_advance]
    rfl

/-- **A service keeps nothing, goes through its stages in order, and stops at the first failure.**

* After any number of steps the source was asked as often as these steps ask it, once in each step
  with a known format, without all namespaces and without a namespace of its own.
* The engine is called once, with the printer and the filter that resolving gives, in each run whose
  format and filter resolve, and in no other step.
* A bad format is reported whatever the source and the engine would do, and a failure of the source
  whatever the engine would do.
* The report of a step is that of the same step on a fresh service whose source was asked as often
  as the steps before it ask. -/
theorem session_stateless (e : Engine) (s : ScriptedSource) (steps : List Step) :
    (∀ n, (session e.run ScriptedSource.ask (steps.take n) s).2
        = s.advance (asks (steps.take n))) ∧
      (∀ t source, (step e.run ScriptedSource.ask t source).2
        = if t.consults then source.advance 1 else source) ∧
      (∀ t source, let report := (step e.run ScriptedSource.ask t source).1
        (report.calls, report.out) =
          match t, (resolve ScriptedSource.ask t.options source).1.result with
          | .run _, .ok r =>
            ([⟨e.name, r.printer.name, r.filter⟩], (e.run r.printer r.filter).out)
          | _, _ => ([], "")) ∧
      (∀ t source, (step e.run ScriptedSource.ask t source).1.result =
        if t.hasFormat then
          match t.filter source.answer, t with
          | .error f, _ => .error f
          | .ok ns, .resolve _ => .ok (some ⟨.new t.format, ns⟩)
          | .ok ns, .run _ => Step.ended (e.run (.new t.format) ns).failure
        else .error t.badFormat) ∧
      (session e.run ScriptedSource.ask steps s).1 = steps.mapIdx fun i t ↦
        (step e.run ScriptedSource.ask t (s.advance (asks (steps.take i)))).1 := by
  refine ⟨fun n ↦ by rw [session_eq], fun t source ↦ by rw [step_eq], fun t source ↦ ?_,
    fun t source ↦ ?_, by rw [session_eq]⟩
  · rw [step_eq, (resolve_eq t source).1]
    cases t.request source.answer with
    | error f => cases t <;> rfl
    | ok r => cases t <;> rfl
  · rw [step_eq, Step.request]
    dsimp only
    split
    · cases t.filter source.answer with
      | error f => cases t <;> rfl
      | ok ns => cases t <;> rfl
    · cases t <;> rfl

end PrintRun

end GatewayPrint
