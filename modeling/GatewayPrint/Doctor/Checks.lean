import GatewayPrint.Console.Markup
import GatewayPrint.Engine.Registry
import GatewayPrint.Namespace.Active
import GatewayPrint.Program

/-!
# Checks of the environment

What the doctor looks at: the versions of the program and of what it stands on, the kubeconfig files
and the namespace they lead to, and the installed engines. A bad kubeconfig is a failed check; a
failure that is no error of the program ends the checks.
-/

namespace GatewayPrint.Doctor

/-- Whether what was found is good. -/
inductive Status where
  | ok
  | warn
  | fail
  /-- A version below the lowest that is supported. -/
  | tooOld
deriving DecidableEq, Repr, Inhabited

namespace Status

def text : Status → String
  | ok => "OK"
  | warn => "WARN"
  | fail => "FAIL"
  | tooOld => "FAIL (>=3.10 required)"

def colour : Status → String
  | ok => "green"
  | warn => "yellow"
  | fail => "red"
  | tooOld => "red"

/-- The word for a status, marked up with its colour. -/
def markup (s : Status) : String := Markup.inStyle s.colour s.text

/-- A status that makes the whole run fail. -/
def isFailure : Status → Bool
  | fail => true
  | tooOld => true
  | _ => false

end Status

/-- One check. -/
structure Check where
  label : String
  found : String
  status : Status
deriving DecidableEq, Repr, Inhabited

/-- What is installed: the version of the interpreter, packages with their versions, and engines. -/
structure Installation where
  interpreter : List Nat
  packages : List (String × String)
  engines : List Engine
deriving Repr, Inhabited

/-- The lowest version of the interpreter that is supported. -/
def lowestInterpreter : List Nat := [3, 10]

def atLeast : List Nat → List Nat → Bool
  | _, [] => true
  | [], _ :: _ => false
  | x :: xs, y :: ys => y < x || (x == y && atLeast xs ys)

def programCheck : Check := ⟨Program.name, Program.version, .ok⟩

def interpreterCheck (i : Installation) : Check :=
  ⟨"Python", ".".intercalate (i.interpreter.map toString),
    if atLeast (i.interpreter.take 2) lowestInterpreter then .ok else .tooOld⟩

def packageCheck (i : Installation) (name : String) : Check :=
  match i.packages.lookup name with
  | some version => ⟨name, version, .ok⟩
  | none => ⟨name, "NOT INSTALLED", .fail⟩

/-- The check of the kubeconfig files that were found. -/
def filesCheck (s : Kubeconfig.Source) (paths : List Path) : Except Failure Check :=
  if !paths.isEmpty then .ok ⟨"kubeconfig", ", ".intercalate (paths.map Path.text), .ok⟩
  else
    match s.inCluster with
    | .error f => .error f.failure
    | .ok true => .ok ⟨"kubeconfig", "in-cluster service account", .ok⟩
    | .ok false => .ok ⟨"kubeconfig", "not found", .warn⟩

/-- Whether a failure means that the kubeconfig is bad. -/
def isConfigFailure : Failure → Bool
  | .configLoad .. => true
  | _ => false

/-- The check of the namespace that the kubeconfig leads to. -/
def namespaceCheck (s : Kubeconfig.Source) : Logged Check :=
  let looked := s.activeNamespace
  ⟨looked.records,
    match looked.result with
    | .ok name => .ok ⟨"namespace", if name.isEmpty then "(all namespaces)" else name, .ok⟩
    | .error f =>
      if isConfigFailure f then .ok ⟨"namespace", f.message, .fail⟩ else .error f⟩

/-- The checks of the kubeconfig files and of the namespace; the latter is left out when the files
cannot be found. -/
def kubeconfigChecks (s : Kubeconfig.Source) : Logged (List Check) :=
  match s.paths with
  | .error f =>
    if isConfigFailure f.failure then Logged.pure [⟨"kubeconfig", f.failure.message, .fail⟩]
    else Logged.fail f.failure
  | .ok paths => do
    let files ← Logged.lift (filesCheck s paths)
    let ns ← namespaceCheck s
    return [files, ns]

def engineCheck (i : Installation) : Check :=
  if i.engines.isEmpty then ⟨"engines", "none installed", .warn⟩
  else ⟨"engines", Registry.names (Registry.sorted i.engines), .ok⟩

/-- All checks, in the order in which they are shown. -/
def checks (i : Installation) (s : Kubeconfig.Source) : Logged (List Check) := do
  let config ← kubeconfigChecks s
  return [programCheck, interpreterCheck i, packageCheck i "kubernetes", packageCheck i "PyYAML"]
    ++ config ++ [engineCheck i]

def anyFailure (cs : List Check) : Bool := cs.any fun c ↦ c.status.isFailure

end GatewayPrint.Doctor
