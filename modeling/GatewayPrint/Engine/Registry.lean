import GatewayPrint.Engine.Basic

/-!
# Installed engines

Engines are listed by name in the order of code points, engines of one name in the order in which
they were found. One is chosen by name; without a name there must be exactly one. Choosing loads
nothing: an engine that cannot be loaded does not stand in the way of another one.
-/

namespace GatewayPrint.Registry

def group : String := "ingress2gateway.engines"

def logger : String := "ingress2gateway.infra.engine"

/-- Puts an engine behind all whose name does not come after its own. -/
def insert (e : Engine) : List Engine → List Engine
  | [] => [e]
  | f :: rest =>
    if Text.codePoints e.name < Text.codePoints f.name then e :: f :: rest else f :: insert e rest

/-- The engines by name in code-point order; engines of one name keep their order. -/
def sorted (engines : List Engine) : List Engine :=
  engines.foldl (fun done e ↦ insert e done) []

def names (engines : List Engine) : String := ", ".intercalate (engines.map Engine.name)

def unavailable (message : String) (hint : Option String) : Failure :=
  .engineUnavailable message hint none

/-- The engine that a request means: the first one with the name in the request, or the only one
without a request. A request that is no text names no engine. -/
def select (engines : List Engine) (request : Option Value) : Except Failure Engine :=
  let engines := sorted engines
  match engines with
  | [] => .error (unavailable "No conversion engine is installed."
      (some ("Install a package that provides the '" ++ group ++ "' entry point.")))
  | first :: others =>
    match request with
    | some v =>
      match engines.find? fun e ↦ v.same (.text e.name) with
      | some e => .ok e
      | none => .error (unavailable ("Conversion engine '" ++ v.display [] ++ "' is not installed.")
          (some ("Installed engines: " ++ names engines)))
    | none =>
      if others.isEmpty then .ok first
      else .error (unavailable "Several conversion engines are installed."
          (some ("Choose one with --engine: " ++ names engines)))

/-- The engine that a request means, loaded. An error of loading means that no engine is available;
an interrupt or a request to exit passes through. -/
def load (engines : List Engine) (request : Option Value) : Logged Engine := do
  let e ← Logged.lift (select engines request)
  Logged.note (Log.debug logger ("Using conversion engine " ++ e.name ++ " (" ++ e.origin ++ ")"))
  match e.loadFailure with
  | some f =>
    if f.isError then
      Logged.fail (.engineUnavailable
        ("Conversion engine '" ++ e.name ++ "' failed to load: " ++ f.message) none
        (some f.summary))
    else Logged.fail f
  | none =>
    if e.callable then return e
    else Logged.fail (unavailable ("Conversion engine '" ++ e.name ++ "' is not callable.") none)

/-- A call of the engine that a request means. -/
def call (engines : List Engine) (request : Option Value) (p : Printer) (filter : String) :
    Engine.Outcome :=
  let loaded := load engines request
  match loaded.result with
  | .error f => { calls := [], out := "", records := loaded.records, failure := some f }
  | .ok e => { e.run p filter with records := loaded.records }

end GatewayPrint.Registry
