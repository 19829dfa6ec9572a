import GatewayPrint.Log
import GatewayPrint.Resource.Printer

/-!
# Conversion engines

An engine reads ingresses, converts them, and prints the resulting resources. Here it is a script of
actions on its printer and on standard output, which ends at the first action that fails.
-/

namespace GatewayPrint

/-- What an engine does. -/
inductive Engine.Action where
  /-- Prints a resource. -/
  | print (v : Value)
  /-- Prints an HTTP route with a name, in the namespace of the filter. -/
  | route (name : Value)
  /-- Writes to standard output. -/
  | write (s : String)
  /-- Fails. -/
  | fail (f : Failure)
deriving Repr

/-- An installed engine. -/
structure Engine where
  name : String
  /-- The place it is loaded from. -/
  origin : String
  /-- What loading it fails with. -/
  loadFailure : Option Failure
  /-- Whether what is loaded can be called. -/
  callable : Bool
  actions : List Engine.Action
deriving Repr

/-- A call of an engine. -/
structure Engine.Call where
  engine : String
  printer : String
  filter : String
deriving DecidableEq, Repr, Inhabited

/-- What a computation that may call engines leaves behind. -/
structure Engine.Outcome where
  calls : List Engine.Call
  out : String
  records : List Log.Record
  failure : Option Failure
deriving Repr

namespace Engine

/-- The route that an engine makes for a name. -/
def routeOf (name : Value) (filter : String) : Value :=
  .map [(.text "apiVersion", .text "gateway.networking.k8s.io/v1"),
    (.text "kind", .text "HTTPRoute"),
    (.text "metadata", .map [(.text "name", name),
      (.text "namespace", .text (if filter.isEmpty then "default" else filter))])]

/-- One action: the printer afterwards, the text written, and the failure if any. -/
def act (filter : String) (p : Printer) : Action → Printer × String × Option Failure
  | .print v =>
    let r := p.print v
    (r.printer, r.out, r.fault.map fun f ↦ .foreign f.error)
  | .route name =>
    let r := p.print (routeOf name filter)
    (r.printer, r.out, r.fault.map fun f ↦ .foreign f.error)
  | .write s => (p, s, none)
  | .fail f => (p, "", some f)

/-- Actions in turn up to the first one that fails. -/
def perform (filter : String) : Printer → List Action → String × Option Failure
  | _, [] => ("", none)
  | p, a :: rest =>
    match act filter p a with
    | (_, out, some f) => (out, some f)
    | (p, out, none) =>
      let (more, f) := perform filter p rest
      (out ++ more, f)

/-- A call of an engine with a fresh printer and a filter. -/
def run (e : Engine) (p : Printer) (filter : String) : Outcome :=
  let (out, f) := perform filter p e.actions
  { calls := [⟨e.name, p.name, filter⟩], out := out, records := [], failure := f }

end Engine

end GatewayPrint
