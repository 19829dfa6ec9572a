import GatewayPrint.Engine.Registry
import GatewayPrint.Namespace.Filter

/-!
# Runs of the print command

A run selects the printer for the format that was asked for, then resolves the namespace filter, and
then calls the engine once with both. It stops at the first failure, so that a bad format or an
unreadable configuration prints nothing.
-/

namespace GatewayPrint.PrintRun

/-- What the engine is called with. -/
structure Request where
  printer : Printer
  filter : String
deriving DecidableEq, Repr, Inhabited

def logger : String := "ingress2gateway.core.print_service"

variable {σ : Type}

/-- The request that options amount to, and the state of the look-up afterwards. -/
def resolve (ask : σ → Logged String × σ) (o : PrintOptions) (s : σ) : Logged Request × σ :=
  match OutputFormat.select (.text o.outputFormat) with
  | .error f => (Logged.fail f, s)
  | .ok format =>
    let printer := Printer.new format
    let (filter, s) := o.filter ask s
    (filter.bind fun ns ↦
      ⟨[Log.debug logger ("Resolved printer=" ++ printer.name ++ " namespace_filter="
        ++ Text.quote ns)], .ok ⟨printer, ns⟩⟩, s)

/-- A failure of an engine as it leaves the run: an error of other code becomes a failed conversion,
everything else stays what it is. -/
def classify : Failure → Failure
  | .foreign e => .conversion ("Conversion failed: " ++ e.message) none (some e)
  | f => f

/-- A whole run: resolves the options and calls the engine. -/
def run (engine : Printer → String → Engine.Outcome) (ask : σ → Logged String × σ)
    (o : PrintOptions) (s : σ) : Engine.Outcome × σ :=
  let (request, s) := resolve ask o s
  match request.result with
  | .error f => ({ calls := [], out := "", records := request.records, failure := some f }, s)
  | .ok r =>
    let outcome := engine r.printer r.filter
    ({ outcome with
        records := request.records ++ outcome.records
        failure := outcome.failure.map classify }, s)

end GatewayPrint.PrintRun
