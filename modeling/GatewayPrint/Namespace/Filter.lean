import GatewayPrint.Log

/-!
# The namespace filter

A request for all namespaces wins over a namespace that was asked for, and that one over the
namespace of the current context. The empty filter stands for all namespaces.
-/

namespace GatewayPrint

/-- What the user asked for in one run. -/
structure PrintOptions where
  outputFormat : String := "yaml"
  requestedNamespace : String := ""
  allNamespaces : Bool := false
deriving DecidableEq, Repr, Inhabited

namespace PrintOptions

/-- The current context decides when neither a namespace nor all of them were asked for. -/
def asksContext (o : PrintOptions) : Bool := !o.allNamespaces && o.requestedNamespace.isEmpty

def filterLogger : String := "ingress2gateway.core.namespace_filter"

/-- The filter, and the state of the look-up afterwards. The look-up `ask` is used only when the
current context decides. -/
def filter {σ : Type} (ask : σ → Logged String × σ) (o : PrintOptions) (s : σ) :
    Logged String × σ :=
  if o.allNamespaces then
    if o.requestedNamespace.isEmpty then (Logged.pure "", s)
    else
      let message := "--all-namespaces overrides --namespace=" ++ o.requestedNamespace
      (⟨[Log.debug filterLogger message], .ok ""⟩, s)
  else if !o.requestedNamespace.isEmpty then (Logged.pure o.requestedNamespace, s)
  else
    let (answer, s) := ask s
    (answer.bind fun ns ↦
      ⟨[Log.debug filterLogger
        ("Using namespace from current context: " ++ Text.quote ns)], .ok ns⟩, s)

/-- Options are fixed once they are made: what is reported when one is assigned, or a name that is
no option. -/
def assign (name : String) : Foreign :=
  if name ∈ ["output_format", "namespace", "all_namespaces"] then
    ⟨"FrozenInstanceError", "cannot assign to field " ++ Text.quote name⟩
  else ⟨"TypeError", "super(type, obj): obj must be an instance or subtype of type"⟩

end PrintOptions

/-! ## Scripted sources -/

/-- A source that gives prepared answers in turn, the last one again and again. -/
structure ScriptedSource where
  answers : List (Except Failure String)
  asked : Nat

namespace ScriptedSource

/-- The answer that comes next. -/
def answer (s : ScriptedSource) : Except Failure String :=
  (s.answers[min s.asked (s.answers.length - 1)]?).getD (.ok "")

def ask (s : ScriptedSource) : Logged String × ScriptedSource :=
  (Logged.lift s.answer, { s with asked := s.asked + 1 })

end ScriptedSource

end GatewayPrint
