import GatewayPrint.Kubeconfig.Discovery
import GatewayPrint.Log

/-!
# The active namespace

The namespace of the current context of the kubeconfig files; without any content in them, that of
the pod the program runs in. Every look-up reads the files again.

## Read twice

A file is read once to see whether it says anything, and once more when it is merged. For the second
time its name is joined with those of the other files by colons, cut off again, and searched for a
tilde again. Documents are kept under the names that come out of this, and the current context is
looked for under the names that went in.

## What is handled when

Looking for files comes before everything is guarded, reading and merging come after. So one fault,
a token that a look does not get to, is passed on before and handled after (`afterReading`).
-/

namespace GatewayPrint.Kubeconfig.Source

def logger : String := "ingress2gateway.infra.kubeconfig"

/-- One record of the look-up. -/
def note (message : String) : Logged Unit := Logged.note (Log.debug logger message)

/-- A result or a fault without records. -/
def lift {α : Type} : Except Fault α → Logged α
  | .ok x => Logged.pure x
  | .error f => Logged.fail f.failure

/-- Whether a file says nothing: it has no content, or only comments. -/
def isBlank (s : Source) (p : Path) : Except Fault Bool :=
  match s.files.find p.text with
  | .file [] => .ok true
  | _ => (Merged.load s.files p.text).map fun d ↦
    match d.resolved with
    | .null => true
    | _ => false

/-- The files that say something. -/
def written (s : Source) : List Path → Except Fault (List Path)
  | [] => .ok []
  | p :: rest => do
    let blank ← s.isBlank p
    let others ← s.written rest
    return if blank then others else p :: others

/-- The text in the namespace file of the service account; nothing without a file. -/
def accountNamespace (s : Source) : Except Fault String :=
  let p := s.account.append "namespace"
  match s.files.find p.text with
  | .file content =>
    match Text.decodeUtf8 content with
    | .ok cs => .ok (String.ofList (Text.strip (Text.unifyNewlines cs)))
    | .error f => .error (.accountEncoding f)
  | .sealed => .error (.accountUnread .denied p.text)
  | .folder => .error (.accountUnread .isFolder p.text)
  | .missing => .ok ""
  | .barred o => .error (.accountUnread o.error p.text)

/-- The namespace of the pod: that of the environment, or that of the service account. -/
def podNamespace (s : Source) : Except Fault String := do
  if ← s.inCluster then
    let named := s.env.get "POD_NAMESPACE"
    if named.isEmpty then s.accountNamespace else return named
  else return ""

/-- A fault of the service account that is found out after kubeconfig files were read. -/
def afterReading : Fault → Fault
  | .unseen o path => .unread o.error path
  | f => f

/-- The namespace of the current context in some files. -/
def contextNamespace (s : Source) (paths : List String) : Logged String := do
  let merged ← lift (Merged.ofFiles s.files s.accounts s.home (":".intercalate paths))
  match merged with
  | none =>
    note "Kubeconfig has no current-context"
    return ""
  | some m =>
    let current ← lift (m.currentContext paths)
    if current.isEmpty then
      note "Kubeconfig has no current-context"
      return ""
    else lift (m.namespaceOf current)

/-- The namespace of the current context, and nothing when none is set. -/
def activeNamespace (s : Source) : Logged String := do
  let paths ← lift s.paths
  if paths.isEmpty then
    note "No kubeconfig file found"
    lift s.podNamespace
  else
    note ("Loading kubeconfig from " ++ ", ".intercalate (paths.map Path.text))
    let paths ← lift (s.written paths)
    if paths.isEmpty then
      note "Kubeconfig files are empty"
      lift (s.podNamespace.mapError afterReading)
    else s.contextNamespace (paths.map Path.text)

end GatewayPrint.Kubeconfig.Source
