import GatewayPrint.Kubeconfig.Merged

/-!
# Where kubeconfig files are

A file that is named explicitly must be there. Otherwise the environment may list files, of which
those that are there count, each once. Otherwise there may be one below the home directory.

A tilde is replaced before a look is taken, and either may fail: there may be no home directory for
it, and the look may not get to its place. Both end the search, and both are errors of other code.
-/

namespace GatewayPrint

/-- Named texts of the environment. -/
abbrev Environment := List (String × String)

namespace Environment

/-- The text under a name; nothing when it is not set. -/
def get (env : Environment) (name : String) : String := (env.lookup name).getD ""

/-- The environment with a text in place of what was under a name. -/
def set (env : Environment) (name : String) (value : Option String) : Environment :=
  let others := env.filter fun e ↦ e.1 != name
  match value with
  | some v => (name, v) :: others
  | none => others

end Environment

namespace Kubeconfig

/-- All that decides where the namespace of the current context comes from. -/
structure Source where
  /-- The file that is named explicitly. -/
  explicitPath : Option Path
  env : Environment
  /-- The home directory. -/
  home : String
  /-- The file that is read when nothing else is said. -/
  homeFile : Path
  /-- The folder of the service account of a pod. -/
  account : Path
  files : FileTree
  /-- The accounts of the system; a tilde with a name stands for the home directory of one. -/
  accounts : List Account := Account.usual
deriving Repr, Inhabited

namespace Source

/-- The file that is read when nothing else is said, for an ordinary user. -/
def defaultHomeFile : String := "~/.kube/config"

/-- The folder of the service account inside a pod. -/
def defaultAccount : String := "/var/run/secrets/kubernetes.io/serviceaccount"

/-- A path with the home directory in place of a tilde. -/
def expand (s : Source) (p : Path) : Except Fault Path :=
  match p.expandHome s.accounts s.home with
  | some p => .ok p
  | none =>
    if p.parts.head?.any fun name ↦ name.toList.contains '\x00' then .error .nullCharacter
    else .error .noHome

/-- Whether something is at a path. -/
def exists? (s : Source) (p : Path) : Except Fault Bool :=
  match s.files.find p.text with
  | .file _ => .ok true
  | .sealed => .ok true
  | .folder => .ok true
  | .missing => .ok false
  | .barred o => .error (.unseen o p.text)

def isFile (s : Source) (p : Path) : Except Fault Bool :=
  match s.files.find p.text with
  | .file _ => .ok true
  | .sealed => .ok true
  | .folder => .ok false
  | .missing => .ok false
  | .barred o => .error (.unseen o p.text)

/-- Adds the listed files that are there and not yet in the list. -/
def listed (s : Source) : List String → List Path → Except Fault (List Path)
  | [], found => .ok found
  | name :: rest, found => do
    let p ← s.expand (.ofText name)
    let there ← s.exists? p
    s.listed rest (if there && !found.contains p then found ++ [p] else found)

/-- The files that are read, in order. -/
def paths (s : Source) : Except Fault (List Path) := do
  match s.explicitPath with
  | some p =>
    let p ← s.expand p
    if ← s.isFile p then return [p] else .error (.missingFile p.text)
  | none =>
    let list := s.env.get "KUBECONFIG"
    if !list.isEmpty then s.listed (Merged.namesIn list) []
    else
      let p ← s.expand s.homeFile
      if ← s.exists? p then return [p] else return []

/-- Whether the program runs inside a pod with a service account. -/
def inCluster (s : Source) : Except Fault Bool :=
  if (s.env.get "KUBERNETES_SERVICE_HOST").isEmpty
      || (s.env.get "KUBERNETES_SERVICE_PORT").isEmpty then .ok false
  else s.isFile (s.account.append "token")

end Source

end Kubeconfig

end GatewayPrint
