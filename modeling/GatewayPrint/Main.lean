import GatewayPrint.App

/-!
# The command line

Runs the program in its real surroundings: the files that a run may look at are read beforehand, so
that the run itself is a function of them. A bare installation has no engines and no packages.
-/

namespace GatewayPrint.Surroundings

/-- The environment variables that a run looks at. -/
def variableNames : List String :=
  ["HOME", "KUBECONFIG", "KUBERNETES_SERVICE_HOST", "KUBERNETES_SERVICE_PORT", "POD_NAMESPACE"]

/-- How many containers within one another the reader of a file can follow. -/
def room : Nat := 480

/-- The accounts of the system. -/
def accounts : IO (List Account) := do
  match ← (IO.FS.readFile "/etc/passwd").toBaseIO with
  | .error _ => return []
  | .ok table =>
    let lines := (Text.splitOn '\n' table.toList).map fun line ↦
      (Text.splitOn ':' line).map String.ofList
    return lines.filterMap fun fields ↦ match fields with
      | name :: _ :: _ :: _ :: _ :: home :: _ => Account.of? name home
      | _ => none

/-- The texts of places that a run with some kubeconfig argument may look at. -/
def candidates (accounts : List Account) (env : Environment) (explicitPath : String) :
    List String :=
  let account := Path.ofText Kubeconfig.Source.defaultAccount
  let named := explicitPath :: Kubeconfig.Source.defaultHomeFile
    :: Kubeconfig.Merged.namesIn (env.get "KUBECONFIG")
  let named := (named.map fun s ↦ (Path.ofText s).text).flatMap fun s ↦
    s :: Kubeconfig.Merged.namesIn s
  (named.map (Path.expandText accounts (env.get "HOME")))
    ++ [(account.append "token").text, (account.append "namespace").text]

/-- The names of a path from the root with steps up taken back. -/
def straight : List String → List String → List String
  | done, [] => done.reverse
  | done, ".." :: rest => straight (done.drop 1) rest
  | done, name :: rest => straight (name :: done) rest

/-- The names of a path with steps up taken back, if it does not lead above where it starts. -/
def straight? : List String → List String → Option (List String)
  | done, [] => some done.reverse
  | [], ".." :: _ => none
  | _ :: done, ".." :: rest => straight? done rest
  | done, name :: rest => straight? (name :: done) rest

/-- What is at a place, if anything is seen there. A folder that may be entered has a place within
itself, and one that may not denies it. -/
def look (place : String) : IO (Option FileTree.Entry) := do
  match ← (IO.FS.realPath place).toBaseIO, ← (IO.FS.realPath (place ++ "/.")).toBaseIO with
  | .error _, _ => return none
  | .ok _, .ok _ => return some .folder
  | .ok _, .error (.permissionDenied ..) => return some .closed
  | .ok _, .error _ =>
    match ← (IO.FS.readBinFile place).toBaseIO with
    | .ok content => return some (.file content.toList)
    | .error _ => return some .sealed

/-- The path from the root that a path means in a working directory. -/
def absolute (directory : List String) (p : Path) : Path :=
  ⟨FileTree.rootName, straight [] (if p.root.isEmpty then directory ++ p.parts else p.parts)⟩

/-- Adds what is at a place and at the places on the way to it, under its path as it is written and
under its path from the root. -/
def gather (directory : List String) (t : FileTree) (place : String) : IO FileTree := do
  let whole := Path.ofText place
  let mut tree := t
  for n in List.range whole.parts.length do
    let part : Path := ⟨whole.root, whole.parts.take (n + 1)⟩
    let here := if whole.root.isEmpty then straight? [] part.parts else none
    let targets := absolute directory part :: (here.map fun names ↦ ⟨"", names⟩).toList
    match ← look part.text with
    | some (.file content) => tree := targets.foldl (fun t p ↦ t.write p content) tree
    | some .folder => tree := targets.foldl (fun t p ↦ t.makeFolder p) tree
    | some e => tree := targets.foldl (fun t p ↦ t.put (FileTree.namesOf p) e) tree
    | none => pure ()
  return tree

/-- The surroundings of a run with some arguments. -/
def ofSystem (args : List String) : IO App.Surroundings := do
  let mut env : Environment := []
  for name in variableNames do
    env := env.set name (← IO.getEnv name)
  let explicitPath := match CommandLine.parse args with
    | .ok s => (s.kubeconfig.map CommandLine.Argument.text).getD ""
    | .error _ => ""
  let directory := (Path.ofText (toString (← IO.currentDir))).parts
  let accounts ← accounts
  let mut files : FileTree := { entries := [], location := some directory, room := some room }
  for place in candidates accounts env explicitPath do
    files ← gather directory files place
  let width := ((← IO.getEnv "COLUMNS").bind String.toNat?).getD 80
  return {
    source := {
      explicitPath := none
      env := env
      home := env.get "HOME"
      homeFile := .ofText Kubeconfig.Source.defaultHomeFile
      account := .ofText Kubeconfig.Source.defaultAccount
      files := files
      accounts := accounts }
    installation := { interpreter := [], packages := [], engines := [] }
    width := width }

end GatewayPrint.Surroundings

open GatewayPrint

def main (args : List String) : IO UInt32 := do
  let r := App.cli (← Surroundings.ofSystem args) args
  IO.print r.out
  IO.eprint r.err
  match r.ending with
  | .exited (.number n) => return UInt32.ofNat (n % 256).toNat
  | .exited (.text s) =>
    IO.eprintln s
    return 1
  | _ => return 0
