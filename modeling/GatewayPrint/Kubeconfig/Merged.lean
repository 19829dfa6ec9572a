import GatewayPrint.Files.Tree
import GatewayPrint.Kubeconfig.Node

/-!
# Merged kubeconfig files

Several files count as one configuration. Of clusters, contexts and users of one name the first one
wins, within a file and across files; the current context is that of the first file that sets one.

## Entries of any shape

Nothing is known of a document before it is merged. An entry is compared by its name with those that
stand in its list, one after another, and either of the two may have none; a name may be a value of
any kind. What is wrong is found only when merging comes to it, so the order of the steps decides
which fault is reported.

## Names of nodes

An entry that is new becomes a node, and the node is named after its file and after the entry in
words. Only messages show that name, but the words must be there: an entry with a number of too many
digits cannot be added.
-/

namespace GatewayPrint.Kubeconfig

/-- The lists of a configuration. -/
inductive Section where
  | clusters
  | contexts
  | users
deriving DecidableEq, Repr, Inhabited

def Section.key : Section → String
  | clusters => "clusters"
  | contexts => "contexts"
  | users => "users"

/-- The configuration of some files: the name of the first one, the lists, and the documents by the
names of their files. -/
structure Merged where
  name : String
  clusters : List Node
  contexts : List Node
  users : List Node
  documents : List (String × Datum)
deriving Repr, Inhabited

namespace Merged

def list (m : Merged) : Section → List Node
  | .clusters => m.clusters
  | .contexts => m.contexts
  | .users => m.users

/-- The configuration with another list of a section. -/
def setList (m : Merged) (nodes : List Node) : Section → Merged
  | .clusters => { m with clusters := nodes }
  | .contexts => { m with contexts := nodes }
  | .users => { m with users := nodes }

/-- Whether a name that is there equals a new one. A container is no name and equals nothing. -/
def sameName (known new : Datum) : Bool :=
  !known.isContainer && Value.same known.resolved new.resolved

/-- Whether a node of the name of an item is there; looked up node by node until one is found. -/
def isTaken (item : Datum) : List Node → Except Fault Bool
  | [] => .ok false
  | n :: rest => do
    let known ← n.get "name"
    match item.subscript "name" with
    | .error f => .error (.shape f)
    | .ok new => if sameName known new then .ok true else isTaken item rest

/-- Adds the items of a file whose name is not taken, one after another. -/
def addItems (path : String) : List Datum → List Node → Except Fault (List Node)
  | [], nodes => .ok nodes
  | item :: rest, nodes => do
    if ← isTaken item nodes then addItems path rest nodes
    else addItems path rest (nodes ++ [⟨path ++ "/" ++ (← item.display), item⟩])

/-- The items that a document gives for a key; anything that counts as absent gives none. -/
def itemsOf (document : Datum) (key : String) : Except ShapeFault (List Datum) := do
  match ← document.field? key with
  | none => return []
  | some d => if d.resolved.truthy then d.elements else return []

def addSection (path : String) (document : Datum) (m : Merged) (s : Section) :
    Except Fault Merged :=
  match itemsOf document s.key with
  | .error f => .error (.shape f)
  | .ok items => (addItems path items (m.list s)).map fun nodes ↦ m.setList nodes s

/-- The configuration that a first document starts; the document takes entries. -/
def start (path : String) (document : Datum) : Except Fault Merged :=
  match document.resolved with
  | .map _ => .ok ⟨path, [], [], [], []⟩
  | .list _ => .error (.shape (.badIndex "list"))
  | v => .error (.shape (.notAssignable v.qualifiedKind))

/-- The configuration with the document of one more file. -/
def addDocument (path : String) (document : Datum) (m : Option Merged) : Except Fault Merged := do
  match document.resolved with
  | .null => .error (.emptyFile path)
  | _ => pure ()
  let m ← match m with
    | none => start path document
    | some m => .ok m
  let m ← addSection path document m .clusters
  let m ← addSection path document m .contexts
  let m ← addSection path document m .users
  return { m with documents := (path, document) :: m.documents }

/-- The document in a file. -/
def load (t : FileTree) (path : String) : Except Fault Datum :=
  match t.find path with
  | .file content =>
    match Yaml.load content t.room with
    | .ok d => .ok ⟨d.root, d.cells⟩
    | .error f => .error (.yaml path f)
  | .sealed => .error (.unread .denied path)
  | _ => .error (.unread .isFolder path)

/-- Adds the files of some names in order. -/
def addFiles (t : FileTree) : List String → Option Merged → Except Fault (Option Merged)
  | [], m => .ok m
  | path :: rest, m => do
    let document ← load t path
    let m ← addDocument path document m
    addFiles t rest (some m)

def namesIn (s : String) : List String :=
  ((Text.splitOn ':' s.toList).filter fun p ↦ !p.isEmpty).map String.ofList

/-- The configuration in the files that a text lists between colons; a name without a file is
skipped. -/
def ofFiles (t : FileTree) (accounts : List Account) (home s : String) :
    Except Fault (Option Merged) :=
  addFiles t (((namesIn s).map (Path.expandText accounts home)).filter t.holds) none

/-! ## Contexts -/

/-- The context that is current: that of the first of some files that sets one. -/
def currentContext (m : Merged) : List String → Except Fault String
  | [] => .ok ""
  | path :: rest =>
    match (m.documents.lookup path).bind fun d ↦ d.lookup? "current-context" with
    | some d => if d.resolved.truthy then d.display else m.currentContext rest
    | none => m.currentContext rest

/-- The name of the list of contexts. -/
def contextsName (m : Merged) : String := m.name ++ "/contexts"

/-- The context of a name among some; every context must have a name, and no two this one. -/
def findContext (m : Merged) (name : String) : List Node → Option Node → Except Fault (Option Node)
  | [], found => .ok found
  | n :: rest, found =>
    match n.datum.contains "name" with
    | .error f => .error (.shape f)
    | .ok false => .error (.unnamed m.contextsName)
    | .ok true => do
      let d ← n.get "name"
      if Datum.isText name d.resolved then
        if found.isSome then .error (.ambiguous name m.contextsName)
        else m.findContext name rest (some n)
      else m.findContext name rest found

def contextNamed? (m : Merged) (name : String) : Except Fault (Option Node) :=
  m.findContext name m.contexts none

/-- The text of a value that counts as present, and nothing for others. -/
def textOf : Option Datum → Except Fault String
  | some d => if d.resolved.truthy then d.display else .ok ""
  | none => .ok ""

def namespaceOf (m : Merged) (name : String) : Except Fault String := do
  match ← m.contextNamed? name with
  | none => .error (.missingContext name)
  | some n =>
    match n.get? "context" with
    | .error f => .error (.shape f)
    | .ok none => return ""
    | .ok (some details) =>
      if !details.resolved.truthy then return ""
      else
        match details.resolved with
        | .map _ => textOf (details.lookup? "namespace")
        | v => .error (.badContext name v.kindName)

end Merged

end GatewayPrint.Kubeconfig
