import GatewayPrint.Resource.Model

/-!
# Resources as plain data

What a printer is given may be a mapping, a Kubernetes model, or an object of a declared class. It
is printed as a mapping of plain data: models and objects by their fields, times and exact numbers
as text, members of enumerations by the value they stand for.
-/

namespace GatewayPrint.Resource

/-- Why an object is no resource. -/
inductive Fault where
  /-- Neither a mapping nor of a declared class. -/
  | notResource (kind : String)
  /-- An object inside without fields. -/
  | noFields (kind : String)
  /-- Its data is no mapping. -/
  | noLookup (kind : String)
  /-- Neither an API version nor a kind. -/
  | missingKind
deriving DecidableEq, Repr

def Fault.message : Fault → String
  | .notResource kind =>
    "cannot print object of type " ++ kind ++ "; expected a mapping or a kubernetes model"
  | .noFields kind => "'" ++ kind ++ "' object has no attribute '__dict__'"
  | .noLookup kind => "'" ++ kind ++ "' object has no attribute 'get'"
  | .missingKind => "missing apiVersion or kind"

def Fault.errorName : Fault → String
  | .notResource _ => "TypeError"
  | .noFields _ | .noLookup _ => "AttributeError"
  | .missingKind => "ValueError"

/-- The value of a named field, put back as an entry under its wire name. -/
def textEntry (e : String × Value) : Value × Value := (.text e.1, e.2)

/-- Takes the first fault out of a list of entries. -/
def collect : List (String × Except Fault Value) → Except Fault (List (String × Value))
  | [] => .ok []
  | (name, r) :: rest => do
    let v ← r
    let es ← collect rest
    .ok ((name, v) :: es)

mutual

def plain : Value → Except Fault Value
  | .member v => .ok v
  | .secret s => .ok (.text s)
  | .uuid s => .ok (.text s)
  | .date d => .ok (.text d.iso)
  | .datetime t => .ok (.text t.iso)
  | .decimal d => .ok (.text d.text)
  | .list items => (plainItems items).map .list
  | .tuple items => (plainItems items).map .tuple
  | .map entries => (plainEntries entries).map .map
  | .model kind attrs =>
    (collect (Model.wire kind (plainFields attrs))).map fun es ↦ .map (es.map textEntry)
  | .exporting v => plain v
  | .record _ attrs => (plainAttrs attrs).map fun es ↦ Value.mapOf (es.map textEntry)
  | .set _ => .error (.noFields "set")
  | .view _ => .error (.noFields "mappingproxy")
  | v => .ok v

/-- Values as plain data, in turn. -/
def plainItems : List Value → Except Fault (List Value)
  | [] => .ok []
  | x :: xs => do
    let y ← plain x
    let ys ← plainItems xs
    .ok (y :: ys)

/-- Entries with their values as plain data. -/
def plainEntries : List (Value × Value) → Except Fault (List (Value × Value))
  | [] => .ok []
  | (k, v) :: rest => do
    let w ← plain v
    let es ← plainEntries rest
    .ok ((k, w) :: es)

/-- Attributes with their values as plain data. -/
def plainAttrs : List (String × Value) → Except Fault (List (String × Value))
  | [] => .ok []
  | (name, v) :: rest => do
    let w ← plain v
    let es ← plainAttrs rest
    .ok ((name, w) :: es)

/-- The attributes of a model that are not null, each with its value as plain data. -/
def plainFields : List (String × Value) → List (String × Except Fault Value)
  | [] => []
  | (name, v) :: rest =>
    if Model.isNull v then plainFields rest else (name, plain v) :: plainFields rest

end

/-- Whether an object is of a class that declares the types of an API. -/
def isDeclared : Value → Bool
  | .model .. => true
  | .exporting _ => true
  | .record declared attrs => declared || (attrs.lookup "openapi_types").isSome
  | _ => false

/-- The value under a text key of data that has look-up. -/
def field (data : Value) (key : String) : Except Fault Value :=
  match data with
  | .map entries => .ok ((Value.lookup key entries).getD .null)
  | .view entries => .ok ((Value.lookup key entries).getD .null)
  | v => .error (.noLookup v.qualifiedKind)

/-- The data of a resource: of a mapping or an object of a declared class. -/
def data (v : Value) : Except Fault Value :=
  match v with
  | .map entries => plain (.map entries)
  | .view entries => plain (.map entries)
  | v => if isDeclared v then plain v else .error (.notResource v.kindName)

/-- A resource as the mapping that is printed; it has an API version or a kind. -/
def normalize (v : Value) : Except Fault Value := do
  let d ← data v
  let version ← field d "apiVersion"
  let kind ← field d "kind"
  if version.truthy || kind.truthy then .ok d else .error .missingKind

end GatewayPrint.Resource
