import GatewayPrint.Kubeconfig.Fault
import GatewayPrint.Yaml.Document

/-!
# Nodes of kubeconfig files

A node is a value of a document with the name that messages give it. What can be looked up in it
depends on the kind of the value: a mapping has keys, a sequence and a text can only be searched,
and other values have nothing in them.
-/

namespace GatewayPrint.Kubeconfig

/-- A value of a document, with the containers of the document that contain themselves. -/
structure Datum where
  value : Value
  cells : Value.Cells
deriving Repr, Inhabited

namespace Datum

/-- The value, with the container itself in place of a reference to it. -/
def resolved (d : Datum) : Value := d.value.resolve d.cells

/-- Another value of the same document. -/
def withValue (d : Datum) (v : Value) : Datum := { d with value := v }

def kind (d : Datum) : String := d.resolved.kindName

/-- The kind of the value with the module of a library kind. -/
def qualifiedKind (d : Datum) : String := d.resolved.qualifiedKind

/-- The text of the value on its own. -/
def display (d : Datum) : Except Fault String :=
  match d.value.display? d.cells with
  | some s => .ok s
  | none => .error .digits

/-- A sequence or a mapping. -/
def isContainer (d : Datum) : Bool :=
  match d.resolved with
  | .list _ => true
  | .map _ => true
  | _ => false

def occursIn (part : List Char) : List Char → Bool
  | [] => part.isEmpty
  | c :: rest => part.isPrefixOf (c :: rest) || occursIn part rest

def isText (key : String) : Value → Bool
  | .text s => s == key
  | _ => false

/-- The value under a key of a mapping. -/
def lookup? (d : Datum) (key : String) : Option Datum :=
  match d.resolved with
  | .map entries => (Value.lookup key entries).map d.withValue
  | _ => none

/-- Whether a text is in a value: among the keys of a mapping or the elements of a sequence, or as
part of a text. -/
def contains (d : Datum) (key : String) : Except ShapeFault Bool :=
  match d.resolved with
  | .map entries => .ok (Value.lookup key entries).isSome
  | .list items => .ok (items.any (isText key))
  | .tuple items => .ok (items.any (isText key))
  | .set items => .ok (items.any (isText key))
  | .text s => .ok (occursIn key.toList s.toList)
  | .bytes _ => .error .bytesSearch
  | v => .error (.notSearchable v.qualifiedKind)

/-- The value under a text key. -/
def subscript (d : Datum) (key : String) : Except ShapeFault Datum :=
  match d.resolved with
  | .map entries =>
    match Value.lookup key entries with
    | some v => .ok (d.withValue v)
    | none => .error (.missingKey key)
  | .list _ => .error (.badIndex "list")
  | .tuple _ => .error (.badIndex "tuple")
  | .bytes _ => .error (.badIndex "byte")
  | .text _ => .error .textIndex
  | v => .error (.notSubscriptable v.qualifiedKind)

/-- The elements of a value in order: the keys of a mapping, the characters of a text. -/
def elements (d : Datum) : Except ShapeFault (List Datum) :=
  match d.resolved with
  | .map entries => .ok (entries.map fun e ↦ d.withValue e.1)
  | .list items => .ok (items.map d.withValue)
  | .tuple items => .ok (items.map d.withValue)
  | .set items => .ok (items.map d.withValue)
  | .text s => .ok (s.toList.map fun c ↦ d.withValue (.text (String.ofList [c])))
  | .bytes bs => .ok (bs.map fun b ↦ d.withValue (.int b.toNat))
  | v => .error (.notIterable v.qualifiedKind)

/-- The value under a key of a document, which must be a mapping. -/
def field? (d : Datum) (key : String) : Except ShapeFault (Option Datum) :=
  match d.resolved with
  | .map entries => .ok ((Value.lookup key entries).map d.withValue)
  | v => .error (.noLookup v.qualifiedKind)

end Datum

/-- A value with the name that messages give it. -/
structure Node where
  name : String
  datum : Datum
deriving Repr, Inhabited

namespace Node

/-- The value under a key, if it is there. -/
def get? (n : Node) (key : String) : Except ShapeFault (Option Datum) := do
  if ← n.datum.contains key then return some (← n.datum.subscript key) else return none

/-- The value under a key, which must be there and not be null. -/
def get (n : Node) (key : String) : Except Fault Datum :=
  match n.get? key with
  | .error f => .error (.shape f)
  | .ok none => .error (.missingEntry key n.name)
  | .ok (some d) =>
    match d.resolved with
    | .null => .error (.missingEntry key n.name)
    | _ => .ok d

end Node

end GatewayPrint.Kubeconfig
