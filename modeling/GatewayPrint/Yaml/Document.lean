import GatewayPrint.Value.Display
import GatewayPrint.Value.SetOrder
import GatewayPrint.Yaml.Nesting
import GatewayPrint.Yaml.Node
import GatewayPrint.Yaml.Scalar

/-!
# The values of YAML documents

A document is turned into a value in two passes over its nodes. The first one visits them and finds
what is wrong, if anything is; the second one builds the value. What building comes to has been
visited, so nothing is wrong with it.

## The order of visits

Nodes are visited level by level: a container that is come upon waits until those before it have
been visited, and a container that several aliases lead to is visited once. The order is a list of
steps (`Yaml.Node.steps`) that does not depend on whether something is wrong on the way, and a
document is refused for the first of its steps at which something is (`Yaml.Node.firstFault?`).

## Merge keys

They are resolved when a mapping is visited: the entries merged into it come before its own, so that
its own win.

## Containers within themselves

An alias may stand for a container that it is in. Such a container is kept apart from the value of
the document, under the position where it starts, and the value refers to it.
-/

namespace GatewayPrint.Yaml

/-- A document: its value, and the containers in it that contain themselves. -/
structure Document where
  root : Value
  cells : Value.Cells
deriving Repr, Inhabited

/-- The nodes that anchors name. -/
abbrev Anchors := List (String × Node)

namespace Node

def kindName : Node → String
  | scalar .. => "scalar"
  | seq .. => "sequence"
  | map .. => "mapping"
  | «alias» .. => "alias"

mutual

def anchors : Node → Anchors
  | scalar tag text mark a => (a.map fun name ↦ (name, scalar tag text mark a)).toList
  | seq tag items mark a =>
    (a.map fun name ↦ (name, seq tag items mark a)).toList ++ itemAnchors items
  | map tag entries mark a =>
    (a.map fun name ↦ (name, map tag entries mark a)).toList ++ entryAnchors entries
  | «alias» .. => []

/-- The anchored nodes of a list of trees. -/
def itemAnchors : List Node → Anchors
  | [] => []
  | n :: rest => anchors n ++ itemAnchors rest

def entryAnchors : List (Node × Node) → Anchors
  | [] => []
  | (k, v) :: rest => anchors k ++ anchors v ++ entryAnchors rest

end

/-- The node that an alias stands for; any other node is itself. -/
def deref (env : Anchors) : Node → Node
  | «alias» name mark => (env.lookup name).getD («alias» name mark)
  | n => n

def tag : Node → Tag
  | scalar t .. => t
  | seq t .. => t
  | map t .. => t
  | «alias» .. => .null

/-! ## Merge keys -/

/-- The value key stands for a text in a mapping. -/
def plainKey : Node → Node
  | scalar .value text mark a => scalar .text text mark a
  | n => n

/-- The first result that is an error, or all results. -/
def sequence {ε α : Type} : List (Except ε α) → Except ε (List α)
  | [] => .ok []
  | x :: xs => do
    let y ← x
    let ys ← sequence xs
    .ok (y :: ys)

/-- The entries of a mapping without its merge keys: merged entries first, then its own. `shown` are
the aliases being followed and `fuel` bounds the depth of merging. -/
def flatten (env : Anchors) (mark : Mark) :
    Nat → List String → List (Node × Node) → Except Fault (List (Node × Node))
  | 0, _, entries => .ok entries
  | fuel + 1, shown, entries => do
    let follow (n : Node) : List String := match n with
      | «alias» name _ => name :: shown
      | _ => shown
    let closed (n : Node) : Bool := match n with
      | «alias» name _ => shown.contains name
      | _ => false
    let one (n : Node) : Except Fault (List (Node × Node)) :=
      if closed n then .ok []
      else match n.deref env with
        | map _ es m _ => flatten env m fuel (follow n) es
        | other => .error (.error ⟨.constructor, some (.mapping, mark),
            .notMergeableItem other.kindName, other.mark⟩)
    let merged ← sequence ((entries.filter fun e ↦ (e.1.deref env).tag == .merge).map fun e ↦
      if closed e.2 then .ok []
      else match e.2.deref env with
        | map _ es m _ => flatten env m fuel (follow e.2) es
        | seq _ items _ _ => (sequence (items.map one)).map fun parts ↦ parts.reverse.flatten
        | other => .error (.error ⟨.constructor, some (.mapping, mark),
            .notMergeable other.kindName, other.mark⟩))
    let own := entries.filter fun e ↦ (e.1.deref env).tag != .merge
    .ok (merged.flatten ++ own.map fun e ↦ (plainKey (e.1.deref env), e.2))

/-! ## The order of visits -/

/-- Whether a tag asks for a container. -/
def isContainerTag : Tag → Bool
  | .seq | .map | .set | .orderedMap | .pairs => true
  | _ => false

/-- The tag, the text and the position of the scalar that a node stands for. A mapping stands for
the scalar under its value key. -/
def scalarSource (env : Anchors) : Nat → Node → Except Fault (Tag × String × Mark)
  | _, scalar tag text mark _ => .ok (tag, text, mark)
  | 0, n => .error (constructFault (.notScalarNode n.kindName) n.mark)
  | fuel + 1, map tag entries mark _ =>
    match tag with
    | .other uri => .error (constructFault (.unknownTag uri) mark)
    | .merge | .value | .indicator => .error (constructFault (.unknownTag tag.uri) mark)
    | tag =>
      match entries.find? fun e ↦ (e.1.deref env).tag == .value with
      | some e =>
        match e.2.deref env with
        | scalar _ text m _ =>
          if tag = .timestamp then .error (.scalar .timestampNode) else .ok (tag, text, m)
        | map _ es m a => scalarSource env fuel (map tag es m a)
        | other => .error (constructFault (.notScalarNode other.kindName) other.mark)
      | none => .error (constructFault (.notScalarNode "mapping") mark)
  | _, n =>
    match n.tag with
    | .other uri => .error (constructFault (.unknownTag uri) n.mark)
    | .merge | .value | .indicator => .error (constructFault (.unknownTag n.tag.uri) n.mark)
    | _ => .error (constructFault (.notScalarNode n.kindName) n.mark)

/-- The value of a node whose tag asks for a scalar. -/
def scalarOf (env : Anchors) (fuel : Nat) (n : Node) : Except Fault Value := do
  let (tag, text, mark) ← scalarSource env fuel n
  scalarValue tag text mark

end Node

/-- One step of visiting a document. -/
inductive Step where
  /-- A node is looked at. -/
  | look (n : Node)
  /-- The document is refused. -/
  | refuse (f : Fault)
deriving Repr, Inhabited

namespace Step

/-- The container that a step comes upon. -/
def container? (env : Anchors) : Step → Option Node
  | look n => if Node.isContainerTag (n.deref env).tag then some (n.deref env) else none
  | refuse _ => none

/-- What is wrong at a step. -/
def fault? (env : Anchors) (fuel : Nat) : Step → Option Fault
  | look n =>
    if Node.isContainerTag (n.deref env).tag then none
    else
      match Node.scalarOf env fuel (n.deref env) with
      | .ok _ => none
      | .error f => some f
  | refuse f => some f

end Step

namespace Node

/-- The steps of visiting an entry of a mapping; a key must be a scalar. -/
def entrySteps (env : Anchors) (mark : Mark) (e : Node × Node) : List Step :=
  let key := e.1.deref env
  .look key :: if isContainerTag key.tag then
      [.refuse (.error ⟨.constructor, some (.mapping, mark), .unhashable, key.mark⟩)]
    else [.look e.2]

/-- The steps of visiting an item of an ordered mapping or a list of pairs: a mapping of one
entry. -/
def pairSteps (env : Anchors) (context : Context) (mark : Mark) (n : Node) : List Step :=
  match n.deref env with
  | map _ [(k, v)] _ _ => [.look k, .look v]
  | map _ es m _ =>
    [.refuse (.error ⟨.constructor, some (context, mark), .notSingleItem es.length, m⟩)]
  | other =>
    [.refuse (.error ⟨.constructor, some (context, mark), .notSingleMapping other.kindName,
      other.mark⟩)]

/-- The steps of visiting what a container holds. -/
def stepsIn (env : Anchors) (fuel : Nat) (n : Node) : List Step :=
  match n.tag, n with
  | .seq, seq _ items _ _ => items.map .look
  | .seq, n => [.refuse (constructFault (.notSequenceNode n.kindName) n.mark)]
  | .orderedMap, seq _ items mark _ => items.flatMap (pairSteps env .orderedMap mark)
  | .orderedMap, n => [.refuse (.error ⟨.constructor, some (.orderedMap, n.mark),
      .notSequence n.kindName, n.mark⟩)]
  | .pairs, seq _ items mark _ => items.flatMap (pairSteps env .pairs mark)
  | .pairs, n => [.refuse (.error ⟨.constructor, some (.pairs, n.mark),
      .notSequence n.kindName, n.mark⟩)]
  | _, map _ entries mark _ =>
    match flatten env mark fuel [] entries with
    | .ok entries => entries.flatMap (entrySteps env mark)
    | .error f => [.refuse f]
  | _, n => [.refuse (constructFault (.notMappingNode n.kindName) n.mark)]

/-- The steps of visiting waiting containers, first come first; `seen` are the positions of those
visited. -/
def stepsFrom (env : Anchors) (depth : Nat) : Nat → List Nat → List Node → List Step
  | _, _, [] => []
  | 0, _, _ => []
  | fuel + 1, seen, n :: rest =>
    if seen.contains n.mark.index then stepsFrom env depth fuel seen rest
    else
      let steps := stepsIn env depth n
      steps ++ stepsFrom env depth fuel (n.mark.index :: seen)
        (rest ++ steps.filterMap fun x ↦ x.container? env)

/-- The steps of visiting a document, level by level. -/
def steps (env : Anchors) (fuel : Nat) (n : Node) : List Step :=
  .look n :: stepsFrom env fuel (fuel * fuel) [] ((Step.look n).container? env).toList

/-- What is wrong with a document, at the first step where something is. -/
def firstFault? (env : Anchors) (fuel : Nat) (n : Node) : Option Fault :=
  (steps env fuel n).findSome? fun x ↦ x.fault? env fuel

/-! ## Building values -/

/-- What building keeps: the values of anchored nodes with the enclosing containers they refer to,
and the containers that contain themselves. -/
structure BuildState where
  known : List (Nat × Value × List Nat)
  cells : Value.Cells

abbrev Build := StateM BuildState

/-- Ends a container at position `p`. `inner` are the containers around or at `p` that it refers to;
when there are any, it contains itself and is kept apart. -/
def close (p : Nat) (anchored : Bool) (v : Value) (inner : List Nat) :
    Build (Value × List Nat) := do
  let left := inner.filter (· ≠ p)
  let result := if inner.isEmpty then v else .ref p
  modify fun s ↦
    { cells := if inner.isEmpty then s.cells else (p, v) :: s.cells
      known := if anchored then (p, result, left) :: s.known else s.known }
  return (result, left)

mutual

/-- The value of a node, and the enclosing containers it refers to; `around` are the positions of
the enclosing containers. -/
def buildNode (env : Anchors) : Nat → List Nat → Node → Build (Value × List Nat)
  | 0, _, _ => return (.null, [])
  | fuel + 1, around, n => do
    let m := n.deref env
    let p := m.mark.index
    if !isContainerTag m.tag then
      return ((scalarOf env fuel m).toOption.getD .null, [])
    if around.contains p then return (.ref p, [p])
    match (← get).known.lookup p with
    | some (v, left) => return (v, left.filter around.contains)
    | none =>
      match m with
      | seq tag items _ a =>
        if tag = .seq then
          let (vs, inner) ← buildItems env fuel (p :: around) items
          close p a.isSome (.list vs) inner
        else
          let (vs, inner) ← buildPairs env fuel (p :: around) items
          close p a.isSome (.list vs) inner
      | map tag entries mark a =>
        let entries := (flatten env mark fuel [] entries).toOption.getD []
        let (es, inner) ← buildEntries env fuel (p :: around) entries
        let es := Value.collect es
        close p a.isSome (if tag = .set then .setOfKeys (es.map Prod.fst) else .map es) inner
      | _ => return (.null, [])

/-- The values of nodes in turn. -/
def buildItems (env : Anchors) : Nat → List Nat → List Node → Build (List Value × List Nat)
  | 0, _, _ => return ([], [])
  | _, _, [] => return ([], [])
  | fuel + 1, around, n :: rest => do
    let (v, inner) ← buildNode env fuel around n
    let (vs, others) ← buildItems env fuel around rest
    return (v :: vs, inner ++ others)

def buildEntries (env : Anchors) :
    Nat → List Nat → List (Node × Node) → Build (List (Value × Value) × List Nat)
  | 0, _, _ => return ([], [])
  | _, _, [] => return ([], [])
  | fuel + 1, around, (k, v) :: rest => do
    let (key, _) ← buildNode env fuel around k
    let (value, inner) ← buildNode env fuel around v
    let (es, others) ← buildEntries env fuel around rest
    return ((key, value) :: es, inner ++ others)

/-- The pairs of an ordered mapping or a list of pairs. -/
def buildPairs (env : Anchors) : Nat → List Nat → List Node → Build (List Value × List Nat)
  | 0, _, _ => return ([], [])
  | _, _, [] => return ([], [])
  | fuel + 1, around, n :: rest => do
    let (v, inner) ← match n.deref env with
      | map _ [(k, v)] _ _ => do
        let (key, keyInner) ← buildNode env fuel around k
        let (value, valueInner) ← buildNode env fuel around v
        pure (Value.tuple [key, value], keyInner ++ valueInner)
      | _ => pure (.null, [])
    let (vs, others) ← buildPairs env fuel around rest
    return (v :: vs, inner ++ others)

end

/-- The document with a root; `fuel` bounds the depth of nodes. -/
def toDocument (fuel : Nat) (n : Node) : Except Fault Document :=
  let env := n.anchors
  match firstFault? env fuel n with
  | some f => .error f
  | none =>
    let ((root, _), s) := (buildNode env fuel [] n).run ⟨[], []⟩
    .ok ⟨root, s.cells⟩

end Node

/-! ## Streams -/

/-- The depth that bounds the nodes of a stream. -/
def depthBound (s : Stream) : Nat := 2 * s.text.length + 16

/-- The document that a stream holds for a reader with some room; an empty stream holds null. -/
def loadStream (room : Option Nat) (s : Stream) : Except Fault Document := do
  let (ts, behind) := scan room s
  match ← Node.ofTokens ts behind with
  | none => return ⟨.null, []⟩
  | some root => root.toDocument (depthBound s)

def loadText (s : List Char) : Except Fault Document := loadStream none (.ofText s none)

/-- The document that the bytes of a file hold for a reader with some room. -/
def load (bs : List UInt8) (room : Option Nat) : Except Fault Document :=
  loadStream room (.ofBytes bs)

end GatewayPrint.Yaml
