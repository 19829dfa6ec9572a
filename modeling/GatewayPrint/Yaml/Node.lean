import GatewayPrint.Yaml.Tag
import GatewayPrint.Yaml.TokenStream

/-!
# YAML nodes

A document as a tree of scalars, sequences and mappings, each with its tag, the position where it
starts, and its anchor. An alias is a leaf that names an anchor defined before it in the document.

## Parsing

The parser takes tokens one by one and looks at one more. What is wrong behind the tokens counts
only when it looks at the end of them (`Parse.peek`). Each call has fuel for the calls it makes,
more than there are tokens to take, so it does not run out before they do.
-/

namespace GatewayPrint.Yaml

/-- A node of a document. -/
inductive Node where
  | scalar (tag : Tag) (text : String) (mark : Mark) (anchor : Option String)
  | seq (tag : Tag) (items : List Node) (mark : Mark) (anchor : Option String)
  | map (tag : Tag) (entries : List (Node × Node)) (mark : Mark) (anchor : Option String)
  | «alias» (name : String) (mark : Mark)
deriving Repr, Inhabited

/-- The position where a node starts. -/
def Node.mark : Node → Mark
  | scalar _ _ m _ => m
  | seq _ _ m _ => m
  | map _ _ m _ => m
  | «alias» _ m => m

/-- The state of parsing: the tokens ahead, the fault after the last of them, the tag handles of the
document, and the anchors defined so far. -/
structure ParseState where
  ahead : List Token
  fault : Option Fault
  handles : List (String × String)
  anchors : List (String × Mark)

abbrev Parse := StateT ParseState (Except Fault)

namespace Parse

def parseFault (context : Option (Context × Mark)) (problem : Problem) (mark : Mark) : Fault :=
  .error ⟨.parser, context, problem, mark⟩

/-- The next token; after the last one, the fault that ended the stream. -/
def peek : Parse Token := do
  let s ← get
  match s.ahead with
  | t :: _ => return t
  | [] => throw (s.fault.getD (parseFault none .endOfStream ⟨0, 0, 0⟩))

def kind : Parse Token.Kind := return (← peek).kind

def take : Parse Token := do
  let t ← peek
  modify fun s ↦ { s with ahead := s.ahead.tail }
  return t

/-- A handle and a suffix as one tag, by the handles of the document. -/
def expandTag (start mark : Mark) (handle : Option String) (suffix : String) : Parse String := do
  match handle with
  | none => return suffix
  | some h =>
    match (← get).handles.lookup h with
    | some uri => return uri ++ suffix
    | none => throw (parseFault (some (.node, start)) (.undefinedHandle h) mark)

/-- What stands before a node: its anchor, its tag, and the position of the first of them. -/
structure Properties where
  anchor : Option String
  tag : Option String
  start : Option Mark

/-- The anchor and the tag before a node, in either order. -/
def properties : Parse Properties := do
  let t ← peek
  match t.kind with
  | .anchor name =>
    let _ ← take
    let u ← peek
    match u.kind with
    | .tag handle suffix =>
      let _ ← take
      return ⟨some name, some (← expandTag t.start u.start handle suffix), some t.start⟩
    | _ => return ⟨some name, none, some t.start⟩
  | .tag handle suffix =>
    let _ ← take
    let u ← peek
    match u.kind with
    | .anchor name =>
      let _ ← take
      return ⟨some name, some (← expandTag t.start t.start handle suffix), some t.start⟩
    | _ => return ⟨none, some (← expandTag t.start t.start handle suffix), some t.start⟩
  | _ => return ⟨none, none, none⟩

/-- Notes an anchor, which no other node of the document may have. -/
def define (anchor : Option String) (mark : Mark) : Parse Unit := do
  match anchor with
  | none => return
  | some name =>
    match (← get).anchors.lookup name with
    | some first =>
      throw (.error ⟨.composer, some (.duplicateAnchor name, first), .secondOccurrence, mark⟩)
    | none => modify fun s ↦ { s with anchors := (name, mark) :: s.anchors }

/-- Whether a tag leaves the type of a node to its form. -/
def isOpenTag (tag : Option String) : Bool := tag == none || tag == some "!"

def collectionTag (tag : Option String) (default : Tag) : Tag :=
  if isOpenTag tag then default else .ofUri (tag.getD "")

def scalarTag (tag : Option String) (text : String) (plain : Bool) : Tag :=
  if (plain && tag == none) || tag == some "!" then .ofPlain text
  else match tag with
    | none => .text
    | some uri => .ofUri uri

/-- An empty scalar where a node is left out. -/
def absent (mark : Mark) : Node := .scalar .null "" mark none

/-- Where a node may stand. -/
inductive Place where
  | flow
  | block
  /-- In a block mapping, where a sequence may stand without more indentation. -/
  | entry
deriving DecidableEq

mutual

def node (place : Place) : Nat → Parse Node
  | 0 => throw (parseFault none .endOfStream ⟨0, 0, 0⟩)
  | fuel + 1 => do
    let t ← peek
    match t.kind with
    | .alias name =>
      let _ ← take
      if ((← get).anchors.lookup name).isNone then
        throw (.error ⟨.composer, none, .undefinedAlias name, t.start⟩)
      return .alias name t.start
    | _ =>
      let p ← properties
      let t ← peek
      let mark := p.start.getD t.start
      match t.kind, place with
      | .blockEntry, .entry =>
        define p.anchor mark
        return .seq (collectionTag p.tag .seq) (← indentlessEntries fuel) mark p.anchor
      | .scalar text plain, _ =>
        let _ ← take
        define p.anchor mark
        return .scalar (scalarTag p.tag text plain) text mark p.anchor
      | .flowSequenceStart, _ =>
        define p.anchor mark
        let _ ← take
        return .seq (collectionTag p.tag .seq) (← flowItems t.start true fuel) mark p.anchor
      | .flowMappingStart, _ =>
        define p.anchor mark
        let _ ← take
        return .map (collectionTag p.tag .map) (← flowEntries t.start true fuel) mark p.anchor
      | kind, place =>
        if kind = .blockSequenceStart && place ≠ .flow then
          define p.anchor mark
          let _ ← take
          return .seq (collectionTag p.tag .seq) (← blockItems t.start fuel) mark p.anchor
        else if kind = .blockMappingStart && place ≠ .flow then
          define p.anchor mark
          let _ ← take
          return .map (collectionTag p.tag .map) (← blockEntries t.start fuel) mark p.anchor
        else if p.start.isSome then
          define p.anchor mark
          let tag := if isOpenTag p.tag then .null else .ofUri (p.tag.getD "")
          return .scalar tag "" mark p.anchor
        else
          let context := if place = .flow then Context.flowNode else Context.blockNode
          throw (parseFault (some (context, mark)) (.notContent kind.name) t.start)

/-- The entries of a block sequence, up to its end. -/
def blockItems (start : Mark) : Nat → Parse (List Node)
  | 0 => throw (parseFault none .endOfStream start)
  | fuel + 1 => do
    let t ← peek
    match t.kind with
    | .blockEntry =>
      let _ ← take
      let next ← kind
      let item ← if next = .blockEntry || next = .blockEnd then pure (absent t.stop)
        else node .block fuel
      return item :: (← blockItems start fuel)
    | .blockEnd =>
      let _ ← take
      return []
    | k => throw (parseFault (some (.blockCollection, start)) (.notBlockEnd k.name) t.start)

/-- The entries of a sequence without indentation of its own. -/
def indentlessEntries : Nat → Parse (List Node)
  | 0 => throw (parseFault none .endOfStream ⟨0, 0, 0⟩)
  | fuel + 1 => do
    let t ← peek
    if t.kind = .blockEntry then
      let _ ← take
      let next ← kind
      let item ← if next = .blockEntry || next = .key || next = .value || next = .blockEnd then
          pure (absent t.stop)
        else node .block fuel
      return item :: (← indentlessEntries fuel)
    else return []

/-- The entries of a block mapping, up to its end. -/
def blockEntries (start : Mark) : Nat → Parse (List (Node × Node))
  | 0 => throw (parseFault none .endOfStream start)
  | fuel + 1 => do
    let t ← peek
    match t.kind with
    | .key =>
      let _ ← take
      let next ← kind
      let key ← if next = .key || next = .value || next = .blockEnd then pure (absent t.stop)
        else node .entry fuel
      let value ← blockValue fuel
      return (key, value) :: (← blockEntries start fuel)
    | .blockEnd =>
      let _ ← take
      return []
    | k => throw (parseFault (some (.blockMapping, start)) (.notBlockEnd k.name) t.start)

def blockValue : Nat → Parse Node
  | 0 => throw (parseFault none .endOfStream ⟨0, 0, 0⟩)
  | fuel + 1 => do
    let t ← peek
    if t.kind = .value then
      let _ ← take
      let next ← kind
      if next = .key || next = .value || next = .blockEnd then return absent t.stop
      node .entry fuel
    else return absent t.start

/-- The items of a sequence in brackets, up to the closing one. -/
def flowItems (start : Mark) (first : Bool) : Nat → Parse (List Node)
  | 0 => throw (parseFault none .endOfStream start)
  | fuel + 1 => do
    if (← kind) = .flowSequenceEnd then
      let _ ← take
      return []
    if !first then
      let t ← peek
      if t.kind = .flowEntry then
        let _ ← take
      else
        throw (parseFault (some (.flowSequence, start)) (.notSequenceEnd t.kind.name) t.start)
    let t ← peek
    match t.kind with
    | .key =>
      let _ ← take
      let next ← kind
      let key ← if next = .value || next = .flowEntry || next = .flowSequenceEnd then
          pure (absent t.stop)
        else node .flow fuel
      let value ← flowPairValue fuel
      return .map .map [(key, value)] t.start none :: (← flowItems start false fuel)
    | .flowSequenceEnd =>
      let _ ← take
      return []
    | _ =>
      let item ← node .flow fuel
      return item :: (← flowItems start false fuel)

/-- The value of a single pair inside brackets. -/
def flowPairValue : Nat → Parse Node
  | 0 => throw (parseFault none .endOfStream ⟨0, 0, 0⟩)
  | fuel + 1 => do
    let t ← peek
    if t.kind = .value then
      let _ ← take
      let next ← kind
      if next = .flowEntry || next = .flowSequenceEnd then return absent t.stop
      node .flow fuel
    else return absent t.start

/-- The entries of a mapping in braces, up to the closing one. -/
def flowEntries (start : Mark) (first : Bool) : Nat → Parse (List (Node × Node))
  | 0 => throw (parseFault none .endOfStream start)
  | fuel + 1 => do
    if (← kind) = .flowMappingEnd then
      let _ ← take
      return []
    if !first then
      let t ← peek
      if t.kind = .flowEntry then
        let _ ← take
      else
        throw (parseFault (some (.flowMapping, start)) (.notMappingEnd t.kind.name) t.start)
    let t ← peek
    match t.kind with
    | .key =>
      let _ ← take
      let next ← kind
      let key ← if next = .value || next = .flowEntry || next = .flowMappingEnd then
          pure (absent t.stop)
        else node .flow fuel
      let value ← flowValue fuel
      return (key, value) :: (← flowEntries start false fuel)
    | .flowMappingEnd =>
      let _ ← take
      return []
    | _ =>
      let key ← node .flow fuel
      let next ← peek
      return (key, absent next.start) :: (← flowEntries start false fuel)

/-- The value of an entry of a mapping in braces. -/
def flowValue : Nat → Parse Node
  | 0 => throw (parseFault none .endOfStream ⟨0, 0, 0⟩)
  | fuel + 1 => do
    let t ← peek
    if t.kind = .value then
      let _ ← take
      let next ← kind
      if next = .flowEntry || next = .flowMappingEnd then return absent t.stop
      node .flow fuel
    else return absent t.start

end

/-! ## Documents -/

def defaultHandles : List (String × String) := [("!", "!"), ("!!", Tag.base)]

/-- The directives before a document: sets its tag handles. -/
def directives (version : Bool) (handles : List (String × String)) : Nat → Parse Unit
  | 0 => return
  | fuel + 1 => do
    let t ← peek
    match t.kind with
    | .directive (.version major _) =>
      let _ ← take
      if version then throw (parseFault none .duplicateVersion t.start)
      if major ≠ 1 then throw (parseFault none .incompatibleVersion t.start)
      directives true handles fuel
    | .directive (.tag handle uri) =>
      let _ ← take
      if (handles.lookup handle).isSome then
        throw (parseFault none (.duplicateHandle handle) t.start)
      directives version (handles ++ [(handle, uri)]) fuel
    | .directive (.other _) =>
      let _ ← take
      directives version handles fuel
    | _ => modify fun s ↦ { s with handles := handles ++ defaultHandles }

/-- Markers that end a document again. -/
def skipEnds : Nat → Parse Unit
  | 0 => return
  | fuel + 1 => do
    if (← kind) = .documentEnd then
      let _ ← take
      skipEnds fuel

/-- The beginning of a further document: its position, or none at the end of the stream. -/
def documentStart (fuel : Nat) : Parse (Option Mark) := do
  skipEnds fuel
  let t ← peek
  if t.kind = .streamEnd then return none
  directives false [] fuel
  let u ← peek
  if u.kind ≠ .documentStart then
    throw (parseFault none (.notDocumentStart u.kind.name) u.start)
  let _ ← take
  return some t.start

/-- The content of a document after its marker. -/
def documentContent (fuel : Nat) : Parse Node := do
  let t ← peek
  match t.kind with
  | .directive _ | .documentStart | .documentEnd | .streamEnd => return absent t.start
  | _ => node .block fuel

/-- A root as that of the only document: no other one starts behind it. -/
def only (fuel : Nat) (root : Node) : Parse (Option Node) := do
  if (← kind) = .documentEnd then
    let _ ← take
  match ← documentStart fuel with
  | none => return some root
  | some mark =>
    throw (.error ⟨.composer, some (.singleDocument, root.mark), .anotherDocument, mark⟩)

/-- The root of the only document of a stream, or none when there is no document. -/
def singleDocument (fuel : Nat) : Parse (Option Node) := do
  let _ ← take
  let t ← peek
  match t.kind with
  | .directive _ | .documentStart | .streamEnd =>
    match ← documentStart fuel with
    | none => return none
    | some _ => only fuel (← documentContent fuel)
  | _ =>
    modify fun s ↦ { s with handles := defaultHandles }
    only fuel (← node .block fuel)

end Parse

/-- The root of the only document that tokens hold, or none when they hold none. -/
def Node.ofTokens (ts : List Token) (fault : Option Fault) : Except Fault (Option Node) :=
  (Parse.singleDocument (4 * ts.length + 8)).run' ⟨ts, fault, Parse.defaultHandles, []⟩

end GatewayPrint.Yaml
