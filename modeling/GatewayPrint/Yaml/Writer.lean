import GatewayPrint.Text.Base64
import GatewayPrint.Value.Display
import GatewayPrint.Value.Sorting
import GatewayPrint.Yaml.Pen
import GatewayPrint.Yaml.Tag

/-!
# Writing YAML

A value is first turned into a tree of scalars, sequences and mappings with tags, and the tree is
then written in block style: two spaces a level, sequences inside mappings without indentation, and
entries ordered by key when the keys have an order.
-/

namespace GatewayPrint.Yaml

/-- A scalar with its tag, a sequence, or a mapping. -/
inductive Tree where
  | scalar (tag : Tag) (text : List Char) (literal : Bool)
  | seq (items : List Tree)
  | map (tag : Tag) (entries : List (Tree × Tree))
deriving Repr, Inhabited

/-- Why a value has no YAML form. -/
inductive WriteError where
  | object (literal : String)
  | digits
  /-- Keys that cannot be compared: an exact decimal and NaN. -/
  | notANumber
deriving DecidableEq, Repr

def WriteError.message : WriteError → String
  | .object literal => "('cannot represent an object', " ++ literal ++ ")"
  | .digits => tooManyDigits
  | .notANumber => "[<class 'decimal.InvalidOperation'>]"

def WriteError.errorName : WriteError → String
  | .object _ => "RepresenterError"
  | .digits => "ValueError"
  | .notANumber => "InvalidOperation"

/-! ## Values as trees -/

/-- A float as YAML: an exponent always follows a point. -/
def floatText : Double → List Char
  | .nan => ".nan".toList
  | .infinite s => if s then "-.inf".toList else ".inf".toList
  | x =>
    let s := x.text.toList
    if s.contains '.' then s
    else s.flatMap fun c ↦ if c = 'e' then ['.', '0', 'e'] else [c]

/-- Entries ordered by key; entries whose keys have no order stay as they are. -/
def sortEntries {α : Type} (entries : List (Value × α)) : Except WriteError (List (Value × α)) :=
  match Value.sortByKey entries with
  | .ok sorted => .ok sorted
  | .error .unordered => .ok entries
  | .error .notANumber => .error .notANumber

namespace Tree

/-- The tree of a value that holds no other values. -/
def ofScalar : Value → Except WriteError Tree
  | .null => .ok (scalar .null "null".toList false)
  | .bool b => .ok (scalar .bool (if b then "true".toList else "false".toList) false)
  | .int n =>
    match intText? n with
    | some s => .ok (scalar .int s.toList false)
    | none => .error .digits
  | .float x => .ok (scalar .float (floatText x) false)
  | .text s => .ok (scalar .text s.toList false)
  | .bytes bs => .ok (scalar .binary (Text.encodeBase64 bs) true)
  | .date d => .ok (scalar .timestamp d.iso.toList false)
  | .datetime t => .ok (scalar .timestamp t.text.toList false)
  | v => .error (.object (v.literal []))

/-- Takes the first error out of a list of entries. -/
def collectEntries : List (Value × Except WriteError (Tree × Tree)) →
    Except WriteError (List (Tree × Tree))
  | [] => .ok []
  | (_, e) :: rest => do
    let entry ← e
    let others ← collectEntries rest
    .ok (entry :: others)

mutual

def ofValue : Value → Except WriteError Tree
  | .list items => (ofItems items).map seq
  | .tuple items => (ofItems items).map seq
  | .set items => do
    let sorted ← sortEntries (ofElements items)
    (collectEntries sorted).map (map .set)
  | .map entries => do
    let sorted ← sortEntries (ofEntries entries)
    (collectEntries sorted).map (map .map)
  | v => ofScalar v

/-- The trees of values in turn. -/
def ofItems : List Value → Except WriteError (List Tree)
  | [] => .ok []
  | x :: xs => do
    let t ← ofValue x
    let ts ← ofItems xs
    .ok (t :: ts)

/-- The elements of a set as entries without a value. -/
def ofElements : List Value → List (Value × Except WriteError (Tree × Tree))
  | [] => []
  | x :: xs =>
    (x, (ofValue x).map fun t ↦ (t, scalar .null "null".toList false)) :: ofElements xs

/-- The entries of a mapping, each with its key. -/
def ofEntries : List (Value × Value) → List (Value × Except WriteError (Tree × Tree))
  | [] => []
  | (k, v) :: rest =>
    (k, do
      let t ← ofValue k
      let u ← ofValue v
      .ok (t, u)) :: ofEntries rest

end

/-! ## Trees as text -/

/-- The short form of a tag. -/
def tagText (tag : Tag) : List Char :=
  "!!".toList ++ (tag.uri.toList.drop Tag.base.length)

/-- The styles a scalar can be written in. -/
inductive ScalarStyle where
  | plain
  | single
  | double
  | literal
deriving DecidableEq, Repr

/-- The style of a scalar: plain where its form alone implies its tag, single quotes where they can
hold it, double quotes otherwise. A key on one line can be neither empty nor multi-line in plain
style. -/
def styleOf (simpleKey : Bool) (tag : Tag) (text : List Char) (literal : Bool) : ScalarStyle :=
  let multiline := Style.isMultiline text
  let implied := Tag.ofPlain (String.ofList text) == tag
  if literal then
    if !simpleKey && Style.allowsLiteral text then .literal else .double
  else if implied && Style.allowsPlain text && !(simpleKey && (text.isEmpty || multiline)) then
    .plain
  else if Style.allowsSingle text && !(simpleKey && multiline) then .single
  else .double

/-- Whether a tag has to be written with a scalar in some style. -/
def needsTag (style : ScalarStyle) (tag : Tag) (text : List Char) : Bool :=
  if style = .plain then Tag.ofPlain (String.ofList text) != tag else tag != .text

def writeScalar (indent : Nat) (simpleKey : Bool) (tag : Tag) (text : List Char) (literal : Bool)
    (p : Pen) : Pen :=
  let style := styleOf simpleKey tag text literal
  let p := if needsTag style tag text then p.indicator (tagText tag) true false false else p
  match style with
  | .plain => p.plain indent (!simpleKey) text
  | .single => p.single indent (!simpleKey) text
  | .double => p.double indent (!simpleKey) text
  | .literal => p.literal indent text

/-- The greatest length, with its tag, of a key that is written on one line with its value. -/
def maxSimpleKey : Nat := 127

/-- Whether a key is written on one line with the colon after it. -/
def isSimpleKey : Tree → Bool
  | scalar tag text _ =>
    (tagText tag).length + text.length ≤ maxSimpleKey && !text.isEmpty && !Style.isMultiline text
  | seq items => items.isEmpty
  | map tag entries => (tagText tag).length ≤ maxSimpleKey && entries.isEmpty

/-- The indentation of what stands inside a block. -/
def deeper : Option Nat → Nat
  | none => 0
  | some n => n + 2

mutual

/-- Writes a node inside a block of indentation `outer`, none around the root. `entry` says that it
is a key or value of a mapping, `simpleKey` that it is a key on one line with its value. -/
def write (outer : Option Nat) (entry simpleKey : Bool) : Tree → Pen → Pen
  | scalar tag text literal, p => writeScalar (outer.getD 0 + 2) simpleKey tag text literal p
  | seq [], p => (p.indicator ['['] true true false).indicator [']'] false false false
  | seq (x :: xs), p =>
    let indent := match outer with
      | none => 0
      | some n => if entry && !p.fresh then n else n + 2
    writeItems indent (x :: xs) p
  | map tag [], p =>
    let p := if tag = .map then p else p.indicator (tagText tag) true false false
    (p.indicator ['\x7b'] true true false).indicator ['\x7d'] false false false
  | map tag (e :: es), p =>
    let p := if tag = .map then p else p.indicator (tagText tag) true false false
    writeEntries (deeper outer) (e :: es) p

def writeItems (indent : Nat) : List Tree → Pen → Pen
  | [], p => p
  | x :: xs, p =>
    let p := (p.toColumn indent).indicator ['-'] true false true
    writeItems indent xs (write (some indent) false false x p)

def writeEntries (indent : Nat) : List (Tree × Tree) → Pen → Pen
  | [], p => p
  | (k, v) :: rest, p =>
    let p := p.toColumn indent
    let p :=
      if isSimpleKey k then
        (write (some indent) true true k p).indicator [':'] false false false
      else
        let p := write (some indent) true false k (p.indicator ['?'] true false true)
        (p.toColumn indent).indicator [':'] true false true
    writeEntries indent rest (write (some indent) true false v p)

end

def text (t : Tree) : List Char :=
  ((write none false false t .start).toColumn 0).out

end Tree

def write (v : Value) : Except WriteError String :=
  (Tree.ofValue v).map fun t ↦ String.ofList t.text

end GatewayPrint.Yaml
