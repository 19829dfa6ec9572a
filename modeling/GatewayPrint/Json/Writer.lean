import GatewayPrint.Json.Escape
import GatewayPrint.Number.Whole
import GatewayPrint.Value.Display

/-!
# Writing JSON

Values as indented JSON in ASCII: four spaces a level, one element or entry a line, empty containers
on one line. Keys that are numbers, truth values or null become strings.
-/

namespace GatewayPrint

namespace Json

/-- Why a value has no JSON form. -/
inductive WriteError where
  | key (kind : String)
  | value (kind : String)
  | digits
deriving DecidableEq, Repr

def WriteError.message : WriteError → String
  | .key kind => "keys must be str, int, float, bool or None, not " ++ kind
  | .value kind => "Object of type " ++ kind ++ " is not JSON serializable"
  | .digits => tooManyDigits

/-- A double as JSON, with names for NaN and the infinities. -/
def floatText : Double → List Char
  | .nan => "NaN".toList
  | .infinite s => if s then "-Infinity".toList else "Infinity".toList
  | x => x.text.toList

/-- The text of a key before it is quoted. -/
def keyText : Value → Except WriteError (List Char)
  | .text s => .ok s.toList
  | .float x => .ok (floatText x)
  | .bool b => .ok (if b then "true".toList else "false".toList)
  | .null => .ok "null".toList
  | .int n => match intText? n with
    | some s => .ok s.toList
    | none => .error .digits
  | v => .error (.key v.kindName)

def newLine (depth : Nat) : List Char := '\n' :: List.replicate (4 * depth) ' '

/-- A value that holds no other values. -/
def writeScalar : Value → Except WriteError (List Char)
  | .null => .ok "null".toList
  | .bool b => .ok (if b then "true".toList else "false".toList)
  | .int n => match intText? n with
    | some s => .ok s.toList
    | none => .error .digits
  | .float x => .ok (floatText x)
  | .text s => .ok (escape s.toList)
  | v => .error (.value v.kindName)

mutual

/-- A value at a level of indentation. -/
def writeAt (depth : Nat) : Value → Except WriteError (List Char)
  | .list [] => .ok ['[', ']']
  | .list (x :: xs) => do
    let first ← writeAt (depth + 1) x
    let others ← writeItems (depth + 1) xs
    .ok ('[' :: newLine (depth + 1) ++ first ++ others ++ newLine depth ++ [']'])
  | .tuple [] => .ok ['[', ']']
  | .tuple (x :: xs) => do
    let first ← writeAt (depth + 1) x
    let others ← writeItems (depth + 1) xs
    .ok ('[' :: newLine (depth + 1) ++ first ++ others ++ newLine depth ++ [']'])
  | .map [] => .ok ['\x7b', '\x7d']
  | .map ((k, v) :: rest) => do
    let key ← keyText k
    let value ← writeAt (depth + 1) v
    let others ← writeEntries (depth + 1) rest
    .ok ('\x7b' :: newLine (depth + 1) ++ escape key ++ ':' :: ' ' :: value ++ others
      ++ newLine depth ++ ['\x7d'])
  | v => writeScalar v

def writeItems (depth : Nat) : List Value → Except WriteError (List Char)
  | [] => .ok []
  | x :: xs => do
    let first ← writeAt depth x
    let others ← writeItems depth xs
    .ok (',' :: newLine depth ++ first ++ others)

def writeEntries (depth : Nat) : List (Value × Value) → Except WriteError (List Char)
  | [] => .ok []
  | (k, v) :: rest => do
    let key ← keyText k
    let value ← writeAt depth v
    let others ← writeEntries depth rest
    .ok (',' :: newLine depth ++ escape key ++ ':' :: ' ' :: value ++ others)

end

def write (v : Value) : Except WriteError String := (writeAt 0 v).map String.ofList

end Json

end GatewayPrint
