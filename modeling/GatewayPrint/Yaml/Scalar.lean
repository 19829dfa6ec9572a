import GatewayPrint.Number.Numeral
import GatewayPrint.Text.Base64
import GatewayPrint.Text.Case
import GatewayPrint.Value.Basic
import GatewayPrint.Yaml.Fault
import GatewayPrint.Yaml.Tag

/-!
# The values of YAML scalars

What a scalar means under its tag: null, truth values, whole numbers in five bases, floats, byte
strings, timestamps and text.
-/

namespace GatewayPrint.Yaml

def withoutBars (s : List Char) : List Char := s.filter (· ≠ '_')

def readBase (base : Nat) (s : List Char) : Except ScalarFault Int :=
  (Numeral.read base s).mapError fun f ↦
    match f with
    | .malformed => .integer base (String.ofList s)
    | .tooLong n => .integerLength n

/-- The parts of a text between colons. -/
def splitColons (s : List Char) : List (List Char) :=
  match s.splitOnP (· = ':') with
  | [] => [[]]
  | parts => parts

/-- A number in base 60 from its digits, the first one the most significant. -/
def base60 (digits : List Int) : Int := digits.foldl (fun n d ↦ n * 60 + d) 0

/-- The value of a whole number: binary, octal, hexadecimal, base 60 or decimal by its form. -/
def readInt (text : String) : Except ScalarFault Int := do
  let s := withoutBars text.toList
  if s.isEmpty then throw .noDigits
  let negative := s.head? = some '-'
  let body := if negative || s.head? = some '+' then s.tail else s
  let n ← match body with
    | [] => throw .noDigits
    | ['0'] => pure 0
    | '0' :: 'b' :: rest => readBase 2 rest
    | '0' :: 'x' :: rest => readBase 16 rest
    | '0' :: _ => readBase 8 body
    | _ =>
      if body.contains ':' then pure (base60 (← (splitColons body).mapM (readBase 10)))
      else readBase 10 body
  return if negative then -n else n

/-- A float with blanks around it allowed; its digits may be of any script. -/
def readPart (s : List Char) : Except ScalarFault Double :=
  match Double.ofText? (Text.asciiDigits (Text.stripOf Text.isNumeralBlank s)) with
  | some x => .ok x
  | none => .error (.float (String.ofList s))

/-- A float in base 60 from its digits, the last one first: each is scaled by its place and added in
turn. -/
def base60Float (total : Double) (place : Nat) : List Double → Double
  | [] => total
  | d :: rest => base60Float (total.add (d.mul (.ofInt place))) (place * 60) rest

/-- The value of a float: an infinity, NaN, base 60 or decimal by its form. -/
def readFloat (text : String) : Except ScalarFault Double := do
  let s := Text.lower (withoutBars text.toList)
  if s.isEmpty then throw .noDigits
  let negative := s.head? = some '-'
  let body := if negative || s.head? = some '+' then s.tail else s
  let x ←
    if body = ".inf".toList then pure (.infinite false)
    else if body = ".nan".toList then return .nan
    else if body.contains ':' then
      pure (base60Float (.finite false 0 Double.minExponent) 1
        (← (splitColons body).mapM readPart).reverse)
    else readPart body
  return if negative then x.neg else x

/-- The first six digits of a fraction as microseconds. -/
def microseconds (places : List Char) : Nat :=
  let ds := places.take 6
  digitsValue (ds ++ List.replicate (6 - ds.length) '0')

/-- The value of a timestamp: a date, or a date and time with its offset. -/
def readTimestamp (text : String) : Except ScalarFault Value := do
  let some s := Tag.stamp? (Tag.withoutFinalBreak text.toList) | throw .notTimestamp
  let date : Date := ⟨s.year, s.month, s.day⟩
  match s.time with
  | none =>
    match date.check with
    | some f => throw (.calendar f)
    | none => return .date date
  | some (h, m, sec, places) =>
    let offset : Option Int := s.zone.map fun z ↦
      (if z.1 then -1 else 1) * (((z.2.1 * 60 + z.2.2) * 60 : Nat) : Int)
    let t : DateTime := ⟨date, h, m, sec, microseconds places, offset⟩
    match t.check with
    | some f => throw (.calendar f)
    | none => return .datetime t

/-- The value of a truth value. -/
def readBool (text : String) : Except ScalarFault Bool :=
  let word := String.ofList (Text.lower text.toList)
  if word == "yes" || word == "true" || word == "on" then .ok true
  else if word == "no" || word == "false" || word == "off" then .ok false
  else .error (.boolean word)

/-- A fault in the meaning of a node. -/
def constructFault (problem : Problem) (mark : Mark) : Fault :=
  .error ⟨.constructor, none, problem, mark⟩

/-- The value of a byte string. -/
def readBinary (text : String) (mark : Mark) : Except Fault Value :=
  if text.toList.any fun c ↦ 0x80 ≤ c.toNat then
    .error (constructFault (.notAscii text.toList) mark)
  else
    match Text.decodeBase64 text.toList with
    | .ok bs => .ok (.bytes bs)
    | .error reason => .error (constructFault (.badBase64 reason) mark)

/-- A result whose fault is one of scalars. -/
def ofScalar {α : Type} (f : α → Value) : Except ScalarFault α → Except Fault Value
  | .ok x => .ok (f x)
  | .error e => .error (.scalar e)

/-- The value of a scalar with a tag, in a document where it stands at `mark`. -/
def scalarValue (tag : Tag) (text : String) (mark : Mark) : Except Fault Value :=
  match tag with
  | .null => .ok .null
  | .bool => ofScalar .bool (readBool text)
  | .int => ofScalar .int (readInt text)
  | .float => ofScalar .float (readFloat text)
  | .text => .ok (.text text)
  | .binary => readBinary text mark
  | .timestamp => ofScalar id (readTimestamp text)
  | .seq => .error (constructFault (.notSequenceNode "scalar") mark)
  | .map | .set => .error (constructFault (.notMappingNode "scalar") mark)
  | .orderedMap =>
    .error (.error ⟨.constructor, some (.orderedMap, mark), .notSequence "scalar", mark⟩)
  | .pairs => .error (.error ⟨.constructor, some (.pairs, mark), .notSequence "scalar", mark⟩)
  | t => .error (constructFault (.unknownTag t.uri) mark)

end GatewayPrint.Yaml
