import GatewayPrint.Json.Escape
import GatewayPrint.Value.Basic

/-!
# Reading JSON

A reader for JSON texts. The entries of an object keep their order; of two entries with one key the
later one wins in the place of the earlier one. A number without a fraction and an exponent is a
whole number.
-/

namespace GatewayPrint.Json

/-- White space between tokens. -/
def isSpace (c : Char) : Bool := c = ' ' || c = '\n' || c = '\r' || c = '\t'

/-- The text after leading white space. -/
def skipSpace (s : List Char) : List Char := s.dropWhile isSpace

/-- A given word at the start of a text, and the rest. -/
def readWord? (word : List Char) (s : List Char) : Option (List Char) :=
  if word.isPrefixOf s then some (s.drop word.length) else none

def isNumeral (c : Char) : Bool :=
  c.isDigit || c = '-' || c = '+' || c = '.' || c = 'e' || c = 'E'

def numeral? (s : List Char) : Option Value :=
  let (negative, body) := match s with
    | '-' :: body => (true, body)
    | body => (false, body)
  if body.isEmpty then none
  else if body.all Char.isDigit then
    some (.int (if negative then -(digitsValue body : Int) else digitsValue body))
  else (readUnsigned? body).map fun r ↦ .float (.ofDecimal negative r.1 r.2)

/-- A value that holds no other values, at the start of a text. -/
def readScalar? (s : List Char) : Option (Value × List Char) :=
  (do let (t, rest) ← readString? s; some (.text t, rest))
  <|> (do some (.null, ← readWord? "null".toList s))
  <|> (do some (.bool true, ← readWord? "true".toList s))
  <|> (do some (.bool false, ← readWord? "false".toList s))
  <|> (do some (.float .nan, ← readWord? "NaN".toList s))
  <|> (do some (.float (.infinite false), ← readWord? "Infinity".toList s))
  <|> (do some (.float (.infinite true), ← readWord? "-Infinity".toList s))
  <|> (do some (← numeral? (s.takeWhile isNumeral), s.dropWhile isNumeral))

mutual

/-- A value at the start of a text, and the rest; `fuel` bounds the number of tokens. -/
def readValue? : Nat → List Char → Option (Value × List Char)
  | 0, _ => none
  | fuel + 1, s =>
    match s with
    | '[' :: rest =>
      match skipSpace rest with
      | ']' :: rest => some (.list [], rest)
      | rest => do
        let (items, rest) ← readItems? fuel rest
        some (.list items, rest)
    | '\x7b' :: rest =>
      match skipSpace rest with
      | '\x7d' :: rest => some (.map [], rest)
      | rest => do
        let (entries, rest) ← readEntries? fuel rest
        some (Value.mapOf entries, rest)
    | s => readScalar? s

/-- The elements of an array up to its closing bracket. -/
def readItems? : Nat → List Char → Option (List Value × List Char)
  | 0, _ => none
  | fuel + 1, s => do
    let (x, rest) ← readValue? fuel (skipSpace s)
    match skipSpace rest with
    | ',' :: rest =>
      let (xs, rest) ← readItems? fuel rest
      some (x :: xs, rest)
    | ']' :: rest => some ([x], rest)
    | _ => none

/-- The entries of an object up to its closing brace. -/
def readEntries? : Nat → List Char → Option (List (Value × Value) × List Char)
  | 0, _ => none
  | fuel + 1, s => do
    let (k, rest) ← readString? (skipSpace s)
    let rest ← readWord? [':'] (skipSpace rest)
    let (v, rest) ← readValue? fuel (skipSpace rest)
    match skipSpace rest with
    | ',' :: rest =>
      let (entries, rest) ← readEntries? fuel rest
      some ((.text k, v) :: entries, rest)
    | '\x7d' :: rest => some ([(.text k, v)], rest)
    | _ => none

end

/-- The value of a text that holds one JSON value. -/
def read? (s : String) : Option Value :=
  let cs := s.toList
  match readValue? (2 * cs.length + 2) (skipSpace cs) with
  | some (v, rest) => if (skipSpace rest).isEmpty then some v else none
  | none => none

end GatewayPrint.Json
