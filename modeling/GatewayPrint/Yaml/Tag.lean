import GatewayPrint.Number.DecimalText

/-!
# Tags and the implicit types of plain scalars

The type of a node is named by a tag. A plain scalar without a tag gets one from its form: null, a
truth value, a whole number, a float, a timestamp, the merge key, the value key, or else text.
-/

namespace GatewayPrint.Yaml

/-- The tag of a node. -/
inductive Tag where
  | null
  | bool
  | int
  | float
  | text
  | binary
  | timestamp
  | seq
  | map
  | set
  | orderedMap
  | pairs
  | merge
  | value
  /-- The tag of an indicator that stands as a scalar. -/
  | indicator
  | other (uri : String)
deriving DecidableEq, Repr, Inhabited

namespace Tag

/-- The common beginning of the tags of YAML itself. -/
def base : String := "tag:yaml.org,2002:"

/-- The tags of YAML itself by their last part. -/
def names : List (String × Tag) :=
  [("null", null), ("bool", bool), ("int", int), ("float", float), ("str", text),
    ("binary", binary), ("timestamp", timestamp), ("seq", seq), ("map", map), ("set", set),
    ("omap", orderedMap), ("pairs", pairs), ("merge", merge), ("value", value),
    ("yaml", indicator)]

def ofUri (uri : String) : Tag :=
  match names.find? fun e ↦ base ++ e.1 == uri with
  | some e => e.2
  | none => other uri

def uri (t : Tag) : String :=
  match t with
  | other uri => uri
  | t => base ++ ((names.find? fun e ↦ e.2 == t).map Prod.fst).getD ""

/-! ## Forms of plain scalars -/

def boolWords : List String :=
  ["yes", "Yes", "YES", "no", "No", "NO", "true", "True", "TRUE", "false", "False", "FALSE",
    "on", "On", "ON", "off", "Off", "OFF"]

def nullWords : List String := ["~", "null", "Null", "NULL", ""]

def isDigitOrBar (c : Char) : Bool := c.isDigit || c = '_'

/-- The text after an optional sign. -/
def unsigned : List Char → List Char
  | '-' :: rest => rest
  | '+' :: rest => rest
  | rest => rest

def isExponent : List Char → Bool
  | [] => true
  | c :: d :: rest =>
    (c = 'e' || c = 'E') && (d = '-' || d = '+') && !rest.isEmpty && rest.all Char.isDigit
  | _ => false

/-- The text after one or more groups `:n` with `n` below 60 in one or two digits; `none` when there
is no such group. -/
def afterGroups? : List Char → Option (List Char)
  | ':' :: a :: b :: rest =>
    if a.isDigit && b.isDigit && a < '6' then some ((afterGroups? rest).getD rest)
    else if a.isDigit then some ((afterGroups? (b :: rest)).getD (b :: rest))
    else none
  | [':', a] => if a.isDigit then some [] else none
  | _ => none

def isPointed (s : List Char) : Bool :=
  match s.dropWhile isDigitOrBar with
  | '.' :: rest => isExponent (rest.dropWhile isDigitOrBar)
  | _ => false

/-- A number in base 60 with a point. -/
def isPointedBase60 (s : List Char) : Bool :=
  match afterGroups? (s.dropWhile isDigitOrBar) with
  | some ('.' :: rest) => rest.all isDigitOrBar
  | _ => false

def startsWithDigit (s : List Char) : Bool := (s.head?.map Char.isDigit).getD false

def isFloat (s : List Char) : Bool :=
  let u := unsigned s
  (startsWithDigit u && (isPointed u || isPointedBase60 u))
    || (s.head? = some '.' && startsWithDigit s.tail && isPointed s)
    || [".inf", ".Inf", ".INF"].contains (String.ofList u)
    || [".nan", ".NaN", ".NAN"].contains (String.ofList s)

/-- A digit of base two, or an underscore. -/
def isBinaryDigit (c : Char) : Bool := c = '0' || c = '1' || c = '_'

/-- A digit of base eight, or an underscore. -/
def isOctalDigit (c : Char) : Bool := ('0' ≤ c && c ≤ '7') || c = '_'

/-- A digit of base sixteen, or an underscore. -/
def isHexadecimalDigit (c : Char) : Bool :=
  isDigitOrBar c || ('a' ≤ c && c ≤ 'f') || ('A' ≤ c && c ≤ 'F')

/-- The form of a whole number. -/
def isInt (s : List Char) : Bool :=
  match unsigned s with
  | ['0'] => true
  | '0' :: 'b' :: rest => !rest.isEmpty && rest.all isBinaryDigit
  | '0' :: 'x' :: rest => !rest.isEmpty && rest.all isHexadecimalDigit
  | '0' :: rest => rest.all isOctalDigit
  | c :: rest =>
    c.isDigit && (rest.all isDigitOrBar || afterGroups? (rest.dropWhile isDigitOrBar) = some [])
  | [] => false

/-- One or two digits at the start of a text: their value, their number, and the rest. -/
def upToTwoDigits? : List Char → Option (Nat × Nat × List Char)
  | a :: b :: rest =>
    if a.isDigit && b.isDigit then some (digitsValue [a, b], 2, rest)
    else if a.isDigit then some (digitsValue [a], 1, b :: rest)
    else none
  | [a] => if a.isDigit then some (digitsValue [a], 1, []) else none
  | [] => none

/-- The parts of a timestamp. -/
structure Stamp where
  year : Nat
  month : Nat
  day : Nat
  /-- Whether month and day have two digits each. -/
  full : Bool
  /-- Hour, minute, second and the digits of the fraction. -/
  time : Option (Nat × Nat × Nat × List Char)
  /-- Sign, hours and minutes of the offset from UTC. -/
  zone : Option (Bool × Nat × Nat)
deriving DecidableEq, Repr

/-- A colon and two digits, and the rest. -/
def colonTwo? (s : List Char) : Option (Nat × List Char) :=
  match s with
  | ':' :: a :: b :: rest =>
    if a.isDigit && b.isDigit then some (digitsValue [a, b], rest) else none
  | _ => none

/-- The zone that ends a timestamp: nothing, `Z`, or a signed offset. -/
def zone? (s : List Char) : Option (Option (Bool × Nat × Nat)) :=
  match s.dropWhile fun c ↦ c = ' ' || c = '\t' with
  | [] => if s.isEmpty then some none else none
  | ['Z'] => some (some (false, 0, 0))
  | c :: rest =>
    if c = '-' || c = '+' then
      match upToTwoDigits? rest with
      | some (h, _, []) => some (some (c = '-', h, 0))
      | some (h, _, rest) =>
        match colonTwo? rest with
        | some (m, []) => some (some (c = '-', h, m))
        | _ => none
      | none => none
    else none

/-- The time of a timestamp, after what separates it from the date. -/
def time? (s : List Char) : Option ((Nat × Nat × Nat × List Char) × Option (Bool × Nat × Nat)) := do
  let (h, _, s) ← upToTwoDigits? s
  let (m, s) ← colonTwo? s
  let (sec, s) ← colonTwo? s
  let (places, s) := match s with
    | '.' :: s => (s.takeWhile Char.isDigit, s.dropWhile Char.isDigit)
    | s => ([], s)
  some ((h, m, sec, places), ← zone? s)

/-- The parts of a text in the form of a timestamp. -/
def stamp? (s : List Char) : Option Stamp := do
  let (year, s) ← match s with
    | a :: b :: c :: d :: '-' :: s =>
      if [a, b, c, d].all Char.isDigit then some (digitsValue [a, b, c, d], s) else none
    | _ => none
  let (month, mw, s) ← upToTwoDigits? s
  let s ← match s with
    | '-' :: s => some s
    | _ => none
  let (day, dw, s) ← upToTwoDigits? s
  let full := mw == 2 && dw == 2
  match s with
  | [] => some ⟨year, month, day, full, none, none⟩
  | c :: rest =>
    let s ← if c = 'T' || c = 't' then some rest
      else if c = ' ' || c = '\t' then some (rest.dropWhile fun c ↦ c = ' ' || c = '\t')
      else none
    let (t, z) ← time? s
    some ⟨year, month, day, full, some t, z⟩

/-- The form of a timestamp: a date in full, or a date and a time. -/
def isTimestamp (s : List Char) : Bool :=
  match stamp? s with
  | some t => t.full || t.time.isSome
  | none => false

/-- A text without a line feed that ends it, unless it is nothing else. -/
def withoutFinalBreak (s : List Char) : List Char :=
  match s.reverse with
  | '\n' :: c :: rest => (c :: rest).reverse
  | _ => s

/-- The tag that the form of a scalar implies; a line feed may follow each form. -/
def ofPlain (form : String) : Tag :=
  let cs := withoutFinalBreak form.toList
  let s := String.ofList cs
  if boolWords.contains s then bool
  else if isFloat cs then float
  else if isInt cs then int
  else if s == "<<" then merge
  else if nullWords.contains s then null
  else if isTimestamp cs then timestamp
  else if s == "=" then value
  else if s == "!" || s == "&" || s == "*" then indicator
  else text

end Tag

end GatewayPrint.Yaml
