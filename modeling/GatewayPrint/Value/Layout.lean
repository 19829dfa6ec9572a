import GatewayPrint.Text.Quoted
import GatewayPrint.Text.Blank

/-!
# Texts of nested values

A nested value has several texts: the literal that stands inside another value, a plain text on one
line, and a layout in lines of at most 80 characters where it can be helped. A layout starts at a
column, and on its last line some room is left for what follows.
-/

namespace GatewayPrint

/-- The texts of a value. -/
structure Forms where
  /-- The text inside another value. -/
  literal : String
  /-- The text on one line inside a model. -/
  flat : String
  /-- The text in lines, from the column `indent`, with `room` characters left on the last line. -/
  layout : (indent room : Nat) → String

namespace Forms

def lineWidth : Nat := 80

def commas (parts : List String) : String := ", ".intercalate parts

/-- A new line that begins at a column. -/
def newLine (indent : Nat) : String := String.ofList ('\n' :: List.replicate indent ' ')

/-- The texts of a value without parts. -/
def leaf (s : String) : Forms := ⟨s, s, fun _ _ ↦ s⟩

/-- Takes the text on one line if it fits, and lines otherwise. -/
def choose (flat : String) (lines : Nat → Nat → String) (indent room : Nat) : String :=
  if flat.length + indent + room ≤ lineWidth then flat else lines indent room

/-! ## Long texts -/

def isLineEnd (c : Char) : Bool :=
  [10, 11, 12, 13, 0x1c, 0x1d, 0x1e, 0x85, 0x2028, 0x2029].contains c.toNat

/-- The lines of a text, each with its end. -/
def linesOf : List Char → List (List Char)
  | [] => []
  | '\r' :: '\n' :: rest => ['\r', '\n'] :: linesOf rest
  | c :: rest =>
    if isLineEnd c then [c] :: linesOf rest
    else
      match rest, linesOf rest with
      | _ :: _, line :: others => (c :: line) :: others
      | _, others => [c] :: others

/-- Puts a character in front of the parts of a line: a part is a word with the blanks after it. -/
def consPart (c : Char) : List (List Char) → List (List Char)
  | [] => [[c]]
  | part :: others =>
    if Text.isBlank c && !(part.all Text.isBlank) then [c] :: part :: others
    else (c :: part) :: others

def partsOf (line : List Char) : List (List Char) := line.foldr consPart []

/-- Joins consecutive parts as long as their text fits into a width; `last` is what the width loses
at the last part. -/
def fill (quote : List Char → String) (width last : Nat) (current : List Char) :
    List (List Char) → List String
  | [] => if current.isEmpty then [] else [quote current]
  | part :: rest =>
    let width := if rest.isEmpty then width - last else width
    if width < (quote (current ++ part)).length then
      (if current.isEmpty then [] else [quote current]) ++ fill quote width last part rest
    else fill quote width last (current ++ part) rest

/-- The pieces of a text, line by line. -/
def pieces (width room : Nat) : List (List Char) → List String
  | [] => []
  | line :: rest =>
    let last := if rest.isEmpty then room else 0
    let whole := Text.quote (String.ofList line)
    (if whole.length + last ≤ width then [whole]
      else fill (fun s ↦ Text.quote (String.ofList s)) width last [] (partsOf line))
      ++ pieces width room rest

/-- The texts of a text: a long one is cut into pieces in quotes. -/
def text (s : String) : Forms :=
  let whole := Text.quote s
  ⟨whole, whole, choose whole fun indent room ↦
    if s.isEmpty then whole
    else (newLine indent).intercalate (pieces (lineWidth - indent) room (linesOf s.toList))⟩

/-- Bytes in groups of four. -/
def quadruples : List UInt8 → List (List UInt8)
  | a :: b :: c :: d :: rest => [a, b, c, d] :: quadruples rest
  | [] => []
  | rest => [rest]

/-- Joins consecutive groups of bytes as long as their text fits into a width; at the group that
begins the last four bytes or fewer the width loses `last`. -/
def fillBytes (width last : Nat) (current : List UInt8) : List (List UInt8) → List String
  | [] => if current.isEmpty then [] else [Text.quoteBytes current]
  | part :: rest =>
    let width := if rest.isEmpty && part.length < 4 then width - last else width
    if width < (Text.quoteBytes (current ++ part)).length then
      (if current.isEmpty then [] else [Text.quoteBytes current]) ++ fillBytes width last part rest
    else fillBytes width last (current ++ part) rest

/-- The texts of bytes: a long run is cut into pieces in quotes. -/
def bytes (bs : List UInt8) : Forms :=
  let whole := Text.quoteBytes bs
  ⟨whole, whole, choose whole fun indent room ↦
    if bs.length ≤ 4 then whole
    else (newLine indent).intercalate (fillBytes (lineWidth - indent) room [] (quadruples bs))⟩

/-! ## Values with parts -/

/-- The layouts of the items of a group, one under the other; `room` is left after the last one. -/
def column (indent room : Nat) : List Forms → List String
  | [] => []
  | [x] => [x.layout indent room]
  | x :: rest => x.layout indent 1 :: column indent room rest

/-- The texts of items between brackets. `sorted` are the items in the order of a layout. -/
def group (first last : String) (items sorted : List Forms) : Forms :=
  let flat := first ++ commas (items.map Forms.flat) ++ last
  ⟨first ++ commas (items.map Forms.literal) ++ last, flat, choose flat fun indent room ↦
    first ++ (String.ofList [','] ++ newLine (indent + 1)).intercalate
      (column (indent + 1) (room + last.length) sorted) ++ last⟩

def entry (key value : Forms) : Forms :=
  ⟨key.literal ++ ": " ++ value.literal, key.flat ++ ": " ++ value.flat, fun indent room ↦
    key.flat ++ ": " ++ value.layout (indent + key.flat.length + 2) room⟩

/-- The texts of a mapping from its entries, in their own order and in that of their keys. -/
def mapping (entries sorted : List Forms) : Forms :=
  let ordered := group "\x7b" "\x7d" sorted sorted
  { ordered with literal := "\x7b" ++ commas (entries.map Forms.literal) ++ "\x7d" }

/-- The texts of a read-only mapping from those of the mapping. -/
def view (inner : Forms) : Forms :=
  let whole := "mappingproxy(" ++ inner.literal ++ ")"
  ⟨whole, whole, choose whole fun indent room ↦
    "mappingproxy(" ++ inner.layout (indent + 13) (room + 1) ++ ")"⟩

/-- The texts of a model from those of its fields: it stands inside other values in its layout. -/
def model (fields : Forms) : Forms := { fields with literal := fields.layout 0 0 }

end Forms

end GatewayPrint
