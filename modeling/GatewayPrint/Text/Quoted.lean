import GatewayPrint.Text.Half
import GatewayPrint.Text.Hex
import GatewayPrint.Text.Printable

/-!
# Quoted text and bytes

The form in which messages and nested values show a text: between quotes, with everything that is
not printable written as an escape. Single quotes are used unless the text holds a single quote and
no double quote.
-/

namespace GatewayPrint.Text

/-- The quote that a text is shown in: a double quote only around a text that holds a single quote
and no double quote. -/
def quoteFor (s : List Char) : Char :=
  if s.contains '\x27' && !s.contains '"' then '"' else '\x27'

/-- The escape of a code point by its digits: two, four or eight of them. -/
def codeEscape (n : Nat) : List Char :=
  if n < 0x100 then '\\' :: 'x' :: hex 2 n
  else if n < 0x10000 then '\\' :: 'u' :: hex 4 n
  else '\\' :: 'U' :: hex 8 n

/-- One character inside quotes `q`. -/
def quoteChar (q c : Char) : List Char :=
  if c = q || c = '\\' then ['\\', c]
  else if c = '\n' then ['\\', 'n']
  else if c = '\r' then ['\\', 'r']
  else if c = '\t' then ['\\', 't']
  else if isPrintable c then [c]
  else codeEscape (codePoint c)

/-- The characters of a text in quotes. -/
def quoteChars (s : List Char) : List Char :=
  let q := quoteFor s
  q :: s.flatMap (quoteChar q) ++ [q]

def quote (s : String) : String := String.ofList (quoteChars s.toList)

/-- One byte inside quotes `q`. -/
def quoteByte (q : Char) (b : UInt8) : List Char :=
  let c := Char.ofNat b.toNat
  if c = q || c = '\\' then ['\\', c]
  else if c = '\n' then ['\\', 'n']
  else if c = '\r' then ['\\', 'r']
  else if c = '\t' then ['\\', 't']
  else if 0x20 ≤ b.toNat && b.toNat < 0x7f then [c]
  else '\\' :: 'x' :: hex 2 b.toNat

/-- A byte string in quotes, with a leading `b`. -/
def quoteBytes (bs : List UInt8) : String :=
  let q := quoteFor (bs.map fun b ↦ Char.ofNat b.toNat)
  String.ofList ('b' :: q :: bs.flatMap (quoteByte q) ++ [q])

end GatewayPrint.Text
