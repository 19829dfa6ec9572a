import GatewayPrint.Text.Half
import GatewayPrint.Text.Hex

/-!
# Strings of JSON in ASCII

A string is written between double quotes in printable ASCII: quote, backslash and control
characters as escapes, every other character outside ASCII as one or two UTF-16 units.
-/

namespace GatewayPrint.Json

open Text (codePoint hex hexValues? isFirstHalf isSecondHalf ofCodePoint)

/-- A UTF-16 unit as an escape. -/
def unitEscape (n : Nat) : List Char := '\\' :: 'u' :: hex 4 n

/-- A character inside a string. -/
def escapeChar (c : Char) : List Char :=
  if c = '"' then ['\\', '"']
  else if c = '\\' then ['\\', '\\']
  else if c = '\n' then ['\\', 'n']
  else if c = '\r' then ['\\', 'r']
  else if c = '\t' then ['\\', 't']
  else if c.toNat = 0x0c then ['\\', 'f']
  else if c.toNat = 0x08 then ['\\', 'b']
  else if 0x20 ≤ c.toNat && c.toNat < 0x7f then [c]
  else if codePoint c < 0x10000 then unitEscape (codePoint c)
  else
    let n := c.toNat - 0x10000
    unitEscape (0xd800 + n / 0x400) ++ unitEscape (0xdc00 + n % 0x400)

/-- A string with its quotes. -/
def escape (s : List Char) : List Char := '"' :: s.flatMap escapeChar ++ ['"']

/-- The character that a single-letter escape stands for. -/
def shortEscape? (c : Char) : Option Char :=
  if c = '"' then some '"'
  else if c = '\\' then some '\\'
  else if c = '/' then some '/'
  else if c = 'n' then some '\n'
  else if c = 'r' then some '\r'
  else if c = 't' then some '\t'
  else if c = 'f' then some (Char.ofNat 0x0c)
  else if c = 'b' then some (Char.ofNat 0x08)
  else none

/-- Joins the two halves of a character beyond the first plane; a half that stands alone remains. -/
def joinUnits : List Nat → List Char
  | [] => []
  | [n] => [ofCodePoint n]
  | n :: m :: rest =>
    if isFirstHalf n && isSecondHalf m then
      Char.ofNat (0x10000 + (n - 0xd800) * 0x400 + (m - 0xdc00)) :: joinUnits rest
    else ofCodePoint n :: joinUnits (m :: rest)

/-- The code points of a string up to its closing quote, with unpaired halves as they are written,
and the rest of the text. -/
def unescape : List Char → Option (List Nat × List Char)
  | [] => none
  | '"' :: rest => some ([], rest)
  | '\\' :: 'u' :: a :: b :: c :: d :: rest => do
    let n ← hexValues? [a, b, c, d]
    let (ns, rest) ← unescape rest
    some (n :: ns, rest)
  | '\\' :: c :: rest => do
    let e ← shortEscape? c
    let (ns, rest) ← unescape rest
    some (e.toNat :: ns, rest)
  | c :: rest => do
    let (ns, rest) ← unescape rest
    some (c.toNat :: ns, rest)

/-- A string in its quotes, and the rest of the text. -/
def readString? : List Char → Option (String × List Char)
  | '"' :: rest => (unescape rest).map fun r ↦ (String.ofList (joinUnits r.1), r.2)
  | _ => none

end GatewayPrint.Json
