/-!
# Positions in a YAML stream

A stream is read as a list of characters with a position that counts characters, lines and columns.
The end of the stream reads as NUL, which no stream may hold.
-/

namespace GatewayPrint.Yaml

/-- A position: characters before it, and its line and column counted from zero. -/
structure Mark where
  index : Nat
  line : Nat
  column : Nat
deriving DecidableEq, Repr, Inhabited

/-- The end of the stream, as a character. -/
def eos : Char := Char.ofNat 0

/-- A character that ends a line. -/
def isBreak (c : Char) : Bool :=
  c = '\n' || c = '\r' || c = '\u0085' || c = '\u2028' || c = '\u2029'

/-- A line break or the end of the stream. -/
def endsLine (c : Char) : Bool := c = eos || isBreak c

/-- A space, a line break or the end of the stream. -/
def endsField (c : Char) : Bool := c = ' ' || endsLine c

/-- A space, a tab, a line break or the end of the stream. -/
def endsWord (c : Char) : Bool := c = '\t' || endsField c

/-- A letter, a digit, a hyphen or an underscore, in ASCII. -/
def isNameChar (c : Char) : Bool := c.isAlphanum || c = '-' || c = '_'

def isHexDigit (c : Char) : Bool :=
  c.isDigit || ('a' ≤ c && c ≤ 'f') || ('A' ≤ c && c ≤ 'F')

/-- The position after a character that is followed by `next`. A carriage return before a line feed
leaves the new line to the line feed, and a byte order mark takes no column. -/
def Mark.step (m : Mark) (c next : Char) : Mark :=
  if isBreak c && !(c = '\r' && next = '\n') then ⟨m.index + 1, m.line + 1, 0⟩
  else if c = '\ufeff' then ⟨m.index + 1, m.line, m.column⟩
  else ⟨m.index + 1, m.line, m.column + 1⟩

/-- The unread characters of a stream and the position of the first of them. -/
structure Cursor where
  rest : List Char
  mark : Mark
deriving Repr, Inhabited

namespace Cursor

def start (s : List Char) : Cursor := ⟨s, ⟨0, 0, 0⟩⟩

def peek (c : Cursor) : Char := c.rest.headD eos

/-- The character `k` places ahead. -/
def peekAt (c : Cursor) (k : Nat) : Char := (c.rest[k]?).getD eos

/-- The next `n` characters, fewer at the end. -/
def ahead (c : Cursor) (n : Nat) : List Char := c.rest.take n

/-- Moves past `n` characters. -/
def advance (c : Cursor) : Nat → Cursor
  | 0 => c
  | n + 1 =>
    match c.rest with
    | [] => c
    | d :: rest => advance ⟨rest, c.mark.step d (rest.headD eos)⟩ n

/-- Moves past the next character. -/
def next (c : Cursor) : Cursor := c.advance 1

/-- The characters ahead that satisfy `p`. -/
def spanOf (c : Cursor) (p : Char → Bool) : List Char := c.rest.takeWhile p

/-- Moves past the characters that satisfy `p`. -/
def skip (c : Cursor) (p : Char → Bool) : Cursor := c.advance (c.spanOf p).length

/-- Moves past a comment, up to its line break. -/
def skipComment (c : Cursor) : Cursor :=
  if c.peek = '#' then c.skip fun d ↦ !endsLine d else c

def skipSpaces (c : Cursor) : Cursor := c.skip (· = ' ')

/-- A line break ahead, in the form it takes in a scalar, and the cursor after it: the separators of
lines and paragraphs stay, every other break becomes a line feed. -/
def lineBreak (c : Cursor) : List Char × Cursor :=
  let d := c.peek
  if d = '\r' && c.peekAt 1 = '\n' then (['\n'], c.advance 2)
  else if d = '\r' || d = '\n' || d = '\u0085' then (['\n'], c.next)
  else if d = '\u2028' || d = '\u2029' then ([d], c.next)
  else ([], c)

/-- A document marker ahead: three hyphens or three dots that end a word. -/
def atMarker (c : Cursor) : Bool :=
  (c.ahead 3 = ['-', '-', '-'] || c.ahead 3 = ['.', '.', '.']) && endsWord (c.peekAt 3)

end Cursor

end GatewayPrint.Yaml
