import GatewayPrint.Text.Half
import GatewayPrint.Yaml.Mark

/-!
# Styles of YAML scalars

Which styles can hold a given text in block context: plain, between single quotes, or as a literal
block. Double quotes can hold any text.
-/

namespace GatewayPrint.Yaml.Style

/-- A character that breaks a line inside a scalar. -/
def isBreak (c : Char) : Bool :=
  c = '\n' || c = '\u0085' || c = '\u2028' || c = '\u2029'

/-- A character that is written as it is in every style. -/
def isOrdinary (c : Char) : Bool :=
  let n := Text.codePoint c
  c = '\n' || (0x20 ≤ n && n ≤ 0x7e) || n = 0x85
    || (((0xa0 ≤ n && n ≤ 0xd7ff) || (0xe000 ≤ n && n ≤ 0xfffd) || (0x10000 ≤ n && n < 0x10ffff))
      && n ≠ 0xfeff)

/-- Whether the text that begins here is at an end or a blank. -/
def atBlank : List Char → Bool
  | [] => true
  | c :: _ => endsWord c

/-- Whether a first character makes a text something other than a plain scalar. -/
def opensIndicator (c : Char) (rest : List Char) : Bool :=
  "#,[]\x7b\x7d&*!|>'\"%@\x60".toList.contains c
    || ((c = '?' || c = ':' || c = '-') && atBlank rest)

/-- Whether a text after its first character holds a colon before a blank or a number sign after
one. -/
def innerIndicator (previous : Char) : List Char → Bool
  | [] => false
  | c :: rest =>
    (c = ':' && atBlank rest) || (c = '#' && endsWord previous) || innerIndicator c rest

/-- Whether a text would be read as something other than a plain scalar. -/
def hasIndicator (s : List Char) : Bool :=
  match s with
  | [] => false
  | c :: rest =>
    s.take 3 = ['-', '-', '-'] || s.take 3 = ['.', '.', '.']
      || opensIndicator c rest || innerIndicator c rest

/-- Whether a text has a line break. -/
def isMultiline (s : List Char) : Bool := s.any isBreak

/-- Whether some character satisfying `p` is followed by one satisfying `q`. -/
def adjacent (p q : Char → Bool) : List Char → Bool
  | [] => false
  | [_] => false
  | a :: b :: rest => (p a && q b) || adjacent p q (b :: rest)

def isSpace (c : Char) : Bool := c = ' '

def isSpaceOrBreak (c : Char) : Bool := c = ' ' || isBreak c

/-- Whether only double quotes can hold a text: it has a character that needs an escape, or a space
before a line break. -/
def needsEscapes (s : List Char) : Bool :=
  !s.all isOrdinary || adjacent isSpace isBreak s

/-- Whether a line of a text begins with a space. -/
def hasIndentedLine (s : List Char) : Bool := adjacent isBreak isSpace s

/-- Whether a text begins or ends with a space or a line break. -/
def hasOuterBlank (s : List Char) : Bool :=
  (s.head?.map isSpaceOrBreak).getD false || (s.getLast?.map isSpaceOrBreak).getD false

/-- Whether a text can be written without quotes, on one line. -/
def allowsPlain (s : List Char) : Bool :=
  !(needsEscapes s || hasIndentedLine s || hasOuterBlank s || isMultiline s || hasIndicator s)

/-- Whether a text can be written between single quotes. -/
def allowsSingle (s : List Char) : Bool := !(needsEscapes s || hasIndentedLine s)

/-- Whether a text can be written as a literal block. -/
def allowsLiteral (s : List Char) : Bool :=
  !(s.isEmpty || needsEscapes s || s.getLast? = some ' ')

end GatewayPrint.Yaml.Style
