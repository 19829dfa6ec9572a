import GatewayPrint.Text.Digit
import GatewayPrint.Text.Pattern
import GatewayPrint.Text.Width

/-!
# Parts that stand out

The parts of a message that a console sets off from the rest: tags, assignments, brackets,
addresses, names that are called, constants, numbers, paths, quoted texts and links; and in a log
the methods of requests. The console has no colours, but the parts are measured on their own.
-/

namespace GatewayPrint.Highlight

open Text Text.Pattern

def wordChar : Pattern := one isWordChar

def digit : Pattern := one Char.isDigit

/-- A decimal digit of any script. -/
def anyDigit : Pattern := one isDecimalDigit

def hexDigit : Pattern :=
  one fun c ↦ c.isDigit || ('a' ≤ c && c ≤ 'f') || ('A' ≤ c && c ≤ 'F')

/-- Any character of a line. -/
def lineChar : Pattern := one (· ≠ '\n')

/-- A character of a word, or one of some others. -/
def wordOr (others : String) : Pattern := one fun c ↦ isWordChar c || others.toList.contains c

/-- A tag in angle brackets, with its name and what it holds. -/
def tag : Pattern :=
  sequence [part (char '<'), part (many (wordOr "-.:|")), part (many (one fun _ ↦ true)),
    part (char '>')]

def assignment : Pattern :=
  sequence [part (between 1 49 wordChar), char '=',
    optional (part (sequence [optional (char '"'), oneOrMore wordChar, optional (char '"')]))]

/-- A bracket of any kind but an angle bracket. -/
def bracket : Pattern := part (among "][\x7b\x7d()")

/-- One to three digits. -/
def octet : Pattern := between 1 2 digit

def addressV4 : Pattern :=
  part (sequence [octet, char '.', octet, char '.', octet, char '.', octet])

def addressV6 : Pattern :=
  part (sequence
    [between 1 6 (sequence [between 1 3 hexDigit, char ':', optional (char ':')]),
      between 1 3 hexDigit])

/-- Groups of hexadecimal digits: `count` groups of two and one more, or `half` groups of four and
one more. -/
def hardwareAddress (count half : Nat) : Pattern :=
  let pair := between 1 1 hexDigit
  let four := times 4 hexDigit
  part (firstOf
    [sequence [times count (sequence [pair, char '-']), pair],
      sequence [times count (sequence [pair, char ':']), pair],
      sequence [times half (sequence [four, char '.']), four]])

def identifier : Pattern :=
  let four := times 4 hexDigit
  part (sequence [times 8 hexDigit, char '-', four, char '-', four, char '-', four, char '-',
    times 12 hexDigit])

/-- The name before an opening parenthesis. -/
def call : Pattern := seq (part (few (wordOr "."))) (char '(')

/-- A word that stands alone. -/
def constant (s : String) : Pattern := sequence [edge, part (word s), edge]

def sign : Pattern := among "-+"

/-- Digits that may have a point after them, and more digits. -/
def decimal : Pattern := sequence [oneOrMore digit, optional (char '.'), many digit]

/-- The exponent of a number, in as few digits as possible. -/
def exponent : Pattern :=
  optional (sequence [char 'e', optional sign, rounds false 1 none anyDigit])

def complexNumber : Pattern :=
  let imaginary := sequence [sign, decimal,
    optional (sequence [char 'e', optional sign, oneOrMore anyDigit])]
  part (sequence [notAfter isWordChar, optional (char '-'), decimal, exponent, optional imaginary,
    char 'j'])

def number : Pattern :=
  part (alt (sequence [notAfter isWordChar, optional (char '-'), decimal, exponent, edge])
    (seq (word "0x") (many hexDigit)))

/-- A path, and the name of the file at its end. -/
def path : Pattern :=
  let step := wordOr "-._+"
  seq (part (sequence [inner, many (seq (char '/') (oneOrMore step)), char '/']))
    (optional (part (many step)))

/-- A text in quotes; the closing quote has no backslash before it. -/
def quoted : Pattern :=
  let within (quote : String) := sequence [optional (char 'b'), word quote, few lineChar,
    notAfter (· = '\\'), word quote]
  seq (notAfter fun c ↦ c = '\\' || isWordChar c)
    (part (firstOf (["'''", "'", "\"\"\"", "\""].map within)))

def linkChar : Pattern :=
  one fun c ↦ c.isAlphanum || "-$_+!\x60(),.?/;:&=%#~@".toList.contains c

def link : Pattern :=
  part (sequence [firstOf (["file", "https", "http", "ws", "wss"].map word), word "://",
    many linkChar])

/-- The patterns whose matches do not overlap, the first one first. -/
def exclusive : Pattern :=
  firstOf [addressV4, addressV6, hardwareAddress 7 3, hardwareAddress 5 2, identifier, call,
    constant "True", constant "False", constant "None", part (word "..."), complexNumber, number,
    path, quoted, link]

/-- What the parts look like. -/
def patterns : List Pattern := [tag, assignment, bracket, exclusive]

/-- Whether the width of a text may differ from that of its pieces: it holds characters without
width. -/
def hasZeroWidth (s : List Char) : Bool := s.any fun c ↦ c ≠ '\n' && charWidth c = 0

/-- The parts of a message, from the place where each begins to the place where it ends. They matter
only for widths, and are not looked for where all characters have a width of their own. -/
def parts (s : List Char) : List (Nat × Nat) :=
  if hasZeroWidth s then patterns.flatMap fun p ↦ p.find s else []

def methods : List String := ["GET", "POST", "HEAD", "PUT", "DELETE", "OPTIONS", "TRACE", "PATCH"]

def logParts (s : List Char) : List (Nat × Nat) :=
  parts s ++ if hasZeroWidth s then (part (firstOf (methods.map word))).find s else []

end GatewayPrint.Highlight
