import GatewayPrint.Yaml.Token

/-!
# YAML lexemes

Reading one lexeme at a cursor: names of anchors, tags and their URIs, directives, and the five
styles of scalars. Each reader gives what it read and the cursor after it, or the first fault.
-/

namespace GatewayPrint.Yaml

open Cursor

/-- What was read, and the cursor after it. -/
abbrev Scanned (α : Type) := α × Cursor

/-- A fault of tokens, found at the cursor while reading what began at `start`. -/
def scanFault (context : Context) (start : Mark) (problem : Problem) (c : Cursor) : Fault :=
  .error ⟨.scanner, some (context, start), problem, c.mark⟩

/-! ## Names, tags and URIs -/

/-- What may follow the name of an anchor or an alias. -/
def endsAnchor (c : Char) : Bool :=
  endsWord c || "?:,]\x7d%@\x60".toList.contains c

/-- The name of an anchor or an alias, after its indicator. -/
def readAnchor (context : Context) (c : Cursor) : Except Fault (Scanned String) :=
  let start := c.mark
  let c := c.next
  let name := c.spanOf isNameChar
  let after := c.advance name.length
  if name.isEmpty then .error (scanFault context start (.notName c.peek) c)
  else if endsAnchor after.peek then .ok (String.ofList name, after)
  else .error (scanFault context start (.notName after.peek) after)

/-- A handle: an exclamation mark, or a name between two of them. -/
def readHandle (context : Context) (start : Mark) (c : Cursor) : Except Fault (Scanned String) :=
  if c.peek ≠ '!' then .error (scanFault context start (.notExclamation c.peek) c)
  else if c.peekAt 1 = ' ' then .ok ("!", c.next)
  else
    let name := c.next.spanOf isNameChar
    let after := c.next.advance name.length
    if after.peek = '!' then
      .ok (String.ofList ('!' :: name ++ ['!']), after.next)
    else .error (scanFault context start (.notExclamation after.peek) after)

/-- A character of a URI, the percent sign apart. -/
def isUriChar (c : Char) : Bool :=
  c.isAlphanum || "-;/?:@&=+$,_.!~*'()[]".toList.contains c

/-- A run of percent-encoded bytes. -/
def readUriBytes (context : Context) (start : Mark) :
    Nat → List UInt8 → Cursor → Except Fault (Scanned (List UInt8))
  | 0, bs, c => .ok (bs, c)
  | fuel + 1, bs, c =>
    if c.peek ≠ '%' then .ok (bs, c)
    else
      let c := c.next
      if !isHexDigit c.peek then .error (scanFault context start (.notUriEscape c.peek) c)
      else if !isHexDigit (c.peekAt 1) then
        .error (scanFault context start (.notUriEscape (c.peekAt 1)) c)
      else
        let n := ((Text.hexValues? (c.ahead 2)).getD 0).toUInt8
        readUriBytes context start fuel (bs ++ [n]) (c.advance 2)

/-- A URI with its percent-encoded characters decoded. -/
def readUriChars (context : Context) (start : Mark) :
    Nat → List Char → Cursor → Except Fault (Scanned (List Char))
  | 0, done, c => .ok (done, c)
  | fuel + 1, done, c =>
    let run := c.spanOf isUriChar
    let c := c.advance run.length
    let done := done ++ run
    if c.peek ≠ '%' then .ok (done, c)
    else do
      let (bs, after) ← readUriBytes context start c.rest.length [] c
      match Text.decodeUtf8 bs with
      | .ok cs => readUriChars context start fuel (done ++ cs) after
      | .error f => .error (scanFault context start (.uriBytes f) c)

def readUri (context parts : Context) (start : Mark) (c : Cursor) :
    Except Fault (Scanned String) := do
  let (cs, after) ← readUriChars context start (c.rest.length + 1) [] c
  if after.mark = c.mark then .error (scanFault parts start (.notUri c.peek) c)
  else .ok (String.ofList cs, after)

/-- Whether the word of a tag holds a second exclamation mark. -/
def hasHandle : List Char → Bool
  | [] => false
  | c :: rest => if endsField c then false else c = '!' || hasHandle rest

/-- A tag: verbatim between angle brackets, or a handle and a suffix. -/
def readTag (c : Cursor) : Except Fault (Scanned (Option String × String)) := do
  let start := c.mark
  let second := c.peekAt 1
  let (value, after) ←
    if second = '<' then do
      let (uri, after) ← readUri .tag .tagParts start (c.advance 2)
      if after.peek ≠ '>' then
        .error (scanFault .tagParts start (.notAngle after.peek) after)
      else .ok ((none, uri), after.next)
    else if endsWord second then .ok ((none, "!"), c.next)
    else do
      let (handle, after) ←
        if hasHandle (c.rest.drop 1) then readHandle .tag start c
        else .ok ("!", c.next)
      let (suffix, after) ← readUri .tag .tagParts start after
      .ok ((some handle, suffix), after)
  if endsField after.peek then .ok (value, after)
  else .error (scanFault .tag start (.notSpace after.peek) after)

/-! ## Directives -/

/-- The rest of a line that may hold only a comment. -/
def readIgnored (context : Context) (start : Mark) (c : Cursor) : Except Fault Cursor :=
  let c := c.skipSpaces.skipComment
  if endsLine c.peek then .ok c.lineBreak.2
  else .error (scanFault context start (.notCommentOrBreak c.peek) c)

def readVersionNumber (start : Mark) (c : Cursor) : Except Fault (Scanned Nat) :=
  let ds := c.spanOf Char.isDigit
  if ds.isEmpty then .error (scanFault .directive start (.notDigit c.peek) c)
  else if maxDigits < ds.length then .error (.scalar (.integerLength ds.length))
  else .ok (digitsValue ds, c.advance ds.length)

def readDirectiveName (start : Mark) (c : Cursor) : Except Fault (Scanned String) :=
  let name := c.spanOf isNameChar
  let after := c.advance name.length
  if name.isEmpty then .error (scanFault .directive start (.notName c.peek) c)
  else if endsField after.peek then .ok (String.ofList name, after)
  else .error (scanFault .directive start (.notName after.peek) after)

def readVersion (start : Mark) (c : Cursor) : Except Fault (Scanned Directive) := do
  let (major, c) ← readVersionNumber start c.skipSpaces
  if c.peek ≠ '.' then throw (scanFault .directive start (.notDigitOrPoint c.peek) c)
  let (minor, c) ← readVersionNumber start c.next
  if !endsField c.peek then throw (scanFault .directive start (.notDigitOrSpace c.peek) c)
  return (.version major minor, c)

def readTagDirective (start : Mark) (c : Cursor) : Except Fault (Scanned Directive) := do
  let (handle, c) ← readHandle .directive start c.skipSpaces
  if c.peek ≠ ' ' then throw (scanFault .directive start (.notSpace c.peek) c)
  let (uri, c) ← readUri .directive .directiveParts start c.skipSpaces
  if !endsField c.peek then throw (scanFault .directive start (.notSpace c.peek) c)
  return (.tag handle uri, c)

/-- A directive, its position after the value, and the cursor on the next line. -/
def readDirective (c : Cursor) : Except Fault (Scanned (Directive × Mark)) := do
  let start := c.mark
  let (name, c) ← readDirectiveName start c.next
  let (directive, stop, c) ←
    if name = "YAML" then do
      let (d, c) ← readVersion start c
      pure (d, c.mark, c)
    else if name = "TAG" then do
      let (d, c) ← readTagDirective start c
      pure (d, c.mark, c)
    else pure (.other name, c.mark, c.skip fun d ↦ !endsLine d)
  let c ← readIgnored .directive start c
  return ((directive, stop), c)

/-! ## Plain scalars -/

/-- Punctuation that ends a plain scalar inside brackets or braces. -/
def isFlowPunctuation (c : Char) : Bool :=
  c = ',' || c = '?' || c = '[' || c = ']' || c = '\x7b' || c = '\x7d'

/-- What makes a colon before it the indicator of a mapping value. -/
def endsKey (flow : Bool) (c : Char) : Bool :=
  endsWord c || (flow && (c = ',' || c = '[' || c = ']' || c = '\x7b' || c = '\x7d'))

/-- The characters of a plain scalar up to the next blank. -/
def plainWord (flow : Bool) : List Char → List Char
  | [] => []
  | c :: rest =>
    if endsWord c || (c = ':' && endsKey flow (rest.headD eos)) || (flow && isFlowPunctuation c)
    then [] else c :: plainWord flow rest

/-- The line breaks between two lines of a plain scalar, or none when a document marker stands at
the beginning of a line. -/
def plainBreaks : Nat → List Char → Cursor → Option (List Char) × Cursor
  | 0, breaks, c => (some breaks, c)
  | fuel + 1, breaks, c =>
    if c.peek = ' ' then plainBreaks fuel breaks c.next
    else if isBreak c.peek then
      let (b, c) := c.lineBreak
      if c.atMarker then (none, c) else plainBreaks fuel (breaks ++ b) c
    else (some breaks, c)

/-- The text that stands for a line break and the breaks after it: one line feed alone folds into a
space. -/
def foldBreaks (first breaks : List Char) : List Char :=
  if first ≠ ['\n'] then first ++ breaks
  else if breaks.isEmpty then [' ']
  else breaks

/-- The space between two words of a plain scalar as it reads in the value (empty when the scalar
ends here), whether it holds a line break, and the cursor after it. -/
def plainSpaces (c : Cursor) : List Char × Bool × Cursor :=
  let spaces := c.spanOf (· = ' ')
  let c := c.advance spaces.length
  if isBreak c.peek then
    let (first, c) := c.lineBreak
    if c.atMarker then ([], true, c)
    else
      match plainBreaks (c.rest.length + 1) [] c with
      | (none, c) => ([], true, c)
      | (some breaks, c) => (foldBreaks first breaks, true, c)
  else (spaces, false, c)

/-- A plain scalar that has been read. -/
structure Plain where
  text : List Char
  stop : Mark
  /-- Whether the scalar stopped at the beginning of a line. -/
  fresh : Bool
deriving Repr

/-- The words of a plain scalar, with `spaces` before the next one. -/
def readPlainWords (flow : Bool) (indent : Int) :
    Nat → Plain → List Char → Cursor → Plain × Cursor
  | 0, done, _, c => (done, c)
  | fuel + 1, done, spaces, c =>
    let word := plainWord flow c.rest
    if c.peek = '#' || word.isEmpty then (done, c)
    else
      let c := c.advance word.length
      let stop := c.mark
      let (after, fresh, c) := plainSpaces c
      let done : Plain := ⟨done.text ++ spaces ++ word, stop, fresh⟩
      if after.isEmpty || c.peek = '#' || (!flow && (c.mark.column : Int) < indent) then (done, c)
      else readPlainWords flow indent fuel done after c

/-- A plain scalar; lines of block context must be indented by at least `indent`. -/
def readPlain (flow : Bool) (indent : Int) (c : Cursor) : Plain × Cursor :=
  readPlainWords flow indent (c.rest.length + 1) ⟨[], c.mark, false⟩ [] c

/-! ## Quoted scalars -/

/-- The character that an escape of one letter stands for. -/
def escapeOf? (c : Char) : Option Char :=
  if c = '0' then some eos
  else if c = 'a' then some '\x07'
  else if c = 'b' then some '\x08'
  else if c = 't' || c = '\t' then some '\t'
  else if c = 'n' then some '\n'
  else if c = 'v' then some '\x0b'
  else if c = 'f' then some '\x0c'
  else if c = 'r' then some '\r'
  else if c = 'e' then some '\x1b'
  else if c = ' ' then some ' '
  else if c = '"' then some '"'
  else if c = '\\' then some '\\'
  else if c = '/' then some '/'
  else if c = 'N' then some '\u0085'
  else if c = '_' then some '\u00a0'
  else if c = 'L' then some '\u2028'
  else if c = 'P' then some '\u2029'
  else none

/-- The number of hexadecimal digits after an escape letter. -/
def escapeDigits? (c : Char) : Option Nat :=
  if c = 'x' then some 2 else if c = 'u' then some 4 else if c = 'U' then some 8 else none

/-- A character of a quoted scalar that stands for itself wherever it is. -/
def isQuotedChar (c : Char) : Bool :=
  !(c = '\x27' || c = '"' || c = '\\' || endsWord c)

/-- Line breaks inside a quoted scalar, with the blanks at the beginning of each line. -/
def quotedBreaks (start : Mark) : Nat → List Char → Cursor → Except Fault (Scanned (List Char))
  | 0, breaks, c => .ok (breaks, c)
  | fuel + 1, breaks, c =>
    if c.atMarker then .error (scanFault .quoted start .documentSeparator c)
    else
      let c := c.skip fun d ↦ d = ' ' || d = '\t'
      if isBreak c.peek then
        let (b, c) := c.lineBreak
        quotedBreaks start fuel (breaks ++ b) c
      else .ok (breaks, c)

/-- The character with a code point, which may be that of a half. -/
def charOfCode (n : Nat) : Except Fault Char :=
  if n < 0x110000 then .ok (Text.ofCodePoint n)
  else if n < 0x80000000 then .error (.scalar .codePoint)
  else .error (.scalar .codeOverflow)

def readEscape (start : Mark) (c : Cursor) : Except Fault (Scanned (List Char)) :=
  match escapeOf? c.peek, escapeDigits? c.peek with
  | some e, _ => .ok ([e], c.next)
  | none, some count =>
    let c := c.next
    let digits := c.ahead count
    let good := digits.takeWhile isHexDigit
    if good.length < count then
      .error (scanFault .doubleQuoted start (.notHex count (c.peekAt good.length)) c)
    else do
      let d ← charOfCode ((Text.hexValues? digits).getD 0)
      .ok ([d], c.advance count)
  | none, none =>
    if isBreak c.peek then
      let c := c.lineBreak.2
      quotedBreaks start (c.rest.length + 1) [] c
    else .error (scanFault .doubleQuoted start (.unknownEscape c.peek) c)

/-- The characters of a quoted scalar up to a blank or its closing quote. -/
def readQuotedWord (double : Bool) (start : Mark) :
    Nat → List Char → Cursor → Except Fault (Scanned (List Char))
  | 0, done, c => .ok (done, c)
  | fuel + 1, done, c =>
    let run := c.spanOf isQuotedChar
    let c := c.advance run.length
    let done := done ++ run
    let d := c.peek
    if !double && d = '\x27' && c.peekAt 1 = '\x27' then
      readQuotedWord double start fuel (done ++ ['\x27']) (c.advance 2)
    else if (double && d = '\x27') || (!double && (d = '"' || d = '\\')) then
      readQuotedWord double start fuel (done ++ [d]) c.next
    else if double && d = '\\' then do
      let (cs, c) ← readEscape start c.next
      readQuotedWord double start fuel (done ++ cs) c
    else .ok (done, c)

/-- The blanks between two words of a quoted scalar, as they read in its value. -/
def readQuotedSpaces (start : Mark) (c : Cursor) : Except Fault (Scanned (List Char)) :=
  let blanks := c.spanOf fun d ↦ d = ' ' || d = '\t'
  let c := c.advance blanks.length
  if c.peek = eos then .error (scanFault .quoted start .endOfStream c)
  else if isBreak c.peek then do
    let (first, c) := c.lineBreak
    let (breaks, c) ← quotedBreaks start (c.rest.length + 1) [] c
    .ok (foldBreaks first breaks, c)
  else .ok (blanks, c)

/-- Words and blanks of a quoted scalar up to its closing quote. -/
def readQuotedRest (double : Bool) (start : Mark) :
    Nat → List Char → Cursor → Except Fault (Scanned (List Char))
  | 0, done, c => .ok (done, c)
  | fuel + 1, done, c =>
    if c.peek = (if double then '"' else '\x27') then .ok (done, c.next)
    else do
      let (blanks, c) ← readQuotedSpaces start c
      let (word, c) ← readQuotedWord double start (c.rest.length + 1) [] c
      readQuotedRest double start fuel (done ++ blanks ++ word) c

def readQuoted (double : Bool) (c : Cursor) : Except Fault (Scanned (List Char)) := do
  let start := c.mark
  let c := c.next
  let (word, c) ← readQuotedWord double start (c.rest.length + 1) [] c
  readQuotedRest double start (c.rest.length + 1) word c

/-! ## Block scalars -/

/-- What becomes of the line breaks at the end of a block scalar. -/
inductive Chomping where
  | clip
  | keep
  | strip
deriving DecidableEq, Repr

def chompingOf? (c : Char) : Option Chomping :=
  if c = '+' then some .keep else if c = '-' then some .strip else none

/-- An indentation indicator, if one is ahead. -/
def readIndent (start : Mark) (c : Cursor) : Except Fault (Scanned (Option Nat)) :=
  if !c.peek.isDigit then .ok (none, c)
  else if c.peek = '0' then .error (scanFault .blockScalar start .zeroIndent c)
  else .ok (some (c.peek.toNat - 48), c.next)

/-- The indicators of a block scalar, in either order. -/
def readIndicators (start : Mark) (c : Cursor) :
    Except Fault (Scanned (Chomping × Option Nat)) := do
  let (chomping, indent, c) ← match chompingOf? c.peek with
    | some chomping => do
      let (indent, c) ← readIndent start c.next
      pure (chomping, indent, c)
    | none => do
      let (indent, c) ← readIndent start c
      match indent, chompingOf? c.peek with
      | some _, some chomping => pure (chomping, indent, c.next)
      | _, _ => pure (.clip, indent, c)
  if endsField c.peek then return ((chomping, indent), c)
  throw (scanFault .blockScalar start (.notIndicator c.peek) c)

/-- The blank lines before a block scalar whose indentation is to be found: their breaks, the
greatest indentation among them, and the position after the last break. -/
def blockIndentation : Nat → List Char → Nat → Mark → Cursor → List Char × Nat × Mark × Cursor
  | 0, breaks, deepest, stop, c => (breaks, deepest, stop, c)
  | fuel + 1, breaks, deepest, stop, c =>
    if c.peek = ' ' then
      let c := c.next
      blockIndentation fuel breaks (max deepest c.mark.column) stop c
    else if isBreak c.peek then
      let (b, c) := c.lineBreak
      blockIndentation fuel (breaks ++ b) deepest c.mark c
    else (breaks, deepest, stop, c)

/-- Moves past spaces while the column is less than `indent`. -/
def skipIndent (indent : Nat) (c : Cursor) : Cursor :=
  c.advance (min (c.spanOf (· = ' ')).length (indent - c.mark.column))

/-- The breaks of blank lines, up to the indentation of the next line. -/
def blockBreaks (indent : Nat) : Nat → List Char → Mark → Cursor → List Char × Mark × Cursor
  | 0, breaks, stop, c => (breaks, stop, c)
  | fuel + 1, breaks, stop, c =>
    let c := skipIndent indent c
    if isBreak c.peek then
      let (b, c) := c.lineBreak
      blockBreaks indent fuel (breaks ++ b) c.mark c
    else (breaks, stop, c)

/-- The lines of a block scalar: `done` are its characters, `final` the break of its last line and
`breaks` those of the blank lines after it. -/
def blockLines (folded : Bool) (indent : Nat) :
    Nat → List Char → List Char → List Char → Mark → Cursor →
      (List Char × List Char × List Char) × Mark × Cursor
  | 0, done, final, breaks, stop, c => ((done, final, breaks), stop, c)
  | fuel + 1, done, final, breaks, stop, c =>
    if c.mark.column ≠ indent || c.peek = eos then ((done, final, breaks), stop, c)
    else
      let solid := c.peek ≠ ' ' && c.peek ≠ '\t'
      let line := c.spanOf fun d ↦ !endsLine d
      let done := done ++ breaks ++ line
      let (final, c) := (c.advance line.length).lineBreak
      let (breaks, stop, c) := blockBreaks indent (c.rest.length + 1) [] c.mark c
      if c.mark.column = indent && c.peek ≠ eos then
        let joint :=
          if folded && final = ['\n'] && solid && c.peek ≠ ' ' && c.peek ≠ '\t' then
            (if breaks.isEmpty then [' '] else [])
          else final
        blockLines folded indent fuel (done ++ joint) final breaks stop c
      else ((done, final, breaks), stop, c)

/-- A block scalar inside a block indented by `outer`, and the position where it stops. -/
def readBlock (folded : Bool) (outer : Int) (c : Cursor) :
    Except Fault (Scanned (List Char × Mark)) := do
  let start := c.mark
  let ((chomping, increment), c) ← readIndicators start c.next
  let c ← readIgnored .blockScalar start c
  let least := (max (outer + 1) 1).toNat
  let fuel := c.rest.length + 1
  let (indent, breaks, stop, c) := match increment with
    | none =>
      let (breaks, deepest, stop, c) := blockIndentation fuel [] 0 c.mark c
      (max least deepest, breaks, stop, c)
    | some n =>
      let indent := least + n - 1
      let (breaks, stop, c) := blockBreaks indent fuel [] c.mark c
      (indent, breaks, stop, c)
  let ((done, final, breaks), stop, c) := blockLines folded indent fuel [] [] breaks stop c
  let tail := match chomping with
    | .clip => final
    | .keep => final ++ breaks
    | .strip => []
  return ((done ++ tail, stop), c)

end GatewayPrint.Yaml
