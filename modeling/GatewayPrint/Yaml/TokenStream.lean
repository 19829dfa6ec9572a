import GatewayPrint.Yaml.Lexeme
import GatewayPrint.Yaml.Stream

/-!
# The token stream of a YAML document

Tokens depend on indentation, on the nesting of brackets, and on keys that are only known to be keys
once their colon is seen. The scanner therefore keeps tokens back while the first of them may still
turn out to begin a key. What a reader sees is the list of tokens that are handed over before the
first fault, and that fault.
-/

namespace GatewayPrint.Yaml

/-- A place where a key may have begun. -/
structure KeyCandidate where
  /-- The number of the token that would be the key. -/
  token : Nat
  /-- Whether the block structure demands that it is a key. -/
  required : Bool
  mark : Mark
deriving Repr

/-- The state of the scanner. -/
structure Scanner where
  cursor : Cursor
  /-- What is wrong behind the last character of the stream. -/
  behind : Option Fault
  /-- Tokens that are read but not handed over. -/
  pending : List Token
  /-- The number of tokens handed over. -/
  taken : Nat
  indent : Int
  /-- The indentations of the enclosing blocks, innermost first. -/
  outer : List Int
  /-- The depth of brackets and braces. -/
  flow : Nat
  /-- Whether a key may begin here. -/
  keyAllowed : Bool
  /-- The candidates for keys, by depth. -/
  candidates : List (Nat × KeyCandidate)
  done : Bool
deriving Repr

namespace Scanner

/-- The state before the first token. -/
def start (s : Stream) : Scanner :=
  let c := Cursor.start s.text
  { cursor := c, behind := s.fault, pending := [⟨.streamStart, c.mark, c.mark⟩], taken := 0,
    indent := -1, outer := [], flow := 0, keyAllowed := true, candidates := [], done := false }

/-- The position of the next character. -/
def mark (s : Scanner) : Mark := s.cursor.mark

def push (s : Scanner) (kind : Token.Kind) (first last : Mark) : Scanner :=
  { s with pending := s.pending ++ [⟨kind, first, last⟩] }

/-- Appends a token that takes no characters. -/
def pushHere (s : Scanner) (kind : Token.Kind) : Scanner := s.push kind s.mark s.mark

/-- Appends a token of `n` characters. -/
def pushNext (s : Scanner) (kind : Token.Kind) (n : Nat) : Scanner :=
  let after := s.cursor.advance n
  { s with cursor := after, pending := s.pending ++ [⟨kind, s.mark, after.mark⟩] }

/-! ## Candidates for keys -/

/-- The fault of a key that has no colon. -/
def missingColon (s : Scanner) (k : KeyCandidate) : Fault :=
  .error ⟨.scanner, some (.simpleKey, k.mark), .missingColon, s.mark⟩

/-- A candidate lapses at the end of its line and after 1024 characters. -/
def lapsed (s : Scanner) (k : KeyCandidate) : Bool :=
  k.mark.line != s.mark.line || 1024 < s.mark.index - k.mark.index

def dropLapsed (s : Scanner) : Except Fault Scanner :=
  match s.candidates.find? fun e ↦ s.lapsed e.2 && e.2.required with
  | some (_, k) => .error (s.missingColon k)
  | none => .ok { s with candidates := s.candidates.filter fun e ↦ !s.lapsed e.2 }

def candidate? (s : Scanner) : Option KeyCandidate := s.candidates.lookup s.flow

def dropCandidate (s : Scanner) : Except Fault Scanner :=
  match s.candidate? with
  | some k =>
    if k.required then .error (s.missingColon k)
    else .ok { s with candidates := s.candidates.filter fun e ↦ e.1 != s.flow }
  | none => .ok s

/-- Notes that the next token may be a key. -/
def noteCandidate (s : Scanner) : Except Fault Scanner := do
  if !s.keyAllowed then return s
  let required := s.flow == 0 && s.indent == s.mark.column
  let s ← s.dropCandidate
  let k : KeyCandidate := ⟨s.taken + s.pending.length, required, s.mark⟩
  return { s with candidates := s.candidates ++ [(s.flow, k)] }

/-- The number of the first token that may still become a key. -/
def firstCandidate? (s : Scanner) : Option Nat :=
  (s.candidates.map fun e ↦ e.2.token).min?

/-! ## Indentation -/

/-- Closes the blocks that are indented by more than `column`. -/
def unwind (column : Int) : Nat → Scanner → Scanner
  | 0, s => s
  | fuel + 1, s =>
    if s.indent ≤ column then s
    else
      let s' := s.pushHere .blockEnd
      unwind column fuel { s' with indent := s.outer.headD (-1), outer := s.outer.tail }

/-- Closes the blocks that end before `column`; inside brackets indentation has no meaning. -/
def unwindTo (s : Scanner) (column : Int) : Scanner :=
  if 0 < s.flow then s else unwind column (s.outer.length + 1) s

/-- Opens a block at `column` if it is indented by more than the present one. -/
def indentTo? (s : Scanner) (column : Nat) : Option Scanner :=
  if s.indent < column then some { s with indent := column, outer := s.indent :: s.outer } else none

/-! ## One token -/

/-- Moves past blanks, comments and line breaks; a line break allows a key in block context. -/
def skipBlanks : Nat → Scanner → Scanner
  | 0, s => s
  | fuel + 1, s =>
    let c := s.cursor.skipSpaces.skipComment
    if isBreak c.peek then
      skipBlanks fuel
        { s with cursor := c.lineBreak.2, keyAllowed := s.keyAllowed || s.flow == 0 }
    else { s with cursor := c }

/-- Moves to the next lexeme; a byte order mark may open the stream. -/
def skipToLexeme (s : Scanner) : Scanner :=
  let s := if s.mark.index = 0 && s.cursor.peek = '\ufeff' then { s with cursor := s.cursor.next }
    else s
  skipBlanks (s.cursor.rest.length + 1) s

def fetchEnd (s : Scanner) : Except Fault Scanner := do
  let s ← (s.unwindTo (-1)).dropCandidate
  let s := { s with keyAllowed := false, candidates := [], done := true }
  return s.pushHere .streamEnd

def fetchDirective (s : Scanner) : Except Fault Scanner := do
  let s ← (s.unwindTo (-1)).dropCandidate
  let ((d, stop), c) ← readDirective s.cursor
  let s := { s with keyAllowed := false }
  return { s.push (.directive d) s.mark stop with cursor := c }

/-- The marker that begins or ends a document. -/
def fetchMarker (s : Scanner) (kind : Token.Kind) : Except Fault Scanner := do
  let s ← (s.unwindTo (-1)).dropCandidate
  return { s with keyAllowed := false }.pushNext kind 3

/-- An opening bracket or brace. -/
def fetchFlowStart (s : Scanner) (kind : Token.Kind) : Except Fault Scanner := do
  let s ← s.noteCandidate
  return { s with flow := s.flow + 1, keyAllowed := true }.pushNext kind 1

/-- A closing bracket or brace. -/
def fetchFlowEnd (s : Scanner) (kind : Token.Kind) : Except Fault Scanner := do
  let s ← s.dropCandidate
  return { s with flow := s.flow - 1, keyAllowed := false }.pushNext kind 1

/-- A comma. -/
def fetchFlowEntry (s : Scanner) : Except Fault Scanner := do
  let s ← { s with keyAllowed := true }.dropCandidate
  return s.pushNext .flowEntry 1

/-- The fault of an indicator where none is allowed. -/
def misplaced (s : Scanner) (problem : Problem) : Fault :=
  .error ⟨.scanner, none, problem, s.mark⟩

/-- Opens a block at the present column, with a token for its beginning. -/
def openBlock (s : Scanner) (kind : Token.Kind) : Scanner :=
  match s.indentTo? s.mark.column with
  | some s => s.pushHere kind
  | none => s

/-- The hyphen of a sequence entry. -/
def fetchBlockEntry (s : Scanner) : Except Fault Scanner := do
  if s.flow == 0 && !s.keyAllowed then throw (s.misplaced .sequenceNotAllowed)
  let s := if s.flow == 0 then s.openBlock .blockSequenceStart else s
  let s ← { s with keyAllowed := true }.dropCandidate
  return s.pushNext .blockEntry 1

/-- The question mark of a key. -/
def fetchKey (s : Scanner) : Except Fault Scanner := do
  if s.flow == 0 && !s.keyAllowed then throw (s.misplaced .keyNotAllowed)
  let s := if s.flow == 0 then s.openBlock .blockMappingStart else s
  let s ← { s with keyAllowed := s.flow == 0 }.dropCandidate
  return s.pushNext .key 1

/-- The tokens with `t` at place `n`. -/
def insertAt (n : Nat) (t : Token) (ts : List Token) : List Token := ts.take n ++ t :: ts.drop n

/-- The colon of a value: it turns a candidate into a key, or follows a key of its own. -/
def fetchValue (s : Scanner) : Except Fault Scanner := do
  match s.candidate? with
  | some k =>
    let s := { s with candidates := s.candidates.filter fun e ↦ e.1 != s.flow }
    let place := k.token - s.taken
    let s := { s with pending := insertAt place ⟨.key, k.mark, k.mark⟩ s.pending }
    let s :=
      if s.flow == 0 then
        match s.indentTo? k.mark.column with
        | some s =>
          { s with pending := insertAt place ⟨.blockMappingStart, k.mark, k.mark⟩ s.pending }
        | none => s
      else s
    return { s with keyAllowed := false }.pushNext .value 1
  | none =>
    if s.flow == 0 && !s.keyAllowed then throw (s.misplaced .valueNotAllowed)
    let s := if s.flow == 0 then s.openBlock .blockMappingStart else s
    let s ← { s with keyAllowed := s.flow == 0 }.dropCandidate
    return s.pushNext .value 1

/-- An alias or an anchor. -/
def fetchAnchor (s : Scanner) (context : Context) (kind : String → Token.Kind) :
    Except Fault Scanner := do
  let s ← s.noteCandidate
  let (name, c) ← readAnchor context s.cursor
  return { s.push (kind name) s.mark c.mark with cursor := c, keyAllowed := false }

def fetchTag (s : Scanner) : Except Fault Scanner := do
  let s ← s.noteCandidate
  let ((handle, suffix), c) ← readTag s.cursor
  return { s.push (.tag handle suffix) s.mark c.mark with cursor := c, keyAllowed := false }

/-- A literal or folded scalar. -/
def fetchBlockScalar (s : Scanner) (folded : Bool) : Except Fault Scanner := do
  let s ← { s with keyAllowed := true }.dropCandidate
  let ((text, stop), c) ← readBlock folded s.indent s.cursor
  return { s.push (.scalar (String.ofList text) false) s.mark stop with cursor := c }

def fetchQuoted (s : Scanner) (double : Bool) : Except Fault Scanner := do
  let s ← s.noteCandidate
  let (text, c) ← readQuoted double s.cursor
  return { s.push (.scalar (String.ofList text) false) s.mark c.mark with
    cursor := c, keyAllowed := false }

/-- A plain scalar; one that stops at the beginning of a line allows a key there. -/
def fetchPlain (s : Scanner) : Except Fault Scanner := do
  let s ← s.noteCandidate
  let (p, c) := readPlain (0 < s.flow) (s.indent + 1) s.cursor
  return { s.push (.scalar (String.ofList p.text) true) s.mark p.stop with
    cursor := c, keyAllowed := p.fresh }

/-- Characters that begin something other than a plain scalar, or nothing. -/
def isIndicator (c : Char) : Bool :=
  endsWord c || "-?:,[]\x7b\x7d#&*!|>'\"%@\x60".toList.contains c

/-- Whether a plain scalar begins here. -/
def startsPlain (s : Scanner) : Bool :=
  let c := s.cursor.peek
  !isIndicator c
    || (!endsWord (s.cursor.peekAt 1) && (c = '-' || (s.flow == 0 && (c = '?' || c = ':'))))

/-- Reads the lexeme at the cursor. -/
def fetchLexeme (s : Scanner) : Except Fault Scanner :=
  let c := s.cursor.peek
  let spaced := endsWord (s.cursor.peekAt 1)
  if c = eos then s.fetchEnd
  else if c = '%' && s.mark.column = 0 then s.fetchDirective
  else if s.mark.column = 0 && c = '-' && s.cursor.atMarker then s.fetchMarker .documentStart
  else if s.mark.column = 0 && c = '.' && s.cursor.atMarker then s.fetchMarker .documentEnd
  else if c = '[' then s.fetchFlowStart .flowSequenceStart
  else if c = '\x7b' then s.fetchFlowStart .flowMappingStart
  else if c = ']' then s.fetchFlowEnd .flowSequenceEnd
  else if c = '\x7d' then s.fetchFlowEnd .flowMappingEnd
  else if c = ',' then s.fetchFlowEntry
  else if c = '-' && spaced then s.fetchBlockEntry
  else if c = '?' && (0 < s.flow || spaced) then s.fetchKey
  else if c = ':' && (0 < s.flow || spaced) then s.fetchValue
  else if c = '*' then s.fetchAnchor .alias .alias
  else if c = '&' then s.fetchAnchor .anchor .anchor
  else if c = '!' then s.fetchTag
  else if c = '|' && s.flow == 0 then s.fetchBlockScalar false
  else if c = '>' && s.flow == 0 then s.fetchBlockScalar true
  else if c = '\x27' then s.fetchQuoted false
  else if c = '"' then s.fetchQuoted true
  else if s.startsPlain then s.fetchPlain
  else .error (scanFault .nextToken s.mark (.cannotStart c) s.cursor)

/-- Moves to the next lexeme, closes blocks, and reads it. -/
def fetchNext (s : Scanner) : Except Fault Scanner := do
  let s ← s.skipToLexeme.dropLapsed
  (s.unwindTo s.mark.column).fetchLexeme

/-- Whether a fault is found only at the end of the stream. -/
def isAtEnd (s : Scanner) : Fault → Bool
  | .error e => s.mark.index + s.cursor.rest.length ≤ e.mark.index
  | _ => false

/-- One step: reads the next lexeme. A step that comes to the end of the stream fails with what is
wrong behind it. -/
def fetch (s : Scanner) : Except Fault Scanner :=
  match s.behind, s.fetchNext with
  | none, r => r
  | some f, .ok t => if t.cursor.rest.isEmpty then .error f else .ok t
  | some f, .error e => .error (if s.isAtEnd e then f else e)

/-- The state in which the first pending token can be handed over. -/
def ready : Nat → Scanner → Except Fault Scanner
  | 0, s => .ok s
  | fuel + 1, s =>
    if s.done then .ok s
    else if s.pending.isEmpty then do ready fuel (← s.fetch)
    else do
      let s ← s.dropLapsed
      if s.firstCandidate? = some s.taken then ready fuel (← s.fetch) else .ok s

/-- The tokens that are handed over before the first fault, and that fault. -/
def handOver (steps : Nat) : Nat → Scanner → List Token × Option Fault
  | 0, _ => ([], none)
  | fuel + 1, s =>
    match s.ready steps with
    | .error f => ([], some f)
    | .ok s =>
      match s.pending with
      | [] => ([], none)
      | t :: pending =>
        let (ts, fault) := handOver steps fuel { s with pending := pending, taken := s.taken + 1 }
        (t :: ts, fault)

end Scanner

/-- The tokens of a stream before its first fault, and that fault. -/
def tokens (s : Stream) : List Token × Option Fault :=
  Scanner.handOver (s.text.length + 2) (6 * s.text.length + 8) (Scanner.start s)

end GatewayPrint.Yaml
