import GatewayPrint.Number.Calendar
import GatewayPrint.Text.Quoted
import GatewayPrint.Text.Utf8
import GatewayPrint.Yaml.Mark

/-!
# Faults of YAML documents

Everything that can be wrong with a document, by the stage that finds it: bytes that are no text,
characters that YAML does not allow, tokens, structure, anchors, and values that their type does not
allow. A fault of structure tells what was being read and where, what is wrong and where.
-/

namespace GatewayPrint.Yaml

/-- The stage of reading that found an error. -/
inductive Stage where
  | scanner
  | parser
  | composer
  | constructor
deriving DecidableEq, Repr

/-- What was being read. -/
inductive Context where
  | nextToken
  | simpleKey
  | directive
  | anchor
  | «alias»
  | tag
  | tagParts
  | directiveParts
  | blockScalar
  | doubleQuoted
  | quoted
  | node
  | blockNode
  | flowNode
  | blockCollection
  | blockMapping
  | flowSequence
  | flowMapping
  | duplicateAnchor (name : String)
  | singleDocument
  | mapping
  | orderedMap
  | pairs
deriving DecidableEq, Repr

/-- What is wrong. -/
inductive Problem where
  | cannotStart (c : Char)
  | missingColon
  | sequenceNotAllowed
  | keyNotAllowed
  | valueNotAllowed
  | notName (c : Char)
  | notDigit (c : Char)
  | notDigitOrPoint (c : Char)
  | notDigitOrSpace (c : Char)
  | notSpace (c : Char)
  | notCommentOrBreak (c : Char)
  | notExclamation (c : Char)
  | notUri (c : Char)
  | notAngle (c : Char)
  | notUriEscape (c : Char)
  | uriBytes (fault : Text.Utf8Fault)
  | zeroIndent
  | notIndicator (c : Char)
  | notHex (count : Nat) (c : Char)
  | unknownEscape (c : Char)
  | endOfStream
  | documentSeparator
  | duplicateVersion
  | incompatibleVersion
  | duplicateHandle (handle : String)
  | undefinedHandle (handle : String)
  | notDocumentStart (token : String)
  | notContent (token : String)
  | notBlockEnd (token : String)
  | notSequenceEnd (token : String)
  | notMappingEnd (token : String)
  | undefinedAlias (name : String)
  | secondOccurrence
  | anotherDocument
  | notScalarNode (kind : String)
  | notSequenceNode (kind : String)
  | notMappingNode (kind : String)
  | unhashable
  | notMergeable (kind : String)
  | notMergeableItem (kind : String)
  | notSequence (kind : String)
  | notSingleMapping (kind : String)
  | notSingleItem (count : Nat)
  | unknownTag (tag : String)
  | notAscii (text : List Char)
  | badBase64 (reason : String)
deriving DecidableEq, Repr

/-- An error with the place it was found at, and what was being read. -/
structure Error where
  stage : Stage
  context : Option (Context × Mark)
  problem : Problem
  mark : Mark
deriving DecidableEq, Repr

/-- A scalar that its type does not allow. -/
inductive ScalarFault where
  /-- A truth value that is none of the known words. -/
  | boolean (word : String)
  | calendar (fault : CalendarFault)
  | integer (base : Nat) (text : String)
  | integerLength (digits : Nat)
  | float (text : String)
  /-- A number without any character. -/
  | noDigits
  | notTimestamp
  /-- A timestamp written as a mapping. -/
  | timestampNode
  /-- An escape beyond the last code point. -/
  | codePoint
  /-- An escape beyond 31 bits. -/
  | codeOverflow
deriving DecidableEq, Repr

/-- Any fault of a document. -/
inductive Fault where
  | encoding (fault : Text.Utf8Fault)
  | character (code position : Nat)
  | error (e : Error)
  | scalar (fault : ScalarFault)
  /-- Containers within one another, more than the reader can follow. -/
  | tooDeep
deriving DecidableEq, Repr

/-! ## Wording -/

open Text (quote)

def quoteChar (c : Char) : String := quote (String.ofList [c])

def Context.message : Context → String
  | .nextToken => "while scanning for the next token"
  | .simpleKey => "while scanning a simple key"
  | .directive => "while scanning a directive"
  | .anchor => "while scanning an anchor"
  | .alias => "while scanning an alias"
  | .tag => "while scanning a tag"
  | .tagParts => "while parsing a tag"
  | .directiveParts => "while parsing a directive"
  | .blockScalar => "while scanning a block scalar"
  | .doubleQuoted => "while scanning a double-quoted scalar"
  | .quoted => "while scanning a quoted scalar"
  | .node => "while parsing a node"
  | .blockNode => "while parsing a block node"
  | .flowNode => "while parsing a flow node"
  | .blockCollection => "while parsing a block collection"
  | .blockMapping => "while parsing a block mapping"
  | .flowSequence => "while parsing a flow sequence"
  | .flowMapping => "while parsing a flow mapping"
  | .duplicateAnchor name => "found duplicate anchor " ++ quote name ++ "; first occurrence"
  | .singleDocument => "expected a single document in the stream"
  | .mapping => "while constructing a mapping"
  | .orderedMap => "while constructing an ordered map"
  | .pairs => "while constructing pairs"

def utf8Message (f : Text.Utf8Fault) : String :=
  let place := match f.bytes with
    | [b] => "byte 0x" ++ String.ofList (Text.hex 2 b.toNat) ++ " in position " ++ toString f.offset
    | bs => "bytes in position " ++ toString f.offset ++ "-" ++ toString (f.offset + bs.length - 1)
  "'utf-8' codec can't decode " ++ place ++ ": " ++ f.reason.message

/-- The wording for characters outside ASCII: the first run of them, by position. -/
def asciiMessage (s : List Char) : String :=
  let before := s.takeWhile fun c ↦ c.toNat < 0x80
  let bad := (s.dropWhile fun c ↦ c.toNat < 0x80).takeWhile fun c ↦ 0x80 ≤ c.toNat
  let place := match bad with
    | [c] =>
      "character '" ++ String.ofList (Text.codeEscape (Text.codePoint c)) ++ "' in position "
        ++ toString before.length
    | bs => "characters in position " ++ toString before.length ++ "-"
      ++ toString (before.length + bs.length - 1)
  "'ascii' codec can't encode " ++ place ++ ": ordinal not in range(128)"

def Problem.message : Problem → String
  | .cannotStart c => "found character " ++ quoteChar c ++ " that cannot start any token"
  | .missingColon => "could not find expected ':'"
  | .sequenceNotAllowed => "sequence entries are not allowed here"
  | .keyNotAllowed => "mapping keys are not allowed here"
  | .valueNotAllowed => "mapping values are not allowed here"
  | .notName c => "expected alphabetic or numeric character, but found " ++ quoteChar c
  | .notDigit c => "expected a digit, but found " ++ quoteChar c
  | .notDigitOrPoint c => "expected a digit or '.', but found " ++ quoteChar c
  | .notDigitOrSpace c => "expected a digit or ' ', but found " ++ quoteChar c
  | .notSpace c => "expected ' ', but found " ++ quoteChar c
  | .notCommentOrBreak c => "expected a comment or a line break, but found " ++ quoteChar c
  | .notExclamation c => "expected '!', but found " ++ quoteChar c
  | .notUri c => "expected URI, but found " ++ quoteChar c
  | .notAngle c => "expected '>', but found " ++ quoteChar c
  | .notUriEscape c =>
    "expected URI escape sequence of 2 hexadecimal numbers, but found " ++ quoteChar c
  | .uriBytes f => utf8Message f
  | .zeroIndent => "expected indentation indicator in the range 1-9, but found 0"
  | .notIndicator c => "expected chomping or indentation indicators, but found " ++ quoteChar c
  | .notHex n c =>
    "expected escape sequence of " ++ toString n ++ " hexadecimal numbers, but found "
      ++ quoteChar c
  | .unknownEscape c => "found unknown escape character " ++ quoteChar c
  | .endOfStream => "found unexpected end of stream"
  | .documentSeparator => "found unexpected document separator"
  | .duplicateVersion => "found duplicate YAML directive"
  | .incompatibleVersion => "found incompatible YAML document (version 1.* is required)"
  | .duplicateHandle h => "duplicate tag handle " ++ quote h
  | .undefinedHandle h => "found undefined tag handle " ++ quote h
  | .notDocumentStart t => "expected '<document start>', but found " ++ quote t
  | .notContent t => "expected the node content, but found " ++ quote t
  | .notBlockEnd t => "expected <block end>, but found " ++ quote t
  | .notSequenceEnd t => "expected ',' or ']', but got " ++ quote t
  | .notMappingEnd t => "expected ',' or '\x7d', but got " ++ quote t
  | .undefinedAlias name => "found undefined alias " ++ quote name
  | .secondOccurrence => "second occurrence"
  | .anotherDocument => "but found another document"
  | .notScalarNode k => "expected a scalar node, but found " ++ k
  | .notSequenceNode k => "expected a sequence node, but found " ++ k
  | .notMappingNode k => "expected a mapping node, but found " ++ k
  | .unhashable => "found unhashable key"
  | .notMergeable k => "expected a mapping or list of mappings for merging, but found " ++ k
  | .notMergeableItem k => "expected a mapping for merging, but found " ++ k
  | .notSequence k => "expected a sequence, but found " ++ k
  | .notSingleMapping k => "expected a mapping of length 1, but found " ++ k
  | .notSingleItem n => "expected a single mapping item, but found " ++ toString n ++ " items"
  | .unknownTag t => "could not determine a constructor for the tag " ++ quote t
  | .notAscii s => "failed to convert base64 data into ascii: " ++ asciiMessage s
  | .badBase64 reason => "failed to decode base64 data: " ++ reason

/-- A position in the stream `name`, counted from one. -/
def Mark.message (name : String) (m : Mark) : String :=
  "  in \"" ++ name ++ "\", line " ++ toString (m.line + 1) ++ ", column "
    ++ toString (m.column + 1)

/-- The lines of an error: what was being read and where, then what is wrong and where. The first
position is left out when it repeats the second. -/
def Error.message (name : String) (e : Error) : String :=
  let context := match e.context with
    | none => []
    | some (c, m) =>
      if m.line = e.mark.line && m.column = e.mark.column then [c.message]
      else [c.message, m.message name]
  "\n".intercalate (context ++ [e.problem.message, e.mark.message name])

/-- How much of a text that is no numeral is quoted. -/
def quotedLength : Nat := 200

def ScalarFault.message : ScalarFault → String
  | .boolean word => quote word
  | .calendar f => f.message
  | .integer base s =>
    "invalid literal for int() with base " ++ toString base ++ ": "
      ++ String.ofList ((quote s).toList.take quotedLength)
  | .integerLength n =>
    "Exceeds the limit (4300 digits) for integer string conversion: value has " ++ toString n
      ++ " digits; use sys.set_int_max_str_digits() to increase the limit"
  | .float s => "could not convert string to float: " ++ quote s
  | .noDigits => "string index out of range"
  | .notTimestamp => "'NoneType' object has no attribute 'groupdict'"
  | .timestampNode => "expected string or bytes-like object, got 'list'"
  | .codePoint => "chr() arg not in range(0x110000)"
  | .codeOverflow => "Python int too large to convert to C int"

/-- The wording of a fault of the document called `name`. -/
def Fault.message (name : String) : Fault → String
  | .encoding f => utf8Message f
  | .character code position =>
    "unacceptable character #x" ++ String.ofList (Text.hex (if code < 0x10000 then 4 else
        if code < 0x100000 then 5 else 6) code)
      ++ ": special characters are not allowed\n  in \"" ++ name ++ "\", position "
      ++ toString position
  | .error e => e.message name
  | .scalar f => f.message
  | .tooDeep => "maximum recursion depth exceeded"

def Stage.errorName : Stage → String
  | .scanner => "ScannerError"
  | .parser => "ParserError"
  | .composer => "ComposerError"
  | .constructor => "ConstructorError"

def Fault.errorName : Fault → String
  | .encoding _ => "UnicodeDecodeError"
  | .character .. => "ReaderError"
  | .error e => e.stage.errorName
  | .scalar (.boolean _) => "KeyError"
  | .scalar .noDigits => "IndexError"
  | .scalar .notTimestamp => "AttributeError"
  | .scalar .timestampNode => "TypeError"
  | .scalar .codeOverflow => "OverflowError"
  | .scalar _ => "ValueError"
  | .tooDeep => "RecursionError"

end GatewayPrint.Yaml
