import GatewayPrint.Failure
import GatewayPrint.Text.Emoji

/-!
# Console markup

Messages are written with tags in square brackets that turn styles on and off. A bracket that should
stand for itself has a backslash before it. The console has no colours, so that only the text
between the tags is shown; emoji codes in it are replaced, and control characters that would move
the cursor are dropped.

A closing tag must name a style that is on, or some style must be on for it to close; otherwise the
whole markup is refused. Which names mean the same style, and which actions can be read, is the
console's own business, and enters here as a `Markup.StyleReader`.
-/

namespace GatewayPrint.Markup

def isTagStart (c : Char) : Bool := ('a' ≤ c && c ≤ 'z') || c = '#' || c = '/' || c = '@'

/-- The rest of a tag up to the closing bracket, and the text after it. -/
def tagEnd? : List Char → Option (List Char × List Char)
  | [] => none
  | ']' :: rest => some ([], rest)
  | '[' :: _ => none
  | c :: rest => (tagEnd? rest).map fun r ↦ (c :: r.1, r.2)

/-- The tag that a text starts with, without its brackets, and the text after it. -/
def tag? : List Char → Option (List Char × List Char)
  | '[' :: c :: rest =>
    if isTagStart c then (tagEnd? rest).map fun r ↦ (c :: r.1, r.2) else none
  | _ => none

/-- A character, or a tag with a number of backslashes before it. -/
inductive Token where
  | char (c : Char)
  | tag (backslashes : Nat) (body : List Char)
deriving DecidableEq, Repr

theorem length_tagEnd? {s body rest : List Char} (h : tagEnd? s = some (body, rest)) :
    rest.length < s.length := by
  fun_induction tagEnd? s generalizing body with
  | case1 => simp at h
  | case2 rest' => simp at h; simp [h.2]
  | case3 => simp at h
  | case4 c rest' _ _ ih =>
    obtain ⟨⟨end', rest''⟩, hr, heq⟩ := Option.map_eq_some_iff.1 h
    obtain rfl : rest'' = rest := congrArg Prod.snd heq
    have := ih hr
    simp only [List.length_cons]
    omega

theorem length_tag? {s body rest : List Char} (h : tag? s = some (body, rest)) :
    rest.length < s.length := by
  unfold tag? at h
  split at h
  · split at h
    · obtain ⟨⟨end', rest'⟩, hr, heq⟩ := Option.map_eq_some_iff.1 h
      obtain rfl : rest' = rest := congrArg Prod.snd heq
      have := length_tagEnd? hr
      simp only [List.length_cons]
      omega
    · simp at h
  · simp at h

/-- The backslashes that a text starts with, and the text after them. -/
def splitBackslashes (s : List Char) : Nat × List Char :=
  ((s.takeWhile (· = '\\')).length, s.dropWhile (· = '\\'))

theorem length_splitBackslashes (s : List Char) : (splitBackslashes s).2.length ≤ s.length := by
  unfold splitBackslashes
  exact (List.dropWhile_sublist _).length_le

/-- Characters and tags in order. -/
def tokens : List Char → List Token
  | [] => []
  | c :: s =>
    match _h : tag? (splitBackslashes (c :: s)).2 with
    | some (body, rest) => .tag (splitBackslashes (c :: s)).1 body :: tokens rest
    | none => .char c :: tokens s
termination_by s => s.length
decreasing_by
  · have h1 := length_tag? _h
    have h2 := length_splitBackslashes (c :: s)
    omega
  · simp

/-! ## Escaping -/

def bracketed (body : List Char) : List Char := '[' :: body ++ [']']

/-- A token as markup that shows it: backslashes before a tag are doubled, and one more makes its
bracket stand for itself. -/
def escapeToken : Token → List Char
  | .char c => [c]
  | .tag n body => List.replicate (2 * n + 1) '\\' ++ bracketed body

/-- Doubles a single backslash at the end, which would otherwise act on what follows. -/
def closeBackslash (s : List Char) : List Char :=
  if ['\\'].isSuffixOf s && ['\\', '\\'].isSuffixOf s = false then s ++ ['\\'] else s

/-- A text as markup that shows it. -/
def escape (s : List Char) : List Char := closeBackslash ((tokens s).flatMap escapeToken)

def inStyle (style text : String) : String :=
  "[" ++ style ++ "]" ++ text ++ "[/" ++ style ++ "]"

/-! ## Showing -/

/-- A text, or a tag that acts on styles. -/
inductive Piece where
  | text (s : List Char)
  | tag (body : List Char)
deriving DecidableEq, Repr

/-- Puts a character in front of pieces, into the first one if that is a text of characters. -/
def openText (c : Char) : List (Bool × Piece) → List (Bool × Piece)
  | (true, .text s) :: rest => (true, .text (c :: s)) :: rest
  | rest => (true, .text [c]) :: rest

/-- The pieces that tokens stand for, where running text is marked as such. Of the backslashes
before a tag every two stand for one, and an odd one makes the tag a text. -/
def piecesOf : List Token → List (Bool × Piece)
  | [] => []
  | .char c :: rest => openText c (piecesOf rest)
  | .tag n body :: rest =>
    (if n / 2 = 0 then [] else [(false, .text (List.replicate (n / 2) '\\'))])
      ++ (false, if n % 2 = 1 then .text (bracketed body) else .tag body) :: piecesOf rest

/-- The texts and the tags that markup consists of. -/
def pieces (s : List Char) : List Piece := (piecesOf (tokens s)).map Prod.snd

/-- A text without the backslash before each opening bracket. -/
def unescape : List Char → List Char
  | '\\' :: '[' :: rest => '[' :: unescape rest
  | c :: rest => c :: unescape rest
  | [] => []

/-- A control character that the console drops: the bell, the backspace, and what moves to another
line or place of the line. -/
def isDropped (c : Char) : Bool := [7, 8, 11, 12, 13].contains c.toNat

/-- A text without the control characters that the console drops. -/
def visible (s : List Char) : List Char := s.filter fun c ↦ !isDropped c

/-- What a piece shows. -/
def Piece.shown : Piece → List Char
  | .text s => visible (Text.replaceEmoji (unescape s))
  | .tag _ => []

def plain (s : List Char) : List Char := (pieces s).flatMap Piece.shown

/-- The styled parts of what pieces show, from the place `offset` on; `opened` are the places where
the styles that are on were turned on, the last one first. -/
def partsOf (offset : Nat) (opened : List Nat) : List Piece → List (Nat × Nat)
  | [] => opened.map fun start ↦ (start, offset)
  | .tag ('/' :: _) :: rest =>
    match opened with
    | [] => partsOf offset [] rest
    | start :: others => (start, offset) :: partsOf offset others rest
  | .tag _ :: rest => partsOf offset (offset :: opened) rest
  | p :: rest => partsOf (offset + p.shown.length) opened rest

/-- The styled parts of the text that markup shows. -/
def parts (s : List Char) : List (Nat × Nat) := partsOf 0 [] (pieces s)

/-! ## Refusing -/

/-- How a console understands the names of styles and the actions of tags. -/
structure StyleReader where
  /-- The one name of a style that can be written in several ways. -/
  normal : List Char → List Char
  /-- What is said about the parameters of an action that cannot be read. -/
  refusal? : List Char → Option String

/-- A console without styles of its own: names are told apart by their letters in lower case. -/
def StyleReader.byName : StyleReader := ⟨fun name ↦ Text.lower (Text.strip name), fun _ ↦ none⟩

/-- Why markup is refused. -/
inductive Fault where
  /-- A closing tag for a style that is not on. -/
  | notOpen (body : List Char) (position : Nat)
  /-- A closing tag for whatever is on, where nothing is. -/
  | nothingOpen (position : Nat)
  /-- An action whose parameters cannot be read. -/
  | action (refusal : String)
deriving DecidableEq, Repr

def Fault.message : Fault → String
  | notOpen body position =>
    "closing tag '" ++ String.ofList (bracketed body) ++ "' at position " ++ toString position
      ++ " doesn't match any open tag"
  | nothingOpen position =>
    "closing tag '[/]' at position " ++ toString position ++ " has nothing to close"
  | action refusal => refusal

/-- The error, as its class and its text. -/
def Fault.error (f : Fault) : Foreign := ⟨"MarkupError", f.message⟩

/-- A style or an action that is on: its name, and its parameters if it has any. -/
structure Opened where
  name : List Char
  parameters : Option (List Char)
deriving DecidableEq, Repr

/-- The name of a tag, and its parameters behind an equals sign. -/
def named (body : List Char) : Opened :=
  ⟨body.takeWhile (· ≠ '='),
    match body.dropWhile (· ≠ '=') with
    | [] => none
    | _ :: parameters => some parameters⟩

/-- Why what is on cannot be turned off: it is an action with parameters that cannot be read. -/
def Opened.fault? (reader : StyleReader) (o : Opened) : Option Fault :=
  match o.name, o.parameters with
  | '@' :: _, some (c :: cs) => (reader.refusal? (c :: cs)).map Fault.action
  | _, _ => none

/-- What is on after a tag at some position, the last one first. A closing tag with a name turns off
the last one of that name, a closing tag without a name whatever is last. -/
def turn (reader : StyleReader) (position : Nat) (body : List Char) (on : List Opened) :
    Except Fault (List Opened) :=
  let tag := named body
  match tag.name with
  | '/' :: name =>
    let name := Text.strip name
    let target? :=
      if name.isEmpty then on.head? else on.find? fun o ↦ o.name = reader.normal name
    match target? with
    | none =>
      .error (if name.isEmpty then .nothingOpen position else .notOpen body position)
    | some o =>
      match o.fault? reader with
      | some f => .error f
      | none => .ok (on.erase o)
  | name => .ok (⟨reader.normal name, tag.parameters⟩ :: on)

def Token.length : Token → Nat
  | .char _ => 1
  | .tag n body => n + (bracketed body).length

/-- Why tokens at some position are refused, given what is on. A tag with an odd number of
backslashes before it is a text. -/
def faultFrom (reader : StyleReader) (position : Nat) (on : List Opened) :
    List Token → Option Fault
  | [] => none
  | .char c :: rest => faultFrom reader (position + (Token.char c).length) on rest
  | .tag n body :: rest =>
    let next := position + (Token.tag n body).length
    if n % 2 = 1 then faultFrom reader next on rest
    else
      match turn reader (position + n) body on with
      | .error f => some f
      | .ok on => faultFrom reader next on rest

/-- Why markup is refused, if it is. -/
def fault? (reader : StyleReader) (s : List Char) : Option Fault :=
  faultFrom reader 0 [] (tokens s)

def Piece.tag? : Piece → Option (List Char)
  | .text _ => none
  | .tag body => some body

/-- The tags that act on styles, without their brackets. -/
def tags (s : List Char) : List (List Char) := (pieces s).filterMap Piece.tag?

end GatewayPrint.Markup
