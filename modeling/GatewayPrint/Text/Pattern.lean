import GatewayPrint.Text.Letter

/-!
# Patterns of text

A pattern says what a piece of text looks like, and which parts of it are of interest. Alternatives
are tried in order, and a repetition takes as many rounds as it can, or as few as it needs, before
the rest of the pattern; the first way in which all of it fits is the match.
-/

namespace GatewayPrint.Text

/-- A pattern. -/
inductive Pattern where
  /-- The empty text. -/
  | empty
  /-- One character of a class. -/
  | one (p : Char → Bool)
  | seq (first second : Pattern)
  | alt (first second : Pattern)
  /-- At least `least` rounds, and `most` beyond them at most; as many as possible when `greedy`. -/
  | rounds (greedy : Bool) (least : Nat) (most : Option Nat) (body : Pattern)
  /-- A part of interest. -/
  | part (body : Pattern)
  /-- A place between a character of a word and something else. -/
  | edge
  /-- A place that is no edge. -/
  | inner
  /-- A place that no character of a class precedes. -/
  | notAfter (p : Char → Bool)

namespace Pattern

/-! ## Making patterns -/

def char (c : Char) : Pattern := one (· = c)

/-- One of some characters. -/
def among (cs : String) : Pattern := one fun c ↦ cs.toList.contains c

def sequence : List Pattern → Pattern
  | [] => empty
  | [p] => p
  | p :: rest => seq p (sequence rest)

/-- The first one of some patterns that fits. -/
def firstOf : List Pattern → Pattern
  | [] => one fun _ ↦ false
  | [p] => p
  | p :: rest => alt p (firstOf rest)

def word (s : String) : Pattern := sequence (s.toList.map char)

/-- A pattern a given number of times. -/
def times (n : Nat) (p : Pattern) : Pattern := rounds true n (some 0) p

/-- A pattern from `least` to `least + more` times. -/
def between (least more : Nat) (p : Pattern) : Pattern := rounds true least (some more) p

/-- A pattern any number of times. -/
def many (p : Pattern) : Pattern := rounds true 0 none p

def oneOrMore (p : Pattern) : Pattern := rounds true 1 none p

def optional (p : Pattern) : Pattern := rounds true 0 (some 1) p

/-- A pattern any number of times, as few as possible. -/
def few (p : Pattern) : Pattern := rounds false 0 none p

/-! ## Matching -/

/-- A place in a text: the character before it, the rest behind it, how many characters precede, and
the parts of interest that were found on the way. -/
structure Place where
  before : Option Char
  rest : List Char
  offset : Nat
  parts : List (Nat × Nat)
deriving Repr

namespace Place

def wordBefore (s : Place) : Bool := s.before.any isWordChar

def wordAfter (s : Place) : Bool := s.rest.head?.any isWordChar

/-- A place between a character of a word and something else. -/
def isEdge (s : Place) : Bool := s.wordBefore != s.wordAfter

/-- The place behind a character. -/
def step (s : Place) (c : Char) (rest : List Char) : Place :=
  { s with before := some c, rest := rest, offset := s.offset + 1 }

end Place

/-- What follows a match: it takes the place behind it, and may refuse it. -/
abbrev Next := Place → Option Place

/-- Rounds of a pattern: `least` that are needed and `most` more that are possible. Each round that
is not needed has to take something, so that `fuel` need not exceed `least` and the length of the
rest together. -/
def runRounds (body : Place → Next → Option Place) (greedy : Bool) :
    Nat → Nat → Option Nat → Place → Next → Option Place
  | 0, _, _, s, next => next s
  | fuel + 1, least + 1, most, s, next =>
    body s fun t ↦ runRounds body greedy fuel least most t next
  | _ + 1, 0, some 0, s, next => next s
  | fuel + 1, 0, most, s, next =>
    let again (_ : Unit) := body s fun t ↦
      if t.offset = s.offset then none
      else runRounds body greedy fuel 0 (most.map (· - 1)) t next
    if greedy then again () <|> next s else next s <|> again ()

/-- Whether a pattern fits at a place, and what follows fits behind it. -/
def run : Pattern → Place → Next → Option Place
  | empty, s, next => next s
  | one p, s, next =>
    match s.rest with
    | [] => none
    | c :: rest => if p c then next (s.step c rest) else none
  | seq p q, s, next => run p s fun t ↦ run q t next
  | alt p q, s, next => run p s next <|> run q s next
  | rounds greedy least most p, s, next =>
    runRounds (fun t k ↦ run p t k) greedy (least + s.rest.length) least most s next
  | part p, s, next =>
    run p s fun t ↦ next { t with parts := (s.offset, t.offset) :: t.parts }
  | edge, s, next => if s.isEdge then next s else none
  | inner, s, next => if s.isEdge then none else next s
  | notAfter p, s, next => if s.before.any p then none else next s

/-- The match of a pattern at a place: the place behind it. -/
def match? (p : Pattern) (s : Place) : Option Place := p.run s some

/-- The parts of interest of the matches in a text; the first `skip` characters belong to the match
before. -/
def findFrom (p : Pattern) (skip offset : Nat) (before : Option Char) :
    List Char → List (Nat × Nat)
  | [] => []
  | c :: rest =>
    match skip with
    | skip + 1 => findFrom p skip (offset + 1) (some c) rest
    | 0 =>
      match p.match? ⟨before, c :: rest, offset, []⟩ with
      | some t =>
        t.parts ++ findFrom p (t.offset - offset - 1) (offset + 1) (some c) rest
      | none => findFrom p 0 (offset + 1) (some c) rest

/-- The parts of interest of the matches in a text that hold any characters. -/
def find (p : Pattern) (s : List Char) : List (Nat × Nat) :=
  (findFrom p 0 0 none s).filter fun r ↦ r.1 < r.2

end Pattern

end GatewayPrint.Text
