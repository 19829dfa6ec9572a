import GatewayPrint.Text.Quoted
import GatewayPrint.Yaml.Style

/-!
# Writing YAML text

A pen writes block-style YAML on lines of a preferred width of 80 characters. It knows the column it
is at, whether a blank precedes it, and whether the line holds only indentation and indicators so
far, because these decide where a space or a new line is needed.
-/

namespace GatewayPrint.Yaml

/-- The text written so far and the place of the pen. -/
structure Pen where
  out : List Char
  column : Nat
  /-- Whether a blank or the beginning of a line precedes. -/
  spaced : Bool
  /-- Whether the line holds only indentation and indicators. -/
  fresh : Bool
deriving Repr

/-- The width beyond which lines are folded. -/
def lineWidth : Nat := 80

namespace Pen

/-- The pen before anything is written. -/
def start : Pen := ⟨[], 0, true, true⟩

/-- Writes text within a line. -/
def put (p : Pen) (s : List Char) : Pen :=
  { p with out := p.out ++ s, column := p.column + s.length }

def newLine (p : Pen) (br : Char) : Pen := ⟨p.out ++ [br], 0, true, true⟩

/-- Moves to a column, on a new line unless only indentation precedes. -/
def toColumn (p : Pen) (n : Nat) : Pen :=
  let p := if !p.fresh || n < p.column || (p.column = n && !p.spaced) then p.newLine '\n' else p
  if p.column < n then { p.put (List.replicate (n - p.column) ' ') with spaced := true } else p

/-- Writes an indicator. `apart` asks for a blank before it; `blank` says that it counts as a blank
itself, and `structural` that a line holding only such indicators is still fresh. -/
def indicator (p : Pen) (s : List Char) (apart blank structural : Bool) : Pen :=
  let p' := p.put (if p.spaced || !apart then s else ' ' :: s)
  { p' with spaced := blank, fresh := p.fresh && structural }

/-! ## Runs of characters -/

/-- What a run of characters consists of. -/
inductive RunKind where
  | word
  | spaces
  | breaks
deriving DecidableEq, Repr

/-- The kind of run a character belongs to. -/
def runKind (c : Char) : RunKind :=
  if c = ' ' then .spaces else if Style.isBreak c then .breaks else .word

/-- A text as maximal runs of words, spaces and line breaks. -/
def runs : List Char → List (RunKind × List Char)
  | [] => []
  | c :: rest =>
    match runs rest with
    | (k, cs) :: others =>
      if k = runKind c then (k, c :: cs) :: others else (runKind c, [c]) :: (k, cs) :: others
    | [] => [(runKind c, [c])]

/-! ## Plain scalars -/

/-- Writes the runs of a plain scalar; a single space beyond the line width becomes a new line. -/
def plainRuns (indent : Nat) (fold : Bool) : List (RunKind × List Char) → Pen → Pen
  | [], p => p
  | (.spaces, [c]) :: rest, p =>
    if fold && lineWidth < p.column then
      plainRuns indent fold rest { p.toColumn indent with spaced := false, fresh := false }
    else plainRuns indent fold rest (p.put [c])
  | (_, cs) :: rest, p => plainRuns indent fold rest (p.put cs)

/-- Writes a plain scalar of one line or several folded ones. -/
def plain (p : Pen) (indent : Nat) (fold : Bool) (s : List Char) : Pen :=
  if s.isEmpty then p
  else
    let p := if p.spaced then p else p.put [' ']
    plainRuns indent fold (runs s) { p with spaced := false, fresh := false }

/-! ## Single quotes -/

/-- A word between single quotes: each quote is written twice. -/
def doubleQuotes (cs : List Char) : List Char :=
  cs.flatMap fun c ↦ if c = '\x27' then ['\x27', '\x27'] else [c]

/-- Writes line breaks between single quotes: one more for a run that begins with a line feed. -/
def singleBreaks (p : Pen) (indent : Nat) (cs : List Char) : Pen :=
  let p := if cs.head? = some '\n' then p.newLine '\n' else p
  (cs.foldl newLine p).toColumn indent

/-- Writes the runs between single quotes; a single space beyond the line width, neither the first
nor the last character, becomes a new line. -/
def singleRuns (indent : Nat) (fold : Bool) :
    Bool → List (RunKind × List Char) → Pen → Pen
  | _, [], p => p
  | first, (.spaces, [c]) :: rest, p =>
    if fold && lineWidth < p.column && !first && !rest.isEmpty then
      singleRuns indent fold false rest (p.toColumn indent)
    else singleRuns indent fold false rest (p.put [c])
  | _, (.spaces, cs) :: rest, p => singleRuns indent fold false rest (p.put cs)
  | _, (.breaks, cs) :: rest, p => singleRuns indent fold false rest (p.singleBreaks indent cs)
  | _, (.word, cs) :: rest, p => singleRuns indent fold false rest (p.put (doubleQuotes cs))

/-- Writes a scalar between single quotes. -/
def single (p : Pen) (indent : Nat) (fold : Bool) (s : List Char) : Pen :=
  let p := p.indicator ['\x27'] true false false
  (singleRuns indent fold true (runs s) p).indicator ['\x27'] false false false

/-! ## Double quotes -/

/-- A character that needs no escape between double quotes. -/
def isUnescaped (c : Char) : Bool :=
  let n := Text.codePoint c
  !(c = '"' || c = '\\' || c = '\u0085' || c = '\u2028' || c = '\u2029' || c = '\ufeff')
    && ((0x20 ≤ n && n ≤ 0x7e) || (0xa0 ≤ n && n ≤ 0xd7ff) || (0xe000 ≤ n && n ≤ 0xfffd))

def letterEscape? (c : Char) : Option Char :=
  if c = eos then some '0'
  else if c = '\x07' then some 'a'
  else if c = '\x08' then some 'b'
  else if c = '\t' then some 't'
  else if c = '\n' then some 'n'
  else if c = '\x0b' then some 'v'
  else if c = '\x0c' then some 'f'
  else if c = '\r' then some 'r'
  else if c = '\x1b' then some 'e'
  else if c = '"' then some '"'
  else if c = '\\' then some '\\'
  else if c = '\u0085' then some 'N'
  else if c = '\u00a0' then some '_'
  else if c = '\u2028' then some 'L'
  else if c = '\u2029' then some 'P'
  else none

def escapeOf (c : Char) : List Char :=
  match letterEscape? c with
  | some e => ['\\', e]
  | none =>
    let n := Text.codePoint c
    let digits (count : Nat) := (Text.hex count n).map Char.toUpper
    if n ≤ 0xff then '\\' :: 'x' :: digits 2
    else if n ≤ 0xffff then '\\' :: 'u' :: digits 4
    else '\\' :: 'U' :: digits 8

/-- Begins a new line between double quotes, where `rest` goes on; a space there is escaped, so that
it is not taken for indentation. -/
def doubleFold (p : Pen) (indent : Nat) (rest : List Char) : Pen :=
  let p := { (p.put ['\\']).toColumn indent with spaced := false, fresh := false }
  if rest.head? = some ' ' then p.put ['\\'] else p

/-- Writes characters between double quotes. `first` marks the first character, and `held` are
unescaped characters that are not written yet, since a line may be folded before the next space. -/
def doubleRuns (indent : Nat) (fold : Bool) : Bool → List Char → List Char → Pen → Pen
  | _, held, [], p => p.put held
  | first, held, c :: rest, p =>
    let inside := !first && !rest.isEmpty && fold
    if isUnescaped c then
      if inside && (c = ' ' || held.isEmpty) && lineWidth < p.column + held.length then
        doubleRuns indent fold false [c] rest ((p.put held).doubleFold indent (c :: rest))
      else doubleRuns indent fold false (held ++ [c]) rest p
    else
      let p := (p.put held).put (escapeOf c)
      if inside && lineWidth + 1 < p.column then
        doubleRuns indent fold false [] rest (p.doubleFold indent rest)
      else doubleRuns indent fold false [] rest p

/-- Writes a scalar between double quotes. -/
def double (p : Pen) (indent : Nat) (fold : Bool) (s : List Char) : Pen :=
  let p := p.indicator ['"'] true false false
  (doubleRuns indent fold true [] s p).indicator ['"'] false false false

/-! ## Literal blocks -/

/-- Writes the runs of a literal block, each line at `indent`. -/
def literalRuns (indent : Nat) : List (RunKind × List Char) → Pen → Pen
  | [], p => p
  | (.breaks, cs) :: rest, p =>
    let p := cs.foldl newLine p
    literalRuns indent rest (if rest.isEmpty then p else p.toColumn indent)
  | (_, cs) :: rest, p =>
    let p := { p with out := p.out ++ cs }
    literalRuns indent rest (if rest.isEmpty then p.newLine '\n' else p)

/-- The hints of a literal block: the indentation when the text begins with a blank, and what
becomes of the line breaks at its end. -/
def literalHints (s : List Char) : List Char :=
  let lead := if (s.head?.map Style.isSpaceOrBreak).getD false then ['2'] else []
  let tail := match s.reverse with
    | [] => []
    | [c] => if Style.isBreak c then ['+'] else ['-']
    | c :: d :: _ => if !Style.isBreak c then ['-'] else if Style.isBreak d then ['+'] else []
  lead ++ tail

def literal (p : Pen) (indent : Nat) (s : List Char) : Pen :=
  let p := (p.indicator ('|' :: literalHints s) true false false).newLine '\n'
  let p := if s.isEmpty then p else
    match s.head?.map Style.isBreak with
    | some true => p
    | _ => p.toColumn indent
  literalRuns indent (runs s) p

end Pen

end GatewayPrint.Yaml
