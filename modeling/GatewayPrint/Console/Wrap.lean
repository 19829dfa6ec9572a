import GatewayPrint.Console.Styled
import GatewayPrint.Text.Blank

/-!
# Wrapped text

Text is laid out in lines of a number of cells. A line ends where the next word would not fit; the
white space after a word belongs to it, and what of it exceeds the line is dropped. A word that fits
on no line is folded or cut, as the place asks for.

Dividing a line loses nothing of it (`flatten_divide`).
-/

namespace GatewayPrint.Wrap

/-- What happens to a word that fits on no line. -/
inductive Overflow where
  /-- It goes on in the next line. -/
  | fold
  /-- It is cut, with an ellipsis at its end. -/
  | ellipsis
deriving DecidableEq, Repr, Inhabited

/-- Where the text of a line stands. -/
inductive Justify where
  /-- At the start, without anything after it. -/
  | natural
  /-- At the start, with spaces after it. -/
  | left
  | center
deriving DecidableEq, Repr, Inhabited

/-- The distance between tab stops. -/
def tabSize : Nat := 8

/-- The parts of a line that end in a tab, each brought to the next tab stop; `place` is the place
where the first part starts. What fills a styled tab has its style, and no run goes on behind it:
part `number` of `count` has runs of its own. -/
def expandParts (count number place : Nat) : List Styled → Styled
  | [] => []
  | part :: rest =>
    let own (g : Glyph) : Glyph :=
      { g with run := g.run * count + (if g.run = 0 then 0 else number) }
    let last : Glyph := part.getLast?.getD ⟨' ', 0⟩
    let blank : Glyph := { last with char := ' ' }
    if last.char = '\t' then
      let filled := part.dropLast ++ [blank]
      let after := place + Styled.width filled
      let fill := (tabSize - after % tabSize) % tabSize
      (filled ++ List.replicate fill blank).map own
        ++ expandParts count (number + 1) (after + fill) rest
    else part.map own ++ expandParts count (number + 1) (place + Styled.width part) rest

/-- A line as parts, each but the last one up to a tab. -/
def tabParts : Styled → List Styled
  | [] => []
  | g :: rest =>
    if g.char = '\t' then [g] :: tabParts rest
    else
      match tabParts rest with
      | [] => [[g]]
      | part :: others => (g :: part) :: others

/-- A line with spaces in place of tabs. -/
def expandTabs (line : Styled) : Styled :=
  let parts := tabParts line
  if line.text.contains '\t' then expandParts parts.length 0 0 parts else line

/-- A word at the start of a text: white space, what is not white space, and white space after it;
then the rest. White space alone is no word. -/
def word? (s : List Char) : Option (List Char × List Char) :=
  let rest := s.dropWhile Text.isBlank
  if rest.isEmpty then none
  else
    let after := rest.dropWhile fun c ↦ !Text.isBlank c
    let word := s.takeWhile Text.isBlank ++ rest.takeWhile (fun c ↦ !Text.isBlank c)
      ++ after.takeWhile Text.isBlank
    some (word, after.dropWhile Text.isBlank)

theorem length_word? {s word rest : List Char} (h : word? s = some (word, rest)) :
    rest.length < s.length := by
  unfold word? at h
  simp only at h
  split at h
  · simp at h
  · next hne =>
    simp only [Option.some.injEq, Prod.mk.injEq] at h
    obtain ⟨_, rfl⟩ := h
    cases hd : s.dropWhile Text.isBlank with
    | nil => simp [hd] at hne
    | cons c t =>
      have hc : Text.isBlank c = false := by
        have := List.head?_dropWhile_not Text.isBlank s
        simpa [hd] using this
      have h1 : (c :: t).length ≤ s.length := hd ▸ (List.dropWhile_sublist _).length_le
      have h2 : ((c :: t).dropWhile fun c ↦ !Text.isBlank c).length ≤ t.length := by
        simp only [List.dropWhile_cons, hc, Bool.not_false, if_true]
        exact (List.dropWhile_sublist _).length_le
      have h3 := (List.dropWhile_sublist Text.isBlank
        (l := (c :: t).dropWhile fun c ↦ !Text.isBlank c)).length_le
      simp only [List.length_cons] at h1
      omega

def words (s : List Char) : List (List Char) :=
  match _h : word? s with
  | some (word, rest) => word :: words rest
  | none => []
termination_by s.length
decreasing_by exact length_word? _h

/-- A text without white space at its end. -/
def trimEnd (s : List Char) : List Char := (s.reverse.dropWhile Text.isBlank).reverse

/-- The state of dividing a line: the places of the breaks, the last one first, the place where the
word that comes next starts, and the number of cells of the line being filled. -/
structure Division where
  breaks : List Nat
  start : Nat
  size : Nat
deriving Repr

namespace Division

/-- A break at a place; there is none at the start of the line. -/
def breakAt (place : Nat) (breaks : List Nat) : List Nat :=
  if place = 0 then breaks else place :: breaks

/-- Breaks before each piece of a word: the breaks, and the cells of the last piece. -/
def fold (start size : Nat) (breaks : List Nat) : List (List Char) → List Nat × Nat
  | [] => (breaks, size)
  | piece :: rest =>
    fold (start + piece.length) (Text.width piece) (breakAt start breaks) rest

/-- Takes in one word. -/
def add (limit : Nat) (folds : Bool) (d : Division) (word : List Char) : Division :=
  let needed := Text.width (trimEnd word)
  let after := d.start + word.length
  if d.size + needed ≤ limit then ⟨d.breaks, after, d.size + Text.width word⟩
  else if limit < needed then
    if folds then
      let (breaks, size) := fold d.start d.size d.breaks (Text.chop limit word)
      ⟨breaks, after, size⟩
    else ⟨breakAt d.start d.breaks, after, Text.width word⟩
  else if d.size ≠ 0 && d.start ≠ 0 then ⟨d.start :: d.breaks, after, Text.width word⟩
  else { d with start := after }

end Division

/-- The places where a line is broken so that its words fit. -/
def breaks (limit : Nat) (folds : Bool) (line : List Char) : List Nat :=
  ((words line).foldl (Division.add limit folds) ⟨[], 0, 0⟩).breaks.reverse

/-- A list cut at places that are counted from `start` on. -/
def cutAt {α : Type} (start : Nat) : List Nat → List α → List (List α)
  | [], xs => [xs]
  | place :: rest, xs => xs.take (place - start) :: cutAt place rest (xs.drop (place - start))

/-- A line cut before words that do not fit. -/
def divide (limit : Nat) (folds : Bool) (line : Styled) : List Styled :=
  cutAt 0 (breaks limit folds line.text) line

/-- A line without the white space at its end that is beyond a number of characters. -/
def dropExcess (limit : Nat) (line : Styled) : Styled :=
  let blanks := line.length - (trimEnd line.text).length
  line.take (line.length - min blanks (line.length - limit))

/-- A line cut to a number of cells. -/
def truncate (limit : Nat) (overflow : Overflow) (line : Styled) : Styled :=
  if line.width ≤ limit then line
  else
    line.setText (match overflow with
      | .fold => Text.fit limit line.text
      | .ellipsis => Text.fit (limit - 1) line.text ++ ['…'])

def blank (n : Nat) : Styled := .ofText (spaces n)

/-- A line in its place. -/
def place (limit : Nat) (overflow : Overflow) (justify : Justify) (line : Styled) : Styled :=
  match justify with
  | .natural => line
  | .left => truncate limit overflow line ++ blank (limit - line.width)
  | .center =>
    let line := truncate limit overflow (line.take (trimEnd line.text).length)
    let free := limit - line.width
    blank (free / 2) ++ line ++ blank (free - free / 2)

/-- The lines of a text in a number of cells. -/
def lines (limit : Nat) (overflow : Overflow) (justify : Justify) (s : Styled) : List Styled :=
  (s.splitOnP fun g ↦ g.char = '\n').flatMap fun line ↦
    (divide limit (overflow == .fold) (expandTabs line)).map fun line ↦
      truncate limit overflow (place limit overflow justify (dropExcess limit line))

theorem flatten_cutAt {α : Type} (start : Nat) (places : List Nat) (xs : List α) :
    (cutAt start places xs).flatten = xs := by
  induction places generalizing start xs with
  | nil => simp [cutAt]
  | cons place rest ih => simp [cutAt, ih]

theorem flatten_divide (limit : Nat) (folds : Bool) (line : Styled) :
    (divide limit folds line).flatten = line := flatten_cutAt ..

end GatewayPrint.Wrap
