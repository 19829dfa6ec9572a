import GatewayPrint.Number.Whole
import GatewayPrint.Text.Width

/-!
# Styled text

A console sends a line in pieces, one for each run of characters in one style, and measures each
piece on its own. Styles are not shown; what is kept of them is where one run ends and the next one
begins. All text without a style belongs to one run.
-/

namespace GatewayPrint

/-- A character, and the number of the run it belongs to; run 0 has no style. -/
structure Glyph where
  char : Char
  run : Nat
deriving DecidableEq, Repr, Inhabited

/-- A text of characters in runs. -/
abbrev Styled := List Glyph

abbrev Pieces := List (List Char)

def spaces (n : Nat) : List Char := List.replicate n ' '

namespace Styled

def ofText (s : List Char) : Styled := s.map fun c ↦ ⟨c, 0⟩

def text (g : Styled) : List Char := g.map Glyph.char

/-- The run at a place of a text with styled parts: places with the same bounds before them belong
together. -/
def runAt (parts : List (Nat × Nat)) (i : Nat) : Nat :=
  if parts.any fun p ↦ p.1 ≤ i && i < p.2 then
    1 + sumOf (parts.map fun p ↦ (if p.1 ≤ i then 1 else 0) + (if p.2 ≤ i then 1 else 0))
  else 0

/-- A text with styled parts, each from the place where it begins to the place where it ends. -/
def mark (parts : List (Nat × Nat)) (s : List Char) : Styled :=
  s.zipIdx.map fun c ↦ ⟨c.1, runAt parts c.2⟩

/-- Another text in the runs of a styled one, place by place; what exceeds it has no style. -/
def setText : Styled → List Char → Styled
  | _, [] => []
  | [], s => ofText s
  | g :: rest, c :: s => ⟨c, g.run⟩ :: setText rest s

/-- The number of cells of a styled text when it is measured as one. -/
def width (g : Styled) : Nat := Text.width g.text

/-- Puts a glyph in front of pieces, into the first one if that is of the same run. -/
def consPiece (g : Glyph) : List (Nat × List Char) → List (Nat × List Char)
  | [] => [(g.run, [g.char])]
  | (run, piece) :: rest =>
    if run = g.run then (run, g.char :: piece) :: rest
    else (g.run, [g.char]) :: (run, piece) :: rest

def pieces (g : Styled) : Pieces := (g.foldr consPiece []).map Prod.snd

@[simp] theorem text_ofText (s : List Char) : (ofText s).text = s := by
  simp [ofText, text, Function.comp_def]

@[simp] theorem text_mark (parts : List (Nat × Nat)) (s : List Char) : (mark parts s).text = s := by
  have h : ((mark parts s).text) = s.zipIdx.map Prod.fst := by simp [mark, text, Function.comp_def]
  rw [h, List.zipIdx_map_fst]

@[simp] theorem text_setText (g : Styled) (s : List Char) : (setText g s).text = s := by
  induction s generalizing g with
  | nil => cases g <;> rfl
  | cons c s ih =>
    cases g with
    | nil => exact text_ofText (c :: s)
    | cons a rest => simpa [setText, text] using ih rest

theorem flatten_consPiece (g : Glyph) (ps : List (Nat × List Char)) :
    ((consPiece g ps).map Prod.snd).flatten = g.char :: (ps.map Prod.snd).flatten := by
  cases ps with
  | nil => rfl
  | cons p rest =>
    obtain ⟨run, piece⟩ := p
    by_cases h : run = g.run <;> simp [consPiece, h]

@[simp] theorem flatten_pieces (g : Styled) : g.pieces.flatten = g.text := by
  induction g with
  | nil => rfl
  | cons a rest ih =>
    have h := flatten_consPiece a (rest.foldr consPiece [])
    simpa [pieces, text] using h.trans (congrArg (a.char :: ·) ih)

end Styled

namespace Pieces

/-- The number of cells of a line, measured piece by piece. -/
def width (line : Pieces) : Nat := sumOf (line.map Text.width)

/-- The pieces of a line up to `limit` cells, of which `size` are taken; the piece that reaches the
limit is made to end there. -/
def cut (limit size : Nat) : Pieces → Pieces
  | [] => []
  | piece :: rest =>
    if size + Text.width piece < limit then piece :: cut limit (size + Text.width piece) rest
    else [Text.fit (limit - size) piece]

/-- A line of at most `limit` cells. -/
def crop (limit : Nat) (line : Pieces) : Pieces :=
  if limit < line.width then cut limit 0 line else line

/-- A line of `limit` cells, filled up with a piece of spaces. -/
def fit (limit : Nat) (line : Pieces) : Pieces :=
  if line.width < limit then line ++ [spaces (limit - line.width)] else line.crop limit

theorem crop_of_le {limit : Nat} {line : Pieces} (h : line.width ≤ limit) :
    line.crop limit = line := by
  simp [crop, Nat.not_lt.2 h]

end Pieces

end GatewayPrint
