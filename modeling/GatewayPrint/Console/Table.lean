import GatewayPrint.Console.Wrap

/-!
# Tables

Columns of wrapped text side by side. A column takes what its longest line needs; when that is too
much for the place, the widest columns shrink to the width of the next ones, again and again, and at
last all of them evenly. One column may take all the place that is left.
-/

namespace GatewayPrint

/-- A column: how its cells are laid out, and the spaces beside them. -/
structure Table.Column where
  minWidth : Nat := 0
  /-- Whether the column takes the place that is left. -/
  takesRest : Bool := false
  justify : Wrap.Justify := .left
  overflow : Wrap.Overflow := .ellipsis
  padLeft : Nat := 0
  padRight : Nat := 0
deriving DecidableEq, Repr, Inhabited

/-- A table: its columns and its rows of texts. -/
structure Table where
  columns : List Table.Column
  rows : List (List Styled)
deriving Repr, Inhabited

namespace Table

/-- The spaces beside the cells of a column. -/
def Column.padding (c : Column) : Nat := c.padLeft + c.padRight

/-- A line boundary inside a cell. -/
def isLineEnd (c : Char) : Bool :=
  [10, 11, 12, 13, 0x1c, 0x1d, 0x1e, 0x85, 0x2028, 0x2029].contains c.toNat

/-- The width of the longest line of a text; `line` is the line being measured, in reverse. -/
def longestFrom (line : List Char) : List Char → Nat
  | [] => Text.width line.reverse
  | c :: rest =>
    if isLineEnd c then max (Text.width line.reverse) (longestFrom [] rest)
    else longestFrom (c :: line) rest

/-- The width of the longest line of a text. -/
def longest (s : Styled) : Nat := longestFrom [] s.text

/-- The width that a cell asks for in a place. -/
def Column.cellWidth (c : Column) (limit : Nat) (s : Styled) : Nat :=
  if limit < c.padding + 1 then limit
  else
    let inner := min (longest s) limit
    min (inner + c.padding) limit

/-- The width that a column asks for in a place. -/
def Column.wanted (c : Column) (limit : Nat) (cells : List Styled) : Nat :=
  if limit = 0 then 0
  else
    let most := if cells.isEmpty then limit
      else cells.foldl (fun w s ↦ max w (c.cellWidth limit s)) 0
    max (min most limit) (if c.minWidth = 0 then 0 else c.minWidth + c.padding)

/-- A quotient rounded to the nearest whole number, a tie to the even one. -/
def roundQuotient (num den : Nat) : Nat :=
  let q := num / den
  let twice := 2 * (num % den)
  if twice < den then q
  else if den < twice then q + 1
  else if q % 2 = 0 then q else q + 1

/-- Takes `total` away from widths in shares: `shares` are the weights and `most` bounds what is
taken from each. -/
def takeShares (total weight : Nat) : List (Nat × Nat × Nat) → List Nat
  | [] => []
  | (share, most, width) :: rest =>
    if share ≠ 0 && weight ≠ 0 then
      let taken := min most (roundQuotient (share * total) weight)
      (width - taken) :: takeShares (total - taken) (weight - share) rest
    else width :: takeShares total weight rest

/-- Takes `total` away from widths; of each at most `most`, and nothing where that is none. -/
def reduce (total : Nat) (slots : List (Nat × Nat × Nat)) : List Nat :=
  let slots := slots.map fun s ↦ (if s.2.1 = 0 then 0 else s.1, s.2.1, s.2.2)
  takeShares total (sumOf (slots.map Prod.fst)) slots

/-- Shrinks the widest columns to the width of the next ones, until all fit or there is nothing to
tell them apart. Each round makes the widest columns equal to the next narrower ones, so that `fuel`
need not exceed the sum of the widths. -/
def collapse (limit : Nat) : Nat → List Nat → List Nat
  | 0, ws => ws
  | fuel + 1, ws =>
    let total := sumOf ws
    if total ≤ limit || total = 0 then ws
    else
      let excess := total - limit
      let widest := ws.foldl max 0
      let next := (ws.filter (· ≠ widest)).foldl max 0
      if widest = next then ws
      else
        let most := min excess (widest - next)
        collapse limit fuel
          (reduce excess (ws.map fun w ↦ (if w = widest then 1 else 0, most, w)))

/-- The texts of each column. -/
def cellsOf (t : Table) (i : Nat) : List Styled := t.rows.map fun row ↦ (row[i]?).getD []

/-- The columns with their texts. -/
def columnCells (t : Table) : List (Column × List Styled) :=
  t.columns.zipIdx.map fun c ↦ (c.1, t.cellsOf c.2)

/-- The widths that fit columns into a place when those they ask for do not. -/
def squeezed (limit : Nat) (columns : List (Column × List Styled)) (asked : List Nat) : List Nat :=
  let shrunk := collapse limit (sumOf asked) asked
  let shrunk :=
    if limit < sumOf shrunk then reduce (sumOf shrunk - limit) (shrunk.map fun w ↦ (1, w, w))
    else shrunk
  (columns.zip shrunk).map fun c ↦ c.1.1.wanted c.2 c.1.2

/-- The width of the columns that do not take the place that is left. -/
def settled (limit : Nat) (columns : List (Column × List Styled)) : Nat :=
  sumOf ((columns.filter fun c ↦ !c.1.takesRest).map fun c ↦ c.1.wanted limit c.2)

/-- The widths that the columns ask for in a place; a column that takes the place that is left asks
for at least one cell. -/
def asked (limit : Nat) (columns : List (Column × List Styled)) : List Nat :=
  columns.map fun c ↦
    if c.1.takesRest then max (limit - settled limit columns) (1 + c.1.padding)
    else max 1 (c.1.wanted limit c.2)

/-- The widths of the columns in a place of a number of cells. -/
def widths (t : Table) (limit : Nat) : List Nat :=
  let columns := t.columnCells
  let widths := asked limit columns
  if limit < sumOf widths then squeezed limit columns widths else widths

/-- The lines of a cell in a column of some width: the text is fitted between the spaces beside it,
and the whole into the column. -/
def Column.cellLines (c : Column) (width : Nat) (s : Styled) : List Pieces :=
  let inner := width - c.padding
  if inner = 0 then []
  else (Wrap.lines inner c.overflow c.justify s).map fun line ↦
    let padded : Pieces := spaces c.padLeft :: line.pieces.fit inner ++ [spaces c.padRight]
    (padded.fit width).fit width

/-- The lines of a row: for each line the cells. A cell with fewer lines than others is blank below
them. -/
def rowLines (columns : List Column) (widths : List Nat) (row : List Styled) :
    List (List Pieces) :=
  let cells := ((columns.zip widths).zip row).map fun c ↦ (c.1.2, c.1.1.cellLines c.1.2 c.2)
  let height := cells.foldl (fun h c ↦ max h c.2.length) 1
  (List.range height).map fun i ↦
    cells.map fun c ↦ (c.2[i]?).getD [spaces c.1]

end Table

end GatewayPrint
