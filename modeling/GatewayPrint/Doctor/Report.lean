import GatewayPrint.Console.Message
import GatewayPrint.Console.Table
import GatewayPrint.Doctor.Checks

/-!
# The doctor's report

The checks as a table in a frame with a heavy head, and a line that sums them up.
-/

namespace GatewayPrint.Doctor

def title : String := Program.name ++ " doctor"

def columns : List Table.Column :=
  [{ minWidth := 12, padLeft := 1, padRight := 1 },
    { minWidth := 20, padLeft := 1, padRight := 1 },
    { minWidth := 8, justify := .center, padLeft := 1, padRight := 1 }]

def head : List Styled := ["Component", "Value", "Status"].map fun s ↦ Styled.ofText s.toList

/-- What markup shows in a cell. -/
def cell (markup : List Char) : Styled := (Markup.plain markup) |> Styled.mark (Markup.parts markup)

/-- The markup of a row. What was found is shown as it is, whatever brackets it holds. -/
def rowMarkup (c : Check) : List (List Char) :=
  [c.label.toList, Markup.escape c.found.toList, c.status.markup.toList]

def row (c : Check) : List Styled := (rowMarkup c).map cell

def table (cs : List Check) : Table := ⟨columns, head :: cs.map row⟩

/-- A line of the frame: its ends, what runs along the columns, and what stands between them. -/
def frameLine (first along between last : Char) (widths : List Nat) : Pieces :=
  [first :: ([between].intercalate (widths.map fun w ↦ List.replicate w along)) ++ [last]]

/-- The lines of a row, with a bar on both sides of each cell. -/
def framed (bar : Char) (widths : List Nat) (texts : List Styled) : List Pieces :=
  (Table.rowLines columns widths texts).map fun cells ↦
    [bar] :: [[bar]].intercalate cells ++ [[bar]]

/-- The cells that the frame takes beside the columns. -/
def frameWidth : Nat := columns.length + 1

/-- The lines of the table on a console of some width. -/
def tableLines (width : Nat) (cs : List Check) : List Pieces :=
  let widths := (table cs).widths (width - frameWidth)
  let whole := sumOf widths + frameWidth
  (Wrap.lines whole .fold .center (Styled.ofText title.toList)).map Styled.pieces
    ++ [frameLine '┏' '━' '┳' '┓' widths]
    ++ framed '┃' widths head
    ++ [frameLine '┡' '━' '╇' '┩' widths]
    ++ (cs.map row).flatMap (framed '│' widths)
    ++ [frameLine '└' '─' '┴' '┘' widths]

/-- The line that sums the checks up. -/
def summary (cs : List Check) : String :=
  if anyFailure cs then Markup.inStyle "bold red" "Some checks failed."
  else Markup.inStyle "bold green" "All checks passed."

/-- The report on a console of some width. -/
def report (width : Nat) (cs : List Check) : List Char :=
  ['\n'] ++ (tableLines width cs).flatMap (Console.lineText width)
    ++ ['\n'] ++ Console.display width (summary cs).toList

/-- How a run ends: badly if some check fails. -/
def verdict (cs : List Check) : ExitStatus := if anyFailure cs then .general else .success

end GatewayPrint.Doctor
