import GatewayPrint.Console.Message
import GatewayPrint.Console.Table
import GatewayPrint.Log

/-!
# Log records on the console

A record is shown as a row: the time, the level, and the logger with the message. The time is left
blank when it is that of the row before. Whether times are shown is settled for good when logging is
set up for the first time; later set-ups only change the level from which records are shown.
-/

namespace GatewayPrint

/-- The state of logging: the level from which records are shown, whether times are shown, and
whether the time has been shown already. -/
structure LogView where
  level : Log.Level
  showsTime : Bool
  timeShown : Bool
deriving DecidableEq, Repr, Inhabited

namespace LogView

/-- The level from which records are shown. -/
def levelFor (verbose : Bool) : Log.Level := if verbose then .debug else .warning

/-- Sets up logging, for the first time or again. -/
def configure (verbose : Bool) : Option LogView → LogView
  | none => ⟨levelFor verbose, verbose, false⟩
  | some v => { v with level := levelFor verbose }

/-- How many views of the log there are; setting up again adds none. -/
def handlers (_ : LogView) : Nat := 1

/-- The time of every record; the clock of the program stands still. -/
def timeText : List Char := "[01/01/70 00:00:00]".toList

def levelWidth : Nat := 8

def columns (showsTime : Bool) : List Table.Column :=
  (if showsTime then [{ padRight := 1 }] else [])
    ++ [{ padRight := 1 }, { takesRest := true, overflow := .fold }]

/-- The message of a record behind its logger, with the parts that stand out. -/
def message (r : Log.Record) : Styled :=
  let s := Markup.visible (r.logger ++ ": " ++ r.message).toList
  s |> Styled.mark (Highlight.logParts s)

def row (v : LogView) (r : Log.Record) : List Styled :=
  (if v.showsTime then
      [Styled.ofText (if v.timeShown then spaces timeText.length else timeText)]
    else [])
    ++ [Styled.ofText (r.level.name.toList ++ spaces (levelWidth - r.level.name.length)), message r]

/-- The text of a record on a console of some width, and the state afterwards. A record below the
level is not shown. -/
def write (width : Nat) (v : LogView) (r : Log.Record) : LogView × List Char :=
  if r.level.rank < v.level.rank then (v, [])
  else
    let t : Table := ⟨columns v.showsTime, [v.row r]⟩
    let lines := Table.rowLines t.columns (t.widths width) (v.row r)
    ({ v with timeShown := true },
      lines.flatMap fun cells ↦ Console.lineText width cells.flatten)

/-- The text of records in turn, and the state afterwards. -/
def writeAll (width : Nat) (v : LogView) : List Log.Record → LogView × List Char
  | [] => (v, [])
  | r :: rest =>
    let (v, s) := v.write width r
    let (v, more) := v.writeAll width rest
    (v, s ++ more)

end LogView

end GatewayPrint
