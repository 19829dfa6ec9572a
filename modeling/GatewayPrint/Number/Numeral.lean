import GatewayPrint.Number.DecimalText
import GatewayPrint.Text.Hex

/-!
# Numerals of whole numbers

Whole numbers in a base up to sixteen. Blanks may stand around a numeral and a sign before it; the
mark of its base may come first, and a single underscore may stand between two digits. The decimal
digits of all scripts count as digits.
-/

namespace GatewayPrint.Numeral

/-- Why a text is no numeral. -/
inductive Fault where
  /-- It has not the form of one. -/
  | malformed
  /-- It has too many decimal digits. -/
  | tooLong (digits : Nat)
deriving DecidableEq, Repr

def digitValue? (base : Nat) (c : Char) : Option Nat :=
  match Text.hexValue? c with
  | some n => if n < base then some n else none
  | none => none

def baseLetter (base : Nat) : Char := if base = 2 then 'b' else if base = 8 then 'o' else 'x'

/-- A text without an underscore at its start. -/
def withoutBar : List Char → List Char
  | '_' :: rest => rest
  | s => s

/-- Digits without the mark of their base, which an underscore may follow. -/
def withoutMark (base : Nat) : List Char → List Char
  | '0' :: c :: rest =>
    if base ≠ 10 && c.toLower = baseLetter base then withoutBar rest else '0' :: c :: rest
  | s => s

/-- A digit of a base, or an underscore. -/
def isDigitOrBar (base : Nat) (c : Char) : Bool := c = '_' || (digitValue? base c).isSome

/-- Whether each underscore stands between two digits; `bar` says that what precedes is no digit. -/
def barsInside (bar : Bool) : List Char → Bool
  | [] => !bar
  | '_' :: rest => !bar && barsInside true rest
  | _ :: rest => barsInside false rest

/-- The number that digits stand for in a base. -/
def valueOf (base : Nat) (digits : List Char) : Nat :=
  digits.foldl (fun n d ↦ n * base + (digitValue? base d).getD 0) 0

/-- The number that a numeral names in a base. Too long a run of decimal digits is refused whatever
follows it. -/
def read (base : Nat) (s : List Char) : Except Fault Int :=
  let (negative, body) := splitSign (Text.asciiDigits (Text.stripOf Text.isNumeralBlank s))
  let body := withoutMark base body
  let run := body.takeWhile (isDigitOrBar base)
  let digits := run.filter (· ≠ '_')
  if !barsInside true run then .error .malformed
  else if base = 10 && maxDigits < digits.length then .error (.tooLong digits.length)
  else if run.length < body.length then .error .malformed
  else
    let n : Int := valueOf base digits
    .ok (if negative then -n else n)

end GatewayPrint.Numeral
