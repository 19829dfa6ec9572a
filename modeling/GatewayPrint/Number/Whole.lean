/-!
# Whole numbers

Whole numbers as decimal digits with a sign, and back, and their sums.

The digits of a number stand for it (`digitsValue_toDigits`).
-/

namespace GatewayPrint

/-- The number that a run of decimal digits stands for. -/
def digitsValue (ds : List Char) : Nat := Nat.ofDigitChars 10 ds 0

def intText (n : Int) : String :=
  let ds := Nat.toDigits 10 n.natAbs
  String.ofList (if n < 0 then '-' :: ds else ds)

/-- The most digits of a whole number that is converted to or from its text. -/
def maxDigits : Nat := 4300

/-- The text of a whole number that has not too many digits. -/
def intText? (n : Int) : Option String :=
  if maxDigits < (Nat.toDigits 10 n.natAbs).length then none else some (intText n)

/-- The complaint about a number of too many digits. -/
def tooManyDigits : String :=
  "Exceeds the limit (4300 digits) for integer string conversion; use "
    ++ "sys.set_int_max_str_digits() to increase the limit"

def sumOf : List Nat → Nat
  | [] => 0
  | n :: rest => n + sumOf rest

@[simp] theorem sumOf_nil : sumOf [] = 0 := rfl

@[simp] theorem sumOf_cons (n : Nat) (rest : List Nat) : sumOf (n :: rest) = n + sumOf rest := rfl

@[simp] theorem digitsValue_nil : digitsValue [] = 0 := rfl

theorem digitsValue_toDigits (n : Nat) : digitsValue (Nat.toDigits 10 n) = n :=
  Nat.ofDigitChars_toDigits (by decide) (by decide)

end GatewayPrint
