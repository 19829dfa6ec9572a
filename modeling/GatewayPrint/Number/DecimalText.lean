import GatewayPrint.Number.Double
import GatewayPrint.Number.Whole
import GatewayPrint.Text.Blank
import GatewayPrint.Text.Digit

/-!
# Decimal text of numbers

A double is written with the fewest digits that read back as the same number: positionally while the
decimal exponent lies from -4 to 15, with an exponent of at least two digits otherwise, and always
with a mark that it is no integer (a point or an exponent). Exact decimals keep their own digits and
exponent.
-/

namespace GatewayPrint

/-- Digits with a point after the first `point` of them, and zeros where digits are missing. -/
def positional (digits : List Char) (point : Int) : List Char :=
  if point ≤ 0 then '0' :: '.' :: (List.replicate (-point).toNat '0' ++ digits)
  else if digits.length ≤ point.toNat then
    digits ++ List.replicate (point.toNat - digits.length) '0' ++ ['.', '0']
  else digits.take point.toNat ++ '.' :: digits.drop point.toNat

/-- An exponent with its sign and at least two digits. -/
def exponentText (e : Int) : List Char :=
  let digits := Nat.toDigits 10 e.natAbs
  (if e < 0 then '-' else '+') :: (if digits.length < 2 then '0' :: digits else digits)

/-- Digits with one before the point, and the exponent `e`. -/
def scientific (digits : List Char) (e : Int) : List Char :=
  let mantissa := if digits.length ≤ 1 then digits else digits.take 1 ++ '.' :: digits.drop 1
  mantissa ++ 'e' :: exponentText e

namespace Double

/-- The text of a double: the shortest decimal that reads back, positional from `10^(-4)` up to
`10^16`. -/
def text : Double → String
  | nan => "nan"
  | infinite s => if s then "-inf" else "inf"
  | finite s m q =>
    let d := shortest m q
    let digits := Nat.toDigits 10 d.1
    let point := d.2 + digits.length
    let body := if -4 < point && point ≤ 16 then positional digits point
      else scientific digits (point - 1)
    String.ofList (if s then '-' :: body else body)

end Double

/-! ## Reading numerals -/

/-- A decimal numeral without a sign, `digits [. digits] [e [sign] digits]`, as `d · 10^e`. -/
def readUnsigned? (s : List Char) : Option (Nat × Int) :=
  let whole := s.takeWhile Char.isDigit
  let rest := s.dropWhile Char.isDigit
  let (places, rest) := match rest with
    | '.' :: rest => (rest.takeWhile Char.isDigit, rest.dropWhile Char.isDigit)
    | rest => ([], rest)
  if whole.isEmpty && places.isEmpty then none
  else
    let d := digitsValue (whole ++ places)
    let e : Int := -places.length
    match rest with
    | [] => some (d, e)
    | c :: rest =>
      if c = 'e' || c = 'E' then
        let (negative, rest) := match rest with
          | '-' :: rest => (true, rest)
          | '+' :: rest => (false, rest)
          | rest => (false, rest)
        if rest.isEmpty || !rest.all Char.isDigit then none
        else some (d, e + (if negative then -1 else 1) * (digitsValue rest : Int))
      else none

def splitSign : List Char → Bool × List Char
  | '-' :: rest => (true, rest)
  | '+' :: rest => (false, rest)
  | rest => (false, rest)

/-- The double that a numeral names: a decimal, `inf`, `infinity` or `nan`, in any case and with an
optional sign. -/
def Double.ofText? (s : List Char) : Option Double :=
  let (negative, body) := splitSign s
  let word := body.map Char.toLower
  if word = "inf".toList || word = "infinity".toList then some (.infinite negative)
  else if word = "nan".toList then some .nan
  else (readUnsigned? body).map fun r ↦ .ofDecimal negative r.1 r.2

/-! ## Exact decimals -/

/-- An exact decimal `± coefficient · 10^exponent`, an infinity, or a NaN. The digits of the
coefficient are kept without leading zeros. -/
inductive Decimal where
  | finite (negative : Bool) (digits : List Char) (exponent : Int)
  | infinite (negative : Bool)
  | nan (negative signaling : Bool) (payload : List Char)
deriving DecidableEq, Repr, Inhabited

namespace Decimal

/-- Digits without leading zeros; the last digit stays. -/
def trimLeading : List Char → List Char
  | [] => ['0']
  | [d] => [d]
  | '0' :: rest => trimLeading rest
  | ds => ds

/-- Reads a decimal numeral; blanks around it and underscores count for nothing, and the digits may
be of any script. -/
def ofText? (s : List Char) : Option Decimal :=
  let (negative, body) := splitSign (Text.asciiDigits ((Text.strip s).filter (· ≠ '_')))
  let word := body.map Char.toLower
  if word = "inf".toList || word = "infinity".toList then some (.infinite negative)
  else if word.take 4 = "snan".toList && (word.drop 4).all Char.isDigit then
    some (.nan negative true ((word.drop 4).dropWhile (· = '0')))
  else if word.take 3 = "nan".toList && (word.drop 3).all Char.isDigit then
    some (.nan negative false ((word.drop 3).dropWhile (· = '0')))
  else
    let whole := body.takeWhile Char.isDigit
    let places := match body.dropWhile Char.isDigit with
      | '.' :: rest => rest.takeWhile Char.isDigit
      | _ => []
    (readUnsigned? body).map fun r ↦ .finite negative (trimLeading (whole ++ places)) r.2

/-- The text of an exact decimal: positional while the exponent is not positive and the number is at
least `10^(-6)`, with an exponent otherwise. -/
def text : Decimal → String
  | infinite s => if s then "-Infinity" else "Infinity"
  | nan s signaling payload =>
    String.ofList ((if s then ['-'] else []) ++ (if signaling then ['s'] else []) ++ "NaN".toList
      ++ payload)
  | finite s digits e =>
    let point : Int := e + digits.length
    let sign := if s then ['-'] else []
    let body :=
      if e ≤ 0 && -6 < point then
        if point ≤ 0 then '0' :: '.' :: (List.replicate (-point).toNat '0' ++ digits)
        else if e = 0 then digits
        else digits.take point.toNat ++ '.' :: digits.drop point.toNat
      else
        let mantissa := if digits.length ≤ 1 then digits else digits.take 1 ++ '.' :: digits.drop 1
        let k := point - 1
        mantissa ++ 'E' :: (if k < 0 then '-' else '+') :: Nat.toDigits 10 k.natAbs
    String.ofList (sign ++ body)

def isZero : Decimal → Bool
  | finite _ digits _ => digits.all (· == '0')
  | _ => false

/-- A whole number as an exact decimal. -/
def ofInt (n : Int) : Decimal := finite (decide (n < 0)) (Nat.toDigits 10 n.natAbs) 0

/-- Digits without trailing zeros. -/
def trimTrailing (ds : List Char) : List Char := (ds.reverse.dropWhile (· = '0')).reverse

/-- The order of two positive decimals: by the place of the first digit, then digit by digit. -/
def compareMagnitudes (ds : List Char) (e : Int) (fs : List Char) (g : Int) : Ordering :=
  (compare (e + ds.length) (g + fs.length)).then (compare (trimTrailing ds) (trimTrailing fs))

/-- The sign of a finite decimal from its own sign and its digits. -/
def signum (negative : Bool) (digits : List Char) : Int :=
  if digits.all (· == '0') then 0 else if negative then -1 else 1

/-- The order of two decimals as numbers; NaN has no place in it. -/
def compare? : Decimal → Decimal → Option Ordering
  | nan .., _ => none
  | _, nan .. => none
  | infinite s, infinite t => some (compare t s)
  | infinite s, finite .. => some (if s then .lt else .gt)
  | finite .., infinite t => some (if t then .gt else .lt)
  | finite s ds e, finite t fs g =>
    let sign := signum s ds
    some ((compare sign (signum t fs)).then
      (if sign = 0 then .eq
      else if sign < 0 then compareMagnitudes fs g ds e
      else compareMagnitudes ds e fs g))

end Decimal

/-- A double as the exact decimal of its value. -/
def Double.decimal : Double → Decimal
  | nan => .nan false false []
  | infinite s => .infinite s
  | finite s m q =>
    if 0 ≤ q then .finite s (Nat.toDigits 10 (m * Nat.pow 2 q.toNat)) 0
    else .finite s (Nat.toDigits 10 (m * Nat.pow 5 (-q).toNat)) q

end GatewayPrint
