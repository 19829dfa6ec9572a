/-!
# Double-precision numbers

A finite double is a signed multiple `m · 2^q` with `m < 2^53`, kept in the one form in which either
`m` has 53 bits or `q` is the least exponent. Every operation works on exact fractions of natural
numbers and rounds once, to nearest with ties to even, so that it can be computed in proofs.
-/

namespace GatewayPrint

/-- A double-precision number: NaN, an infinity, or `± m · 2^q`. -/
inductive Double where
  | nan
  | infinite (negative : Bool)
  | finite (negative : Bool) (m : Nat) (q : Int)
deriving DecidableEq, Repr, Inhabited

namespace Double

def minExponent : Int := -1074

def maxExponent : Int := 971

/-- `num / (den · 2^q)` as a fraction of natural numbers. -/
def scale (num den : Nat) (q : Int) : Nat × Nat :=
  if 0 ≤ q then (num, den * Nat.pow 2 q.toNat) else (num * Nat.pow 2 (-q).toNat, den)

/-- The natural number nearest to `num / den`, ties to even. -/
def roundDiv (num den : Nat) : Nat :=
  let d := num / den
  let r := num % den
  if 2 * r < den then d
  else if den < 2 * r then d + 1
  else d + d % 2

/-- The exponent at which `num / den` has a mantissa of 53 bits, or the least exponent. -/
def exponentFor (num den : Nat) : Int :=
  let guess : Int := (num.log2 : Int) - den.log2 - 52
  let s := scale num den guess
  -- the quotient has 52, 53 or 54 bits at the guess
  let q := if s.1 < s.2 * Nat.pow 2 52 then guess - 1
    else if s.2 * Nat.pow 2 53 ≤ s.1 then guess + 1 else guess
  max q minExponent

/-- The double nearest to `± num / den`, ties to even; too large a number gives an infinity. -/
def round (negative : Bool) (num den : Nat) : Double :=
  if num = 0 then finite negative 0 minExponent
  else
    let q := exponentFor num den
    let s := scale num den q
    let m := roundDiv s.1 s.2
    let (m, q) := if m = Nat.pow 2 53 then (Nat.pow 2 52, q + 1) else (m, q)
    if maxExponent < q then infinite negative else finite negative m q

/-- The number of decimal digits of a natural number; none for zero. -/
def digitCount (n : Nat) : Nat := if n = 0 then 0 else (Nat.toDigits 10 n).length

/-- The double nearest to `± d · 10^e`. -/
def ofDecimal (negative : Bool) (d : Nat) (e : Int) : Double :=
  let size : Int := digitCount d + e
  if d = 0 then finite negative 0 minExponent
  else if 400 < size then infinite negative
  else if size < -400 then finite negative 0 minExponent
  else if 0 ≤ e then round negative (d * Nat.pow 10 e.toNat) 1
  else round negative d (Nat.pow 10 (-e).toNat)

def ofInt (n : Int) : Double := round (decide (n < 0)) n.natAbs 1

/-- The magnitude of a finite double as a fraction. -/
def fraction (m : Nat) (q : Int) : Nat × Nat :=
  if 0 ≤ q then (m * Nat.pow 2 q.toNat, 1) else (m, Nat.pow 2 (-q).toNat)

def neg : Double → Double
  | nan => nan
  | infinite s => infinite (!s)
  | finite s m q => finite (!s) m q

def mul : Double → Double → Double
  | nan, _ => nan
  | _, nan => nan
  | infinite s, infinite t => infinite (s != t)
  | infinite s, finite t m _ => if m = 0 then nan else infinite (s != t)
  | finite s m _, infinite t => if m = 0 then nan else infinite (s != t)
  | finite s m q, finite t n r =>
    let a := fraction m q
    let b := fraction n r
    round (s != t) (a.1 * b.1) (a.2 * b.2)

def add : Double → Double → Double
  | nan, _ => nan
  | _, nan => nan
  | infinite s, infinite t => if s = t then infinite s else nan
  | infinite s, finite .. => infinite s
  | finite .., infinite t => infinite t
  | finite s m q, finite t n r =>
    let a := fraction m q
    let b := fraction n r
    let x : Int := (if s then -1 else 1) * (a.1 * b.2 : Nat)
    let y : Int := (if t then -1 else 1) * (b.1 * a.2 : Nat)
    if x + y = 0 then finite (s && t) 0 minExponent
    else round (decide (x + y < 0)) (x + y).natAbs (a.2 * b.2)

def isZero : Double → Bool
  | finite _ m _ => m == 0
  | _ => false

/-! ## Shortest decimals -/

/-- The exponent `k` with `10^(k-1) ≤ num / den < 10^k`. -/
def decimalPoint (num den : Nat) : Int :=
  if den ≤ num then (Nat.toDigits 10 (num / den)).length
  else
    let g := (Nat.toDigits 10 (den / num)).length
    if den ≤ Nat.pow 10 (g - 1) * num then 2 - g else 1 - g

/-- `num / den · 10^k` as a fraction. -/
def scaleTen (num den : Nat) (k : Int) : Nat × Nat :=
  if 0 ≤ k then (num * Nat.pow 10 k.toNat, den) else (num, den * Nat.pow 10 (-k).toNat)

/-- On the decimal grid `10^(-k)`, the neighbour of `num / den` that reads back as `± num / den`:
of two, the nearer, and of two equally near the even one. -/
def neighbour? (num den : Nat) (k : Int) : Option Nat :=
  let s := scaleTen num den k
  let lo := s.1 / s.2
  let r := s.1 % s.2
  let back (d : Nat) : Bool := decide (ofDecimal false d (-k) = round false num den)
  let near := if 2 * r < s.2 || (2 * r == s.2 && lo % 2 == 0) then lo else lo + 1
  let far := if near = lo then lo + 1 else lo
  if back near then some near else if back far then some far else none

/-- Tries grids of `n`, `n + 1`, … digits; `point` is the position of the decimal point. -/
def shortestFrom (num den : Nat) (point : Int) : Nat → Nat → Nat × Int
  | 0, n => let s := scaleTen num den (n - point); (s.1 / s.2, point - n)
  | fuel + 1, n =>
    match neighbour? num den (n - point) with
    | some d => (d, point - n)
    | none => shortestFrom num den point fuel (n + 1)

/-- Removes trailing zeros of a decimal mantissa. -/
def trimZeros : Nat → Nat → Int → Nat × Int
  | 0, d, e => (d, e)
  | fuel + 1, d, e => if d ≠ 0 && d % 10 = 0 then trimZeros fuel (d / 10) (e + 1) else (d, e)

/-- The shortest `d · 10^e` that reads back as `m · 2^q`, without trailing zeros in `d`. -/
def shortest (m : Nat) (q : Int) : Nat × Int :=
  if m = 0 then (0, 0)
  else
    let a := fraction m q
    let r := shortestFrom a.1 a.2 (decimalPoint a.1 a.2) 17 1
    trimZeros 20 r.1 r.2

end Double

end GatewayPrint
