import GatewayPrint.Number.Whole
import GatewayPrint.Value.Basic

/-!
# The order of sets

A set of numbers keeps them at places that follow from the numbers alone: a number goes to the place
that its code gives or, where that is taken, to a free one that is looked for in a fixed way. The
set is gone through from the first place to the last. Elements of other kinds have no such code; a
set with one of them keeps the order in which its elements came.
-/

namespace GatewayPrint

namespace SetOrder

/-! ## Codes -/

/-- The prime `2^61 - 1`; codes are residues of it with a sign. -/
def modulus : Nat := 0x1fffffffffffffff

/-- A power modulo the prime. -/
def powMod (b e : Nat) : Nat :=
  if e = 0 then 1
  else
    let half := powMod (b * b % modulus) (e / 2)
    if e % 2 = 0 then half else b * half % modulus
termination_by e
decreasing_by omega

def infiniteCode : Int := 314159

/-- The code of a number; none is -1. -/
def code? (v : Value) : Option Int :=
  match v.decimal? with
  | some (.finite negative digits exponent) =>
    let scale := powMod 10 (exponent % ((modulus : Int) - 1)).toNat
    let residue : Int := (digitsValue digits * scale % modulus : Nat)
    let signed := if negative then -residue else residue
    some (if signed = -1 then -2 else signed)
  | some (.infinite negative) => some (if negative then -infiniteCode else infiniteCode)
  | _ => none

/-- An element and its code as a word of 64 bits. -/
abbrev Coded := Nat × Value

def wordCount : Int := 0x10000000000000000

/-- An element with its code, if it has one. -/
def coded? (v : Value) : Option Coded := (code? v).map fun n ↦ ((n % wordCount).toNat, v)

/-! ## Places -/

/-- The places of a set, free or taken. -/
abbrev Places := List (Option Coded)

def leastSize : Nat := 8

/-- How many places behind one another are tried, where so many are left. -/
def runSize : Nat := 10

/-- The least number of places above `n`; it is a power of two. -/
def sizeAbove (n : Nat) : Nat := max leastSize (n + 1).nextPowerOfTwo

/-- So many free places. -/
def free (size : Nat) : Places := List.replicate size none

/-- A free place, looked for from place `i` on; `left` is what is left of the code to choose further
places by, and `fuel` bounds their number. -/
def freePlace (ps : Places) : Nat → Nat → Nat → Nat
  | 0, i, _ => i
  | fuel + 1, i, left =>
    let run := if i + runSize ≤ ps.length then runSize else 1
    match (List.range run).find? fun k ↦ (ps[i + k]?.getD none).isNone with
    | some k => i + k
    | none => freePlace ps fuel ((i * 5 + 1 + left / 32) % ps.length) (left / 32)

def place (ps : Places) (x : Coded) : Places :=
  ps.set (freePlace ps (ps.length + 64) (x.1 % ps.length) x.1) (some x)

/-- The elements from the first place to the last. -/
def contents (ps : Places) : List Coded := ps.filterMap id

/-- Elements moved to another number of places. -/
def resize (size : Nat) (ps : Places) : Places := (contents ps).foldl place (free size)

/-- Adds an element. When three of five places are taken, there will be more than four places for
each element. -/
def add (ps : Places) (x : Coded) : Places :=
  let ps := place ps x
  let used := (contents ps).length
  if (ps.length - 1) * 3 ≤ used * 5 then resize (sizeAbove (used * 4)) ps else ps

/-- Elements in the order of their places, of which there are `size` at first. -/
def arrange (size : Nat) (items : List Value) : List Value :=
  match items.mapM coded? with
  | some xs => (contents (xs.foldl add (free size))).map Prod.snd
  | none => items

end SetOrder

namespace Value

/-- Adds an element to others of which none equals it. -/
def addElement (x : Value) (items : List Value) : List Value :=
  if items.any fun y ↦ same y x then items else items ++ [x]

/-- The set of the given elements; of equal ones the first one remains. -/
def setOf (items : List Value) : Value :=
  set (SetOrder.arrange SetOrder.leastSize (items.foldl (fun done x ↦ addElement x done) []))

/-- The set of the keys of a mapping, for which there are enough places at first. -/
def setOfKeys (keys : List Value) : Value :=
  let enough := keys.length * 5 < (SetOrder.leastSize - 1) * 3
  set (SetOrder.arrange
    (if enough then SetOrder.leastSize else SetOrder.sizeAbove (keys.length * 2)) keys)

end Value

end GatewayPrint
