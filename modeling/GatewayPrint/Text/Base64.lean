/-!
# Base64

Bytes as text in the standard alphabet: three bytes make four characters, and equals signs fill up
the last group. Reading ignores characters outside the alphabet and stops at complete padding.
-/

namespace GatewayPrint.Text

/-- The character for a group of six bits. -/
def base64Char (n : Nat) : Char :=
  if n < 26 then Char.ofNat (65 + n)
  else if n < 52 then Char.ofNat (71 + n)
  else if n < 62 then Char.ofNat (n - 4)
  else if n = 62 then '+'
  else '/'

/-- The six bits for a character. -/
def base64Value? (c : Char) : Option Nat :=
  let n := c.toNat
  if 65 ≤ n && n ≤ 90 then some (n - 65)
  else if 97 ≤ n && n ≤ 122 then some (n - 71)
  else if 48 ≤ n && n ≤ 57 then some (n + 4)
  else if c = '+' then some 62
  else if c = '/' then some 63
  else none

/-- The characters of a byte string. -/
def base64Chars : List UInt8 → List Char
  | [] => []
  | [a] =>
    let n := a.toNat * 16
    [base64Char (n / 64), base64Char (n % 64), '=', '=']
  | [a, b] =>
    let n := (a.toNat * 256 + b.toNat) * 4
    [base64Char (n / 4096), base64Char (n / 64 % 64), base64Char (n % 64), '=']
  | a :: b :: c :: rest =>
    let n := (a.toNat * 256 + b.toNat) * 256 + c.toNat
    base64Char (n / 262144) :: base64Char (n / 4096 % 64) :: base64Char (n / 64 % 64)
      :: base64Char (n % 64) :: base64Chars rest

/-- The bytes that fill one line of text. -/
def base64LineBytes : Nat := 57

/-- The lines of a byte string, each ended by a line feed; `fuel` bounds their number. -/
def base64Lines : Nat → List UInt8 → List Char
  | 0, _ => []
  | _, [] => []
  | fuel + 1, bs =>
    base64Chars (bs.take base64LineBytes) ++ '\n' :: base64Lines fuel (bs.drop base64LineBytes)

/-- The text of a byte string, in lines of up to 76 characters. -/
def encodeBase64 (bs : List UInt8) : List Char := base64Lines bs.length bs

/-- Reads six bits at a time: `place` counts the characters of the present group, `left` holds the
bits that do not fill a byte, `pads` counts equals signs in a row, and `done` holds the bytes read,
the last one first. -/
def decodeBase64From (place left pads : Nat) (done : List UInt8) :
    List Char → Except String (List UInt8)
  | [] =>
    if place = 0 then .ok done.reverse
    else if place = 1 then
      .error ("Invalid base64-encoded string: number of data characters ("
        ++ toString (done.length / 3 * 4 + 1) ++ ") cannot be 1 more than a multiple of 4")
    else .error "Incorrect padding"
  | c :: rest =>
    if c = '=' then
      if 2 ≤ place && 4 ≤ place + (pads + 1) then .ok done.reverse
      else decodeBase64From place left (if 2 ≤ place then pads + 1 else pads) done rest
    else
      match base64Value? c with
      | none => decodeBase64From place left pads done rest
      | some n =>
        if place = 0 then decodeBase64From 1 n 0 done rest
        else if place = 1 then
          decodeBase64From 2 (n % 16) 0 ((left * 4 + n / 16).toUInt8 :: done) rest
        else if place = 2 then
          decodeBase64From 3 (n % 4) 0 ((left * 16 + n / 4).toUInt8 :: done) rest
        else decodeBase64From 0 0 0 ((left * 64 + n).toUInt8 :: done) rest

/-- The bytes of a text, or why it has none. -/
def decodeBase64 (s : List Char) : Except String (List UInt8) := decodeBase64From 0 0 0 [] s

end GatewayPrint.Text
