/-!
# Decoding bytes as UTF-8

Bytes become characters by the well-formed sequences of the Unicode standard: no overlong forms, no
surrogates, nothing above U+10FFFF. The first ill-formed place is reported with the span of bytes
that a decoder would skip there. Newlines are then made uniform: `\r\n` and `\r` become `\n`.
-/

namespace GatewayPrint.Text

/-- Why a byte sequence is not UTF-8. -/
inductive Utf8Reason where
  | invalidStart
  | invalidContinuation
  | unexpectedEnd
deriving DecidableEq, Repr

/-- The first place where bytes are not UTF-8: the offending bytes, their offset, and the reason. -/
structure Utf8Fault where
  reason : Utf8Reason
  offset : Nat
  bytes : List UInt8
deriving DecidableEq, Repr

/-- The number of bytes in the sequence that a lead byte opens, with the range allowed for the byte
after it; `none` for a byte that opens no sequence. -/
def sequenceOf (b : Nat) : Option (Nat × Nat × Nat) :=
  if b < 0xc2 then none
  else if b < 0xe0 then some (2, 0x80, 0xbf)
  else if b = 0xe0 then some (3, 0xa0, 0xbf)
  else if b = 0xed then some (3, 0x80, 0x9f)
  else if b < 0xf0 then some (3, 0x80, 0xbf)
  else if b = 0xf0 then some (4, 0x90, 0xbf)
  else if b < 0xf4 then some (4, 0x80, 0xbf)
  else if b = 0xf4 then some (4, 0x80, 0x8f)
  else none

/-- Reads `missing` continuation bytes into `code`; `used` are the bytes of the sequence so far. -/
def continuation (lo hi : Nat) (used : List UInt8) (code : Nat) :
    Nat → List UInt8 → Except (Utf8Reason × List UInt8) (Char × List UInt8)
  | 0, rest => .ok (Char.ofNat code, rest)
  | _ + 1, [] => .error (.unexpectedEnd, used)
  | missing + 1, b :: rest =>
    if lo ≤ b.toNat && b.toNat ≤ hi then
      continuation 0x80 0xbf (used ++ [b]) (code * 64 + b.toNat % 64) missing rest
    else .error (.invalidContinuation, used)

/-- Decodes from offset `at`; `fuel` bounds the number of sequences. -/
def decodeUtf8From : Nat → Nat → List Char → List UInt8 → Except Utf8Fault (List Char)
  | _, _, done, [] => .ok done.reverse
  | 0, offset, _, bs => .error ⟨.unexpectedEnd, offset, bs⟩
  | fuel + 1, offset, done, b :: rest =>
    if b.toNat < 0x80 then
      decodeUtf8From fuel (offset + 1) (Char.ofNat b.toNat :: done) rest
    else
      match sequenceOf b.toNat with
      | none => .error ⟨.invalidStart, offset, [b]⟩
      | some (size, lo, hi) =>
        match continuation lo hi [b] (b.toNat % Nat.pow 2 (7 - size)) (size - 1) rest with
        | .error (reason, bytes) => .error ⟨reason, offset, bytes⟩
        | .ok (c, rest) => decodeUtf8From fuel (offset + size) (c :: done) rest

/-- The characters that bytes encode, or the first fault. -/
def decodeUtf8 (bs : List UInt8) : Except Utf8Fault (List Char) :=
  decodeUtf8From bs.length 0 [] bs

def Utf8Reason.message : Utf8Reason → String
  | .invalidStart => "invalid start byte"
  | .invalidContinuation => "invalid continuation byte"
  | .unexpectedEnd => "unexpected end of data"

/-- Every line of a text file ends in `\n`, however it was written. -/
def unifyNewlines : List Char → List Char
  | [] => []
  | '\r' :: '\n' :: rest => '\n' :: unifyNewlines rest
  | '\r' :: rest => '\n' :: unifyNewlines rest
  | c :: rest => c :: unifyNewlines rest

end GatewayPrint.Text
