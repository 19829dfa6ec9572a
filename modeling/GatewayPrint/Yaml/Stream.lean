import GatewayPrint.Yaml.Fault

/-!
# The stream of a YAML file

A file is read as its characters are needed. Bytes are decoded in blocks, and a fault of encoding
counts its offset from the beginning of its block. Characters come in pieces, and a piece with a
character that YAML does not allow is refused as a whole. What is wrong with a piece is found out
when the reader of the stream comes to it.
-/

namespace GatewayPrint.Yaml

/-- The characters that can be read, and the fault behind them. -/
structure Stream where
  text : List Char
  fault : Option Fault
deriving Repr

namespace Stream

/-- The number of characters that are read at a time. -/
def pieceSize : Nat := 4096

/-- The number of bytes that are decoded at a time, unless more of them are needed for a piece. -/
def blockSize : Nat := 8192

/-- How many characters come before a number of pieces; the first two pieces are taken as one. -/
def charsBefore (pieces : Nat) : Nat := if pieces ≤ 1 then 0 else pieces * pieceSize

/-! ## Characters -/

/-- A character that a stream may hold. -/
def isAllowed (c : Char) : Bool :=
  let n := c.toNat
  n = 9 || n = 10 || n = 13 || (0x20 ≤ n && n ≤ 0x7e) || n = 0x85
    || (0xa0 ≤ n && n ≤ 0xd7ff) || (0xe000 ≤ n && n ≤ 0xfffd) || 0x10000 ≤ n

/-- The position and code of the first character that is not allowed. -/
def firstForbidden (position : Nat) : List Char → Option (Nat × Nat)
  | [] => none
  | c :: rest =>
    if isAllowed c then firstForbidden (position + 1) rest else some (position, c.toNat)

/-- The stream of some characters with a fault behind them. -/
def ofText (s : List Char) (behind : Option Fault) : Stream :=
  match firstForbidden 0 s with
  | some (position, code) =>
    ⟨s.take (charsBefore (position / pieceSize)), some (.character code position)⟩
  | none => ⟨s, behind⟩

/-! ## Bytes -/

/-- The state of decoding: the bytes that are not read, those of a character that is not complete,
whether a carriage return is kept back, and the characters of the current piece so far. -/
structure Decoding where
  bytes : List UInt8
  held : List UInt8
  returned : Bool
  ready : Nat
deriving Repr

/-- The characters of bytes, and the bytes at the end that are not a complete character. -/
def decodeBlock (bs : List UInt8) : Except Text.Utf8Fault (List Char × List UInt8) :=
  match Text.decodeUtf8 bs with
  | .ok cs => .ok (cs, [])
  | .error f =>
    if f.reason = .unexpectedEnd then
      (Text.decodeUtf8 (bs.take f.offset)).map fun cs ↦ (cs, bs.drop f.offset)
    else .error f

/-- Characters with one line end for all kinds of them, and whether a carriage return at their end
is kept back. -/
def lineEnds (returned : Bool) (cs : List Char) : List Char × Bool :=
  let cs := if returned then '\r' :: cs else cs
  if cs.getLast? = some '\r' then (Text.unifyNewlines cs.dropLast, true)
  else (Text.unifyNewlines cs, false)

/-- The first fault of encoding, and the number of pieces before the one in which it is found. The
block before had `size` bytes and `count` characters; `fuel` bounds the number of blocks. -/
def blockFault (size count pieces : Nat) : Nat → Decoding → Option (Nat × Text.Utf8Fault)
  | 0, _ => none
  | fuel + 1, d =>
    let needed := pieceSize - d.ready
    let hint := if count = 0 then needed else max needed (size * needed / count)
    let block := d.bytes.take (max blockSize hint)
    if block.isEmpty then
      if d.held.isEmpty then none else some (pieces, ⟨.unexpectedEnd, 0, d.held⟩)
    else
      match decodeBlock (d.held ++ block) with
      | .error f => some (pieces, f)
      | .ok (cs, held) =>
        let (cs, returned) := lineEnds d.returned cs
        let ready := d.ready + cs.length
        blockFault block.length cs.length (pieces + ready / pieceSize) fuel
          ⟨d.bytes.drop block.length, held, returned, ready % pieceSize⟩

def ofBytes (bs : List UInt8) : Stream :=
  match Text.decodeUtf8 bs with
  | .ok cs => ofText (Text.unifyNewlines cs) none
  | .error f =>
    let (pieces, fault) :=
      (blockFault 0 0 0 (bs.length + 1) ⟨bs, [], false, 0⟩).getD (0, f)
    let before := match Text.decodeUtf8 (bs.take f.offset) with
      | .ok cs => Text.unifyNewlines cs
      | .error _ => []
    ofText (before.take (charsBefore pieces)) (some (.encoding fault))

/-- A text of allowed characters can be read to its end. -/
theorem firstForbidden_eq_none {s : List Char} (h : ∀ c ∈ s, isAllowed c = true) (position : Nat) :
    firstForbidden position s = none := by
  induction s generalizing position with
  | nil => rfl
  | cons c rest ih =>
    simp [firstForbidden, h c List.mem_cons_self, ih fun d hd ↦ h d (List.mem_cons_of_mem c hd)]

end Stream

end GatewayPrint.Yaml
