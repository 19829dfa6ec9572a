import GatewayPrint.Yaml.TokenStream

/-!
# How deep tokens nest

A document is composed from the outside in: the reader goes into a container while it is still in
the containers around it. So containers that stand within one another too deep exhaust the stack of
the process, whatever comes after them. How deep that is depends on what called the reader; here it
is a number, the room that the reader has.

## The containers that tokens open

Most containers begin and end with tokens of their own. Two kinds do not. In a block mapping a
sequence may stand without more indentation, and it begins with its first hyphen and ends with the
next key, value or end of the mapping. In brackets a single pair is a mapping, which begins with its
key and ends with the item. So the open containers follow from the tokens so far (`enter`), as long
as these are the beginning of a document; what comes after a token that the parser refuses does not
matter, since it is not looked at.

## Aliases

An alias opens no container, so a value can be deeper than its text: each of a long row of anchors
may be put around the one before it. The stack that it takes to copy or to show such a value is not
counted.
-/

namespace GatewayPrint.Yaml

/-- A container that tokens have opened. -/
inductive Container where
  | blockSequence
  | blockMapping
  | flowSequence
  | flowMapping
  /-- A sequence in a block mapping without indentation of its own. -/
  | inline
  /-- A single pair in brackets. -/
  | pair
deriving DecidableEq, Repr

/-- The open containers after a token, the innermost first. -/
def enter (around : List Container) (k : Token.Kind) : List Container :=
  match k, around with
  | .blockSequenceStart, _ => .blockSequence :: around
  | .blockMappingStart, _ => .blockMapping :: around
  | .flowSequenceStart, _ => .flowSequence :: around
  | .flowMappingStart, _ => .flowMapping :: around
  | .blockEntry, .blockMapping :: _ => .inline :: around
  | .key, .inline :: rest => rest
  | .value, .inline :: rest => rest
  | .blockEnd, .inline :: rest => rest.tail
  | .key, .flowSequence :: _ => .pair :: around
  | .flowEntry, .pair :: rest => rest
  | .flowSequenceEnd, .pair :: rest => rest.tail
  | .blockEnd, _ => around.tail
  | .flowSequenceEnd, _ => around.tail
  | .flowMappingEnd, _ => around.tail
  | _, _ => around

/-- The tokens before the first one that opens a container too many. -/
def shallow (room : Nat) : List Container → List Token → List Token
  | _, [] => []
  | around, t :: ts =>
    if room < (enter around t.kind).length then []
    else t :: shallow room (enter around t.kind) ts

/-- The tokens of a stream that a reader with some room comes to, and what is wrong behind them. -/
def scan (room : Option Nat) (s : Stream) : List Token × Option Fault :=
  match room with
  | none => tokens s
  | some n =>
    let (ts, behind) := tokens s
    let reached := shallow n [] ts
    (reached, if reached.length < ts.length then some .tooDeep else behind)

@[simp] theorem scan_none (s : Stream) : scan none s = tokens s := rfl

example : shallow 1 [] ((List.replicate 2 .flowSequenceStart).map fun k ↦ ⟨k, ⟨0, 0, 0⟩, ⟨0, 0, 0⟩⟩)
    = [⟨.flowSequenceStart, ⟨0, 0, 0⟩, ⟨0, 0, 0⟩⟩] := by decide

end GatewayPrint.Yaml
