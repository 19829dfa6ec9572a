import GatewayPrint.Number.Numeral

/-!
# UUIDs

A UUID is 32 hexadecimal digits. It may be written with hyphens anywhere, between braces, and with
`urn:` and `uuid:` before it; its own text has groups of 8, 4, 4, 4 and 12 small digits.
-/

namespace GatewayPrint.Uuid

def without (word : List Char) : List Char → List Char
  | [] => []
  | c :: rest =>
    if word.isPrefixOf (c :: rest) then without word (rest.drop (word.length - 1))
    else c :: without word rest
termination_by s => s.length
decreasing_by
  · simp only [List.length_drop, List.length_cons]
    omega
  · simp

def isBrace (c : Char) : Bool := c = '\x7b' || c = '\x7d'

/-- The digits of a UUID among what may be written around them. -/
def digitsOf (s : List Char) : List Char :=
  (Text.stripOf isBrace (without "uuid:".toList (without "urn:".toList s))).filter (· ≠ '-')

def grouped (ds : List Char) : List Char :=
  ['-'].intercalate
    [ds.take 8, (ds.drop 8).take 4, (ds.drop 12).take 4, (ds.drop 16).take 4, ds.drop 20]

/-- The own text of the UUID that a text names. -/
def ofText? (s : String) : Option String :=
  let ds := digitsOf s.toList
  if ds.length ≠ 32 then none
  else
    match Numeral.read 16 ds with
    | .ok (.ofNat n) => some (String.ofList (grouped (Text.hex 32 n)))
    | _ => none

end GatewayPrint.Uuid
