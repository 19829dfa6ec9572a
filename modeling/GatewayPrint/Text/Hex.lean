/-!
# Hexadecimal digits

Numbers in a fixed count of lower-case hexadecimal digits, and digits of either case read back.

Digits that are written are read back (`hexValues?_hex`).
-/

namespace GatewayPrint.Text

def hexDigit (n : Nat) : Char :=
  if n < 10 then Char.ofNat (48 + n) else Char.ofNat (87 + n)

/-- The last `width` hexadecimal digits of a number. -/
def hex : Nat → Nat → List Char
  | 0, _ => []
  | width + 1, n => hex width (n / 16) ++ [hexDigit (n % 16)]

def hexValue? (c : Char) : Option Nat :=
  let n := c.toNat
  if 48 ≤ n && n ≤ 57 then some (n - 48)
  else if 97 ≤ n && n ≤ 102 then some (n - 87)
  else if 65 ≤ n && n ≤ 70 then some (n - 55)
  else none

def hexValues? (ds : List Char) : Option Nat :=
  ds.foldl (fun acc d ↦ do some ((← acc) * 16 + (← hexValue? d))) (some 0)

theorem length_hex (width n : Nat) : (hex width n).length = width := by
  induction width generalizing n with
  | zero => rfl
  | succ w ih => simp [hex, ih]

theorem hexValue?_hexDigit : ∀ n < 16, hexValue? (hexDigit n) = some n := by decide

theorem hexValues?_hex (width n : Nat) :
    hexValues? (hex width n) = some (n % Nat.pow 16 width) := by
  induction width generalizing n with
  | zero => simp [hex, hexValues?, Nat.mod_one]
  | succ w ih =>
    have hd := hexValue?_hexDigit (n % 16) (Nat.mod_lt n (by decide))
    have hw : hexValues? (hex (w + 1) n) =
        (do some ((← hexValues? (hex w (n / 16))) * 16 + (← hexValue? (hexDigit (n % 16))))) := by
      simp [hex, hexValues?, List.foldl_append]
    have hp : Nat.pow 16 (w + 1) = 16 * Nat.pow 16 w := Nat.mul_comm ..
    rw [hw, ih, hd, hp, Nat.mod_mul]
    simp only [Option.bind_eq_bind, Option.bind_some, Option.some.injEq]
    omega

end GatewayPrint.Text
