import GatewayPrint.Text.Blank
import GatewayPrint.Text.Case
import GatewayPrint.Text.EmojiTable

/-!
# Emoji by name

The replacement of the names of emoji between colons. A name may end in a word that
asks for the presentation as text or as a picture; a code with an unknown name stays as it is.
-/

namespace GatewayPrint.Text

/-- The emoji of a name in small letters. -/
def emojiNamed? (name : List Char) : Option (List Char) :=
  (emojiTable.lookup (String.ofList name)).map fun codes ↦ codes.map Char.ofNat

/-- The part of a code that asks for a presentation, and the character that selects it. -/
def presentations : List (List Char × Char) :=
  [("-emoji".toList, '\ufe0f'), ("-text".toList, '\ufe0e')]

/-- A code without the part that asks for a presentation, and the selector for it. -/
def splitPresentation (code : List Char) : List Char × List Char :=
  match presentations.find? fun p ↦ p.1.isSuffixOf code with
  | some p => (code.take (code.length - p.1.length), [p.2])
  | none => (code, [])

/-- What a code stands for; the code itself, between its colons, when its name is unknown. -/
def emojiOfCode (code : List Char) : List Char :=
  let (name, selector) := splitPresentation code
  match emojiNamed? (lower name) with
  | some emoji => emoji ++ selector
  | none => ':' :: code ++ [':']

/-- The code that ends at the next colon, and the text after it. A code holds no white space. -/
def codeEnd? : List Char → Option (List Char × List Char)
  | [] => none
  | ':' :: rest => some ([], rest)
  | c :: rest => if isBlank c then none else (codeEnd? rest).map fun r ↦ (c :: r.1, r.2)

theorem length_codeEnd? {s code rest : List Char} (h : codeEnd? s = some (code, rest)) :
    rest.length < s.length := by
  fun_induction codeEnd? s generalizing code with
  | case1 => simp at h
  | case2 rest' => simp at h; simp [h.2]
  | case3 => simp at h
  | case4 c rest' _ _ ih =>
    obtain ⟨⟨end', rest''⟩, hr, heq⟩ := Option.map_eq_some_iff.1 h
    obtain rfl : rest'' = rest := congrArg Prod.snd heq
    have := ih hr
    simp only [List.length_cons]
    omega

/-- A text with an emoji in place of each code between colons. -/
def replaceEmoji : List Char → List Char
  | [] => []
  | c :: s =>
    if c = ':' then
      match _h : codeEnd? s with
      | some (code, rest) => emojiOfCode code ++ replaceEmoji rest
      | none => c :: replaceEmoji s
    else c :: replaceEmoji s
termination_by s => s.length
decreasing_by
  · have := length_codeEnd? _h
    simp only [List.length_cons]
    omega
  · simp
  · simp

end GatewayPrint.Text
