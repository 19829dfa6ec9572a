import GatewayPrint.Console.Highlight
import GatewayPrint.Console.Markup
import GatewayPrint.Console.Wrap

/-!
# Messages on the console

Markup on a console of some width: its text in lines, each with a line end.
-/

namespace GatewayPrint.Console

/-- The text that markup shows, with its styled parts and those that stand out. -/
def styled (markup : List Char) : Styled :=
  let plain := Markup.plain markup
  plain |> Styled.mark (Highlight.parts plain ++ Markup.parts markup)

/-- What a console of some width shows of a line, with a line end. -/
def lineText (width : Nat) (line : Pieces) : List Char := (line.crop width).flatten ++ ['\n']

/-- What a console of some width shows of markup. -/
def display (width : Nat) (markup : List Char) : List Char :=
  (Wrap.lines width .fold .natural (styled markup)).flatMap fun line ↦ lineText width line.pieces

end GatewayPrint.Console
