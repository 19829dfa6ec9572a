/-!
# The program

What the program is called, its version, and the codes that it exits with.
-/

namespace GatewayPrint

namespace Program

def name : String := "ingress2gateway"

def version : String := "0.1.0"

end Program

/-- The ways in which a run ends. -/
inductive ExitStatus where
  | success
  /-- An error of the program, or a failed check. -/
  | general
  /-- An error that the program does not know. -/
  | unexpected
  | interrupt
deriving DecidableEq, Repr, Inhabited

def ExitStatus.code : ExitStatus → Nat
  | success => 0
  | general => 1
  | unexpected => 2
  | interrupt => 130

end GatewayPrint
