import GatewayPrint.Value.Display

/-!
# Failures

Everything that can end an operation: the program's own errors, which carry a hint for the user, the
errors of other code, an interrupt, and a request to exit. An error of other code is known by its
class and its text only.
-/

namespace GatewayPrint

/-- An error as its class and its text. -/
structure Foreign where
  kind : String
  message : String
deriving DecidableEq, Repr, Inhabited

/-- The code that a request to exit carries. -/
inductive ExitCode where
  | none
  | number (n : Int)
  | text (s : String)
deriving DecidableEq, Repr, Inhabited

/-- What can end an operation. -/
inductive Failure where
  /-- An error of the program without a class of its own. -/
  | general (message : String) (hint : Option String)
  | unsupportedFormat (value : Value) (hint : Option String)
  | configLoad (message : String) (hint : Option String) (cause : Option Foreign)
  | engineUnavailable (message : String) (hint : Option String) (cause : Option Foreign)
  | conversion (message : String) (hint : Option String) (cause : Option Foreign)
  /-- An error of other code. -/
  | foreign (error : Foreign)
  | interrupt (message : String)
  | exit (code : ExitCode)
deriving Repr, Inhabited

def ExitCode.message : ExitCode → String
  | .none => "None"
  | .number n => intText n
  | .text s => s

namespace Failure

def kind : Failure → String
  | general .. => "Ingress2GatewayError"
  | unsupportedFormat .. => "UnsupportedFormatError"
  | configLoad .. => "ConfigLoadError"
  | engineUnavailable .. => "EngineUnavailableError"
  | conversion .. => "ConversionError"
  | foreign e => e.kind
  | interrupt _ => "KeyboardInterrupt"
  | exit _ => "SystemExit"

/-- The classes of an error, from its own to the class of all errors. -/
def ancestors (f : Failure) : List String :=
  match f with
  | general .. => [f.kind, "Exception"]
  | unsupportedFormat .. | configLoad .. | engineUnavailable .. | conversion .. =>
    [f.kind, "Ingress2GatewayError", "Exception"]
  | interrupt _ | exit _ => []
  | foreign e =>
    match e.kind with
    | "Exception" => ["Exception"]
    | "KeyError" => ["KeyError", "LookupError", "Exception"]
    | "NotImplementedError" => ["NotImplementedError", "RuntimeError", "Exception"]
    | "ZeroDivisionError" => ["ZeroDivisionError", "ArithmeticError", "Exception"]
    | kind => [kind, "Exception"]

def message : Failure → String
  | general m _ => m
  | unsupportedFormat v _ => v.display [] ++ " is not a supported output format"
  | configLoad m _ _ => m
  | engineUnavailable m _ _ => m
  | conversion m _ _ => m
  | foreign e => e.message
  | interrupt m => m
  | exit code => code.message

/-- What the user may do about a failure. -/
def hint : Failure → Option String
  | general _ h => h
  | unsupportedFormat _ h => h
  | configLoad _ h _ => h
  | engineUnavailable _ h _ => h
  | conversion _ h _ => h
  | _ => none

def cause : Failure → Option Foreign
  | configLoad _ _ c => c
  | engineUnavailable _ _ c => c
  | conversion _ _ c => c
  | _ => none

/-- A failure as its class and its text. -/
def summary (f : Failure) : Foreign := ⟨f.kind, f.message⟩

/-- An error of the program itself. -/
def isOwn : Failure → Bool
  | foreign _ => false
  | interrupt _ => false
  | exit _ => false
  | _ => true

/-- An error, as opposed to an interrupt or a request to exit. -/
def isError : Failure → Bool
  | interrupt _ => false
  | exit _ => false
  | _ => true

end Failure

end GatewayPrint
