import GatewayPrint.CommandLine.Settings
import GatewayPrint.Console.LogView
import GatewayPrint.Console.Message
import GatewayPrint.Doctor.Report
import GatewayPrint.PrintRun

/-!
# The program as a whole

A run takes a command line in some surroundings, and leaves behind what it wrote to standard output
and to the console, the calls of engines, and the way it ended. The error boundary turns every
failure into a message on the console and an exit code; a request to exit passes through.
-/

namespace GatewayPrint.App

/-- What a run finds: files and the environment, what is installed, and the width of the console. -/
structure Surroundings where
  source : Kubeconfig.Source
  installation : Doctor.Installation
  width : Nat
deriving Repr, Inhabited

/-- The way a run ends. -/
inductive Ending where
  | returned (status : ExitStatus)
  | exited (code : ExitCode)
  | failed (f : Failure)
deriving Repr, Inhabited

/-- What a run leaves behind. -/
structure Run where
  out : String
  err : String
  calls : List Engine.Call
  ending : Ending
deriving Repr, Inhabited

/-- The code of an exit status. -/
def codeOf (s : ExitStatus) : ExitCode := .number s.code

/-- What a command line without a run leaves behind. -/
def stopped : CommandLine.Stop → Run
  | .help c => ⟨CommandLine.help c, "", [], .exited (codeOf .success)⟩
  | .version => ⟨CommandLine.versionText, "", [], .exited (codeOf .success)⟩
  | .refused c f => ⟨"", CommandLine.complaint c f, [], .exited (codeOf .unexpected)⟩

/-- A failure as the end of a run: a request to exit is one, everything else escapes. -/
def endingOf : Failure → Ending
  | .exit code => .exited code
  | f => .failed f

/-- The surroundings with a kubeconfig file that is named explicitly, if it has a name. -/
def withKubeconfig (w : Surroundings) (a : Option CommandLine.Argument) : Kubeconfig.Source :=
  let name := (a.map CommandLine.Argument.text).getD ""
  { w.source with explicitPath := if name.isEmpty then none else some (.ofText name) }

/-- What records look like on the console. -/
def logText (w : Surroundings) (verbose : Bool) (rs : List Log.Record) : String :=
  String.ofList ((LogView.configure verbose none).writeAll w.width rs).2

/-- The value that the format or the engine is selected by. -/
def selector : CommandLine.Argument → Value
  | .given s => .text s
  | .nothing => .list []

def print (w : Surroundings) (s : CommandLine.Settings) : Engine.Outcome :=
  match OutputFormat.select (selector s.output) with
  | .error f => { calls := [], out := "", records := [], failure := some f }
  | .ok _ =>
    let options : PrintOptions :=
      { outputFormat := s.output.text
        requestedNamespace := s.scope.text
        allNamespaces := s.allNamespaces }
    let engine := Registry.call w.installation.engines (s.engine.map selector)
    (PrintRun.run engine (fun src ↦ (src.activeNamespace, src)) options
      (withKubeconfig w s.kubeconfig)).1

def doctor (w : Surroundings) (s : CommandLine.Settings) : Run :=
  let checks := Doctor.checks w.installation (withKubeconfig w s.kubeconfig)
  let log := logText w s.verbose checks.records
  match checks.result with
  | .error f => ⟨"", log, [], endingOf f⟩
  | .ok cs =>
    ⟨"", log ++ String.ofList (Doctor.report w.width cs), [], .returned (Doctor.verdict cs)⟩

/-- A run that may end in a failure. -/
def main (w : Surroundings) (args : List String) : Run :=
  match CommandLine.parse args with
  | .error stop => stopped stop
  | .ok s =>
    match s.command with
    | none => ⟨CommandLine.help none, "", [], .returned .success⟩
    | some .doctor => doctor w s
    | some .print =>
      let r := print w s
      ⟨r.out, logText w s.verbose r.records, r.calls,
        match r.failure with
        | none => .returned .success
        | some f => endingOf f⟩

/-! ## The error boundary -/

/-- What the console shows of markup, unless it refuses it. -/
def onConsole (w : Surroundings) (markup : String) : Except Markup.Fault String :=
  match Markup.fault? .byName markup.toList with
  | some f => .error f
  | none => .ok (String.ofList (Console.display w.width markup.toList))

/-- A text as markup that shows it. -/
def escaped (s : String) : String := String.ofList (Markup.escape s.toList)

/-- What stands before the text of an error of the program. -/
def errorLead : String := Markup.inStyle "bold red" "Error:" ++ " "

/-- What stands before a hint. -/
def hintLead : String := Markup.inStyle "yellow" "Hint:" ++ " "

/-- What stands before the text of an error that the program does not know. -/
def surpriseLead (kind : String) : String :=
  Markup.inStyle "bold red" "Unexpected error." ++ " Please report this issue.\n  " ++ kind ++ ": "

/-- What is said about an interrupt. -/
def farewell : String := "\n" ++ Markup.inStyle "yellow" "Aborted by user."

/-- What is said about a hint, unless it is empty. -/
def hintNotice : Option String → List String
  | none => []
  | some h => if h.isEmpty then [] else [hintLead ++ escaped h]

/-- What is said about a failure, as markup, one message after another. -/
def notice : Failure → List String
  | .exit _ => []
  | .interrupt _ => [farewell]
  | .foreign e => [surpriseLead e.kind ++ escaped e.message]
  | f => (errorLead ++ escaped f.message) :: hintNotice f.hint

def failureCode : Failure → ExitCode
  | .exit code => code
  | .interrupt _ => codeOf .interrupt
  | .foreign _ => codeOf .unexpected
  | _ => codeOf .general

/-- Shows messages in turn, up to one that the console refuses. -/
def say (w : Surroundings) : List String → String × Option Markup.Fault
  | [] => ("", none)
  | markup :: rest =>
    match onConsole w markup with
    | .error f => ("", some f)
    | .ok shown =>
      let (more, f) := say w rest
      (shown ++ more, f)

/-- A run inside the error boundary: what is written, the calls, and the exit code. The boundary
itself fails where the console refuses what it says. -/
def cli (w : Surroundings) (args : List String) : Run :=
  let r := main w args
  match r.ending with
  | .returned s => { r with ending := .exited (codeOf s) }
  | .exited _ => r
  | .failed f =>
    let (said, refused) := say w (notice f)
    { r with
      err := r.err ++ said
      ending := match refused with
        | none => .exited (failureCode f)
        | some g => .failed (.foreign g.error) }

end GatewayPrint.App
