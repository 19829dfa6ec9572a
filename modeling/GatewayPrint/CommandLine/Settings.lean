import GatewayPrint.CommandLine.Help

/-!
# Settings from the command line

Arguments are taken in order. A flag with a value takes the one attached to it, or the next
argument; short flags without a value may be written together. The first plain argument is the
command, and everything after it belongs to the command. Of several values for one flag the last
one counts.
-/

namespace GatewayPrint.CommandLine

/-- The value of a flag. Two dashes attached to a flag are taken out as a separator, which leaves no
value at all. -/
inductive Argument where
  | given (s : String)
  | nothing
deriving DecidableEq, Repr, Inhabited

/-- The value that a text amounts to. -/
def Argument.ofText (s : String) : Argument := if s = "--" then nothing else given s

/-- The text of a value, where no value counts as the empty one. -/
def Argument.text : Argument → String
  | given s => s
  | nothing => ""

/-- What a command line asks for. -/
structure Settings where
  verbose : Bool := false
  command : Option Command := none
  output : Argument := .given "yaml"
  scope : Argument := .given ""
  allNamespaces : Bool := false
  engine : Option Argument := none
  kubeconfig : Option Argument := none
deriving DecidableEq, Repr, Inhabited

/-- Why a command line leads to no run. -/
inductive Stop where
  | help (c : Option Command)
  | version
  | refused (c : Option Command) (f : UsageFault)
deriving DecidableEq, Repr

def Settings.set (s : Settings) (f : Field) (a : Argument) : Settings :=
  match f with
  | .output => { s with output := a }
  | .scope => { s with scope := a }
  | .engine => { s with engine := some a }
  | .kubeconfig => { s with kubeconfig := some a }

/-- What a flag with its value does. -/
def Settings.apply (place : Option Command) (s : Settings) (f : Flag) (value : Option String) :
    Except Stop Settings :=
  match f.action with
  | .help => .error (.help place)
  | .version => .error .version
  | .verbose => .ok { s with verbose := true }
  | .allNamespaces => .ok { s with allNamespaces := true }
  | .store field => .ok (s.set field (.ofText (value.getD "")))

/-- What flags with their values do, in order. -/
def Settings.applyAll (place : Option Command) (s : Settings) :
    List (Flag × Option String) → Except Stop Settings
  | [] => .ok s
  | (f, value) :: rest => do (← s.apply place f value).applyAll place rest

/-- A flag without an attached value: its value is the next argument, if that is plain. Gives the
flags met and whether the next argument is used. -/
def needNext (f : Flag) (next : Option (String × Reading)) :
    Except UsageFault (List (Flag × Option String) × Bool) :=
  if !f.takesValue then .ok ([(f, none)], false)
  else
    match next with
    | some (value, .plain) => .ok ([(f, some value)], true)
    | _ => .error (.noValue f)

def isShort (name : String) : Bool := (name.toList.drop 1).head? != some '-'

/-- A flag with text attached to it: its value, or further short flags if it has no value. Gives the
flags met and whether the next argument is used. -/
def attached (g : Grammar) (next : Option (String × Reading)) (f : Flag) (name : String) :
    List Char → Except UsageFault (List (Flag × Option String) × Bool)
  | [] => if f.takesValue then .ok ([(f, some "")], false) else .error (.unusedValue f "")
  | c :: rest =>
    if f.takesValue then .ok ([(f, some (String.ofList (c :: rest)))], false)
    else if !isShort name then .error (.unusedValue f (String.ofList (c :: rest)))
    else
      let short := String.ofList ['-', c]
      match g.flag? short with
      | none => .error (.unusedValue f (String.ofList (c :: rest)))
      | some other => do
        let (found, used) ← if rest.isEmpty then needNext other next
          else attached g next other short rest
        return ((f, none) :: found, used)

/-- A flag as it was written: the flags met and whether the next argument is used. -/
def flagsOf (g : Grammar) (next : Option (String × Reading)) (m : Match) :
    Except UsageFault (List (Flag × Option String) × Bool) :=
  match m.attached with
  | none => needNext m.flag next
  | some s => attached g next m.flag m.name s.toList

/-- Turns a fault into a refusal. -/
def refuse {α : Type} (place : Option Command) : Except UsageFault α → Except Stop α
  | .ok x => .ok x
  | .error f => .error (.refused place f)

/-- Takes the arguments after a command in order: the settings, and the arguments that nothing
accounts for. `skip` says that the next argument has been used as a value. -/
def takeFlags (c : Command) (skip : Bool) (s : Settings) :
    List (String × Reading) → Except Stop (Settings × List String)
  | [] => .ok (s, [])
  | (a, r) :: rest =>
    if skip then takeFlags c false s rest
    else
      match r with
      | .flag m => do
        let (found, used) ← refuse (some c) (flagsOf c.grammar rest.head? m)
        let s ← s.applyAll (some c) found
        takeFlags c used s rest
      | _ => do
        let (s, left) ← takeFlags c false s rest
        return (s, a :: left)

def takeCommand (s : Settings) (c : Command) (args : List String) :
    Except Stop (Settings × List String) := do
  let read ← refuse (some c) (c.grammar.readAll args)
  takeFlags c false { s with command := some c } read

/-- Takes the arguments of the program in order. -/
def takeProgram (s : Settings) : List (String × Reading) → Except Stop (Settings × List String)
  | [] => .ok (s, [])
  | (_, .flag m) :: rest => do
    let (found, _) ← refuse none (flagsOf programGrammar rest.head? m)
    takeProgram (← s.applyAll none found) rest
  | (a, .unknownFlag) :: rest => do
    let (s, left) ← takeProgram s rest
    return (s, a :: left)
  | (a, .plain) :: rest =>
    match Command.ofName? a with
    | some c => takeCommand s c (rest.map Prod.fst)
    | none => .error (.refused none (.unknownCommand a))
  | (a, .separator) :: rest =>
    if rest.isEmpty then .ok (s, [a]) else .error (.refused none (.unknownCommand a))

def parse (args : List String) : Except Stop Settings := do
  let read ← refuse none (programGrammar.readAll args)
  let (s, left) ← takeProgram {} read
  if left.isEmpty then return s else .error (.refused none (.leftOver left))

end GatewayPrint.CommandLine
