import GatewayPrint.Text.Digit
import GatewayPrint.Text.Quoted
import GatewayPrint.Text.Split

/-!
# Grammar of the command line

The flags of the program and of its commands, and how one argument is read: as a flag with its full
name or a beginning of it that fits no other flag, as a flag with a value attached, or as a plain
argument.
-/

namespace GatewayPrint.CommandLine

/-- The fields that a flag with a value sets. -/
inductive Field where
  | output
  | scope
  | engine
  | kubeconfig
deriving DecidableEq, Repr, Inhabited

/-- What a flag does. -/
inductive Action where
  | help
  | version
  | verbose
  | allNamespaces
  | store (f : Field)
deriving DecidableEq, Repr, Inhabited

/-- A flag: its names and what it does. -/
structure Flag where
  names : List String
  action : Action
deriving DecidableEq, Repr, Inhabited

def Flag.takesValue (f : Flag) : Bool :=
  match f.action with
  | .store _ => true
  | _ => false

/-- The commands. -/
inductive Command where
  | print
  | doctor
deriving DecidableEq, Repr, Inhabited

def Command.name : Command → String
  | print => "print"
  | doctor => "doctor"

def commands : List Command := [.print, .doctor]

def Command.ofName? (s : String) : Option Command := commands.find? fun c ↦ c.name == s

/-- The flags that may stand at one place of the command line. -/
structure Grammar where
  flags : List Flag
deriving DecidableEq, Repr, Inhabited

def helpFlag : Flag := ⟨["-h", "--help"], .help⟩

/-- The flag that names a kubeconfig file. -/
def kubeconfigFlag : Flag := ⟨["--kubeconfig"], .store .kubeconfig⟩

/-- The flags before the command. -/
def programGrammar : Grammar :=
  ⟨[helpFlag, ⟨["-V", "--version"], .version⟩, ⟨["-v", "--verbose"], .verbose⟩]⟩

/-- The flags after a command. -/
def Command.grammar : Command → Grammar
  | print => ⟨[helpFlag, kubeconfigFlag, ⟨["-o", "--output"], .store .output⟩,
      ⟨["-n", "--namespace"], .store .scope⟩, ⟨["-A", "--all-namespaces"], .allNamespaces⟩,
      ⟨["--engine"], .store .engine⟩]⟩
  | doctor => ⟨[helpFlag, kubeconfigFlag]⟩

/-! ## Faults -/

/-- Why a command line is refused. -/
inductive UsageFault where
  /-- A beginning of the names of several flags. -/
  | ambiguous (argument : String) (fits : List String)
  /-- A flag without its value. -/
  | noValue (flag : Flag)
  /-- A value on a flag that has none. -/
  | unusedValue (flag : Flag) (value : String)
  | unknownCommand (argument : String)
  /-- Arguments that nothing accounts for. -/
  | leftOver (arguments : List String)
deriving DecidableEq, Repr

/-- The names of a flag between slashes. -/
def Flag.label (f : Flag) : String := "/".intercalate f.names

def UsageFault.message : UsageFault → String
  | ambiguous a fits => "ambiguous option: " ++ a ++ " could match " ++ ", ".intercalate fits
  | noValue f => "argument " ++ f.label ++ ": expected one argument"
  | unusedValue f v =>
    "argument " ++ f.label ++ ": ignored explicit argument " ++ Text.quote v
  | unknownCommand a =>
    "argument <command>: invalid choice: " ++ Text.quote a ++ " (choose from "
      ++ ", ".intercalate (commands.map fun c ↦ Text.quote c.name) ++ ")"
  | leftOver as => "unrecognized arguments: " ++ " ".intercalate as

/-! ## Reading one argument -/

/-- A name as a flag was written, with the value attached to it. -/
structure Match where
  flag : Flag
  name : String
  attached : Option String
deriving DecidableEq, Repr, Inhabited

/-- What one argument is. -/
inductive Reading where
  | plain
  /-- The two dashes after which every argument is plain. -/
  | separator
  | flag (m : Match)
  /-- It looks like a flag, but there is none of that name. -/
  | unknownFlag
deriving DecidableEq, Repr, Inhabited

namespace Grammar

/-- The names of all flags, with their flags. -/
def names (g : Grammar) : List (String × Flag) :=
  g.flags.flatMap fun f ↦ f.names.map fun n ↦ (n, f)

def flag? (g : Grammar) (name : String) : Option Flag := g.names.lookup name

/-- The parts of a text before and after the first equals sign. -/
def splitValue (s : List Char) : List Char × Option (List Char) :=
  match s.dropWhile (· ≠ '=') with
  | _ :: value => (s.takeWhile (· ≠ '='), some value)
  | [] => (s, none)

/-- The flags whose long names begin with what stands before the equals sign. -/
def longMatches (g : Grammar) (s : List Char) : List Match :=
  let (start, value) := splitValue s
  (g.names.filter fun n ↦ start.isPrefixOf n.1.toList).map fun n ↦
    ⟨n.2, n.1, value.map String.ofList⟩

/-- The flags whose short name is the first letter, with the rest as value, and those whose names
begin with the whole text. -/
def shortMatches (g : Grammar) (s : List Char) : List Match :=
  g.names.filterMap fun n ↦
    if n.1.toList = s.take 2 then some ⟨n.2, n.1, some (String.ofList (s.drop 2))⟩
    else if s.isPrefixOf n.1.toList then some ⟨n.2, n.1, none⟩
    else none

/-- A text without one line end at its end. -/
def dropLineEnd (s : List Char) : List Char :=
  match s.reverse with
  | '\n' :: rest => rest.reverse
  | _ => s

/-- The text of a negative number: digits, or digits around a point with some after it. -/
def isNegativeNumber (s : List Char) : Bool :=
  match s with
  | '-' :: body =>
    let isNumber (b : List Char) : Bool :=
      match b.dropWhile Text.isDecimalDigit with
      | [] => !b.isEmpty
      | '.' :: places => !places.isEmpty && places.all Text.isDecimalDigit
      | _ => false
    isNumber body || isNumber (dropLineEnd body)
  | _ => false

/-- An argument that begins with a dash and is no full name. A number, and what has a space in it,
is a plain argument after all. -/
def readDashed (g : Grammar) (a : String) : Except UsageFault Reading :=
  let s := a.toList
  let fits := if ['-', '-'].isPrefixOf s then g.longMatches s else g.shortMatches s
  match fits with
  | [m] => .ok (.flag m)
  | _ :: _ => .error (.ambiguous a (fits.map Match.name))
  | [] => .ok (if isNegativeNumber s || s.contains ' ' then .plain else .unknownFlag)

def read (g : Grammar) (a : String) : Except UsageFault Reading :=
  match a.toList with
  | ['-', '-'] => .ok .separator
  | '-' :: rest =>
    match g.flag? a with
    | some f => .ok (.flag ⟨f, a, none⟩)
    | none =>
      if rest.isEmpty then .ok .plain
      else
        let (start, value) := splitValue ('-' :: rest)
        match value, g.flag? (String.ofList start) with
        | some v, some f => .ok (.flag ⟨f, String.ofList start, some (String.ofList v)⟩)
        | _, _ => g.readDashed a
  | _ => .ok .plain

/-- Reads all arguments; after the separator all are plain. -/
def readAll (g : Grammar) : List String → Except UsageFault (List (String × Reading))
  | [] => .ok []
  | a :: rest => do
    match ← g.read a with
    | .separator => return (a, .separator) :: rest.map fun b ↦ (b, .plain)
    | r => return (a, r) :: (← g.readAll rest)

end Grammar

end GatewayPrint.CommandLine
