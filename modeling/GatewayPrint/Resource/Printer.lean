import GatewayPrint.Failure
import GatewayPrint.Json.Writer
import GatewayPrint.Resource.Normalize
import GatewayPrint.Yaml.Writer

/-!
# Resource printers

A printer writes resources one after another in one format: as JSON objects, or as YAML documents
with a separator before each document after the first.

A resource is first brought into plain form, and accepted or refused by that. Only then is it
counted and written. Writing may fail as well; as a YAML document it has been counted by then, and
the separator before it has been written.
-/

namespace GatewayPrint

/-- The formats that resources are printed in. -/
inductive OutputFormat where
  | yaml
  | json
deriving DecidableEq, Repr, Inhabited

namespace OutputFormat

def name : OutputFormat → String
  | yaml => "yaml"
  | json => "json"

def ofName? (s : String) : Option OutputFormat :=
  if s == "yaml" then some yaml else if s == "json" then some json else none

def constantName : OutputFormat → String
  | yaml => "YAML"
  | json => "JSON"

/-- The format that a value names exactly. -/
def parse (v : Value) : Except Failure OutputFormat :=
  let refused : Except Failure OutputFormat :=
    .error (.foreign ⟨"ValueError", v.literal [] ++ " is not a valid OutputFormat"⟩)
  match v with
  | .text s => (ofName? s).elim refused .ok
  | _ => refused

/-- The names of all formats in alphabetical order. -/
def allowed : List String := ["json", "yaml"]

/-- The name of the format that is used when none is given. -/
def default : String := "yaml"

/-- The format that a request asks for: a name, or the empty text for the default. -/
def select (request : Value) : Except Failure OutputFormat :=
  let refused : Except Failure OutputFormat :=
    .error (.unsupportedFormat request (some ("Use one of: " ++ ", ".intercalate allowed)))
  match request with
  | .text s => if s.isEmpty then .ok yaml else
      match ofName? s with
      | some f => .ok f
      | none => refused
  | _ => refused

end OutputFormat

/-- Why a resource could not be printed. -/
inductive PrintFault where
  | resource (fault : Resource.Fault)
  | yaml (error : Yaml.WriteError)
  | json (error : Json.WriteError)
deriving DecidableEq, Repr

namespace PrintFault

/-- The fault as an error of other code. -/
def error : PrintFault → Foreign
  | resource f => ⟨f.errorName, f.message⟩
  | yaml e => ⟨e.errorName, e.message⟩
  | json .digits => ⟨"ValueError", Json.WriteError.digits.message⟩
  | json e => ⟨"TypeError", e.message⟩

end PrintFault

/-- A printer: its format, and the number of resources that it has accepted. -/
structure Printer where
  format : OutputFormat
  count : Nat
deriving DecidableEq, Repr, Inhabited

/-- What printing leaves behind: the printer, the text it wrote, and what went wrong. -/
structure Printed where
  printer : Printer
  out : String
  fault : Option PrintFault
deriving Repr

namespace Printer

def new (format : OutputFormat) : Printer := ⟨format, 0⟩

def name (p : Printer) : String :=
  match p.format with
  | .yaml => "YAMLPrinter"
  | .json => "JSONPrinter"

/-- Prints a resource as a YAML document. The resource counts, and the separator is written, as soon
as it is accepted as one. -/
def printYaml (p : Printer) (data : Value) : Printed :=
  let separator := if p.count = 0 then "" else "---\n"
  let p := { p with count := p.count + 1 }
  match Yaml.write data with
  | .ok s => ⟨p, separator ++ s, none⟩
  | .error e => ⟨p, separator, some (.yaml e)⟩

/-- Prints a resource as a JSON object on lines of its own. -/
def printJson (p : Printer) (data : Value) : Printed :=
  match Json.write data with
  | .ok s => ⟨p, s ++ "\n", none⟩
  | .error e => ⟨p, "", some (.json e)⟩

def print (p : Printer) (v : Value) : Printed :=
  match Resource.normalize v with
  | .error f => ⟨p, "", some (.resource f)⟩
  | .ok data =>
    match p.format with
    | .yaml => p.printYaml data
    | .json => p.printJson data

end Printer

end GatewayPrint
