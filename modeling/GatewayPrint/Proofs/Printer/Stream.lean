import GatewayPrint.Proofs.Outcome
import GatewayPrint.Resource.Printer

/-!
# Several resources on one stream

A printer is given resources in turn and writes to one stream. A call that fails does not keep the
next one from being made, so what a call leaves behind depends on the calls before it only through
the printer.

Whether a call fails, and how, is a matter of the resource alone (`fault_print`, `fault_calls`).
-/

namespace GatewayPrint

open Outcome

namespace OutputFormat

/-- The text of plain data in a format. -/
def write (f : OutputFormat) (data : Value) : Except PrintFault String :=
  match f with
  | yaml => (Yaml.write data).mapError .yaml
  | json => ((Json.write data).map (· ++ "\n")).mapError .json

/-- The text of one resource in a format. -/
def document (f : OutputFormat) (v : Value) : Except PrintFault String := do
  let data ← (Resource.normalize v).mapError .resource
  f.write data

/-- What keeps a resource from being printed in a format. -/
def fault? (f : OutputFormat) (v : Value) : Option PrintFault :=
  match f.document v with
  | .ok _ => none
  | .error e => some e

variable {f : OutputFormat} {v data : Value}

theorem document_of_normalize (h : Resource.normalize v = .ok data) :
    f.document v = f.write data := by
  rw [document, h]
  rfl

theorem document_of_refused {e : Resource.Fault} (h : Resource.normalize v = .error e) :
    f.document v = .error (.resource e) := by
  rw [document, h]
  rfl

end OutputFormat

namespace Printer

variable {p : Printer} {v data : Value}

/-- The calls of a printer that is given resources in turn. -/
def calls : Printer → List Value → List Printed
  | _, [] => []
  | p, v :: vs => p.print v :: calls (p.print v).printer vs

/-- What the calls leave on the stream. -/
def stream (p : Printer) (vs : List Value) : String :=
  String.join ((p.calls vs).map Printed.out)

def chars (p : Printer) (vs : List Value) : List Char :=
  (p.calls vs).flatMap fun r ↦ r.out.toList

theorem toList_stream (p : Printer) (vs : List Value) : (p.stream vs).toList = p.chars vs := by
  rw [stream, chars, String.toList_join, List.flatMap_map]

theorem chars_cons (p : Printer) (v : Value) (vs : List Value) :
    p.chars (v :: vs) = (p.print v).out.toList ++ (p.print v).printer.chars vs := rfl

theorem print_of_refused {e : Resource.Fault} (h : Resource.normalize v = .error e) :
    p.print v = ⟨p, "", some (.resource e)⟩ := by
  rw [print, h]

@[simp] theorem format_print (p : Printer) (v : Value) : (p.print v).printer.format = p.format := by
  rw [print]
  split
  · rfl
  · split
    · rw [printYaml]
      split <;> rfl
    · rw [printJson]
      split <;> rfl

/-- **Whether a call fails** does not depend on the calls before it. -/
theorem fault_print (p : Printer) (v : Value) : (p.print v).fault = p.format.fault? v := by
  rw [print, OutputFormat.fault?]
  cases hn : Resource.normalize v with
  | error e => rw [OutputFormat.document_of_refused hn]
  | ok data =>
    rw [OutputFormat.document_of_normalize hn]
    cases hf : p.format with
    | yaml =>
      simp only [printYaml, OutputFormat.write]
      cases Yaml.write data <;> rfl
    | json =>
      simp only [printJson, OutputFormat.write]
      cases Json.write data <;> rfl

theorem fault_calls (p : Printer) (vs : List Value) :
    (p.calls vs).map Printed.fault = vs.map p.format.fault? := by
  induction vs generalizing p with
  | nil => rfl
  | cons v vs ih =>
    rw [calls, List.map_cons, List.map_cons, fault_print, ih, format_print]

end Printer

end GatewayPrint
