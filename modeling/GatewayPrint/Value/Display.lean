import GatewayPrint.Resource.Model
import GatewayPrint.Value.Layout
import GatewayPrint.Value.Sorting

/-!
# Values as text

How a value is shown in a message: a text on its own is shown as it is, and every value inside
another one in a form that tells its kind. A model is shown as the mapping of its fields, in lines
of bounded width. A container that contains itself is shown once; inside itself it is an ellipsis in
its own brackets.
-/

namespace GatewayPrint

namespace Value

/-- The form of a scalar inside another value. -/
def scalarLiteral : Value → String
  | null => "None"
  | bool b => if b then "True" else "False"
  | int n => intText n
  | float x => x.text
  | text s => Text.quote s
  | bytes bs => Text.quoteBytes bs
  | date d => d.literal
  | datetime t => t.literal
  | decimal d => "Decimal('" ++ d.text ++ "')"
  | uuid s => "UUID('" ++ s ++ "')"
  | secret s => "SecretStr('" ++ (if s.isEmpty then "" else "**********") ++ "')"
  | v => "<" ++ v.kindName ++ " object>"

/-- Whether one key comes before another in a layout: keys without an order stand by their kinds. -/
def layoutLess (v w : Value) : Bool :=
  match v.less w with
  | .ok b => b
  | .error _ => decide (v.qualifiedKind < w.qualifiedKind)

/-- Texts in the order in which a layout shows them. -/
def layoutOrder (keyed : List (Value × Forms)) : List Forms :=
  let less (e f : Value × Forms) : Except Empty Bool := .ok (layoutLess e.1 f.1)
  match Sorting.sort less keyed with
  | .ok sorted => sorted.map Prod.snd
  | .error e => nomatch e

/-- The texts of a mapping from those of its entries, each with its key. -/
def mappingForms (entries : List (Value × Forms)) : Forms :=
  Forms.mapping (entries.map Prod.snd) (layoutOrder entries)

/-- The texts of a model from those of its attributes; a field without one is null. -/
def modelForms (kind : ModelKind) (attrs : List (String × Forms)) : Forms :=
  Forms.model (mappingForms (kind.fields.map fun f ↦
    (text f.wireName,
      Forms.entry (.text f.wireName) ((attrs.reverse.lookup f.name).getD (.leaf "None")))))

mutual

/-- The texts of a value; `onRef` shows a reference to an enclosing container. -/
def formsWith (onRef : Nat → String) : Value → Forms
  | list items => let forms := formsOfItems onRef items; Forms.group "[" "]" forms forms
  | tuple items =>
    let forms := formsOfItems onRef items
    Forms.group "(" (if items.length = 1 then ",)" else ")") forms forms
  | set [] => .leaf "set()"
  | set items =>
    let forms := formsOfItems onRef items
    Forms.group "\x7b" "\x7d" forms (layoutOrder (items.zip forms))
  | map entries => mappingForms (formsOfEntries onRef entries)
  | view entries => Forms.view (mappingForms (formsOfEntries onRef entries))
  | model kind attrs => modelForms kind (formsOfAttrs onRef attrs)
  | member value => .leaf ("<E.A: " ++ (formsWith onRef value).literal ++ ">")
  | text s => .text s
  | bytes bs => .bytes bs
  | ref n => .leaf (onRef n)
  | v => .leaf (scalarLiteral v)

/-- The texts of the elements of a sequence. -/
def formsOfItems (onRef : Nat → String) : List Value → List Forms
  | [] => []
  | x :: xs => formsWith onRef x :: formsOfItems onRef xs

/-- The texts of the entries of a mapping, each with its key. -/
def formsOfEntries (onRef : Nat → String) : List (Value × Value) → List (Value × Forms)
  | [] => []
  | (k, v) :: rest =>
    (k, Forms.entry (formsWith onRef k) (formsWith onRef v)) :: formsOfEntries onRef rest

def formsOfAttrs (onRef : Nat → String) : List (String × Value) → List (String × Forms)
  | [] => []
  | (name, v) :: rest => (name, formsWith onRef v) :: formsOfAttrs onRef rest

end

/-- The form inside another value; `onRef` shows a reference to an enclosing container. -/
def literalWith (onRef : Nat → String) (v : Value) : String := (formsWith onRef v).literal

/-- The containers that contain themselves, by number. -/
abbrev Cells := List (Nat × Value)

/-- The container behind a reference; any other value is itself. -/
def resolve (cells : Cells) : Value → Value
  | ref n => (cells.lookup n).getD (list [])
  | v => v

/-- A container inside itself. -/
def ellipsis : Value → String
  | map _ => "\x7b...\x7d"
  | _ => "[...]"

/-- The form inside another value, where the containers in `shown` are being shown already; `fuel`
bounds the number of containers that can be entered by reference. -/
def literalIn (cells : Cells) : Nat → List Nat → Value → String
  | 0, _, v => literalWith (fun n ↦ ellipsis (resolve cells (ref n))) v
  | fuel + 1, shown, v =>
    literalWith (fun n ↦
      if shown.contains n then ellipsis (resolve cells (ref n))
      else literalIn cells fuel (n :: shown) (resolve cells (ref n))) v

/-- The form inside another value. -/
def literal (cells : Cells) (v : Value) : String := literalIn cells cells.length [] v

/-- The form on its own. -/
def display (cells : Cells) : Value → String
  | text s => s
  | date d => d.iso
  | datetime t => t.text
  | decimal d => d.text
  | uuid s => s
  | secret s => if s.isEmpty then "" else "**********"
  | member _ => "E.A"
  | v => literal cells v

/-! ## Numbers of too many digits -/

mutual

/-- Whether a value holds a number of too many digits; `onRef` tells that of a reference. -/
def hasLongWith (onRef : Nat → Bool) : Value → Bool
  | int n => (intText? n).isNone
  | list items => hasLongItem onRef items
  | tuple items => hasLongItem onRef items
  | set items => hasLongItem onRef items
  | map entries => hasLongEntry onRef entries
  | view entries => hasLongEntry onRef entries
  | member value => hasLongWith onRef value
  | ref n => onRef n
  | _ => false

/-- Whether one of some values holds a number of too many digits. -/
def hasLongItem (onRef : Nat → Bool) : List Value → Bool
  | [] => false
  | x :: xs => hasLongWith onRef x || hasLongItem onRef xs

/-- Whether one of some entries holds a number of too many digits. -/
def hasLongEntry (onRef : Nat → Bool) : List (Value × Value) → Bool
  | [] => false
  | (k, v) :: rest => hasLongWith onRef k || hasLongWith onRef v || hasLongEntry onRef rest

end

/-- Whether a value holds a number of too many digits, where the containers in `shown` are looked at
already; `fuel` bounds the number of containers that can be entered by reference. -/
def hasLongIn (cells : Cells) : Nat → List Nat → Value → Bool
  | 0, _, v => hasLongWith (fun _ ↦ false) v
  | fuel + 1, shown, v =>
    hasLongWith (fun n ↦
      !shown.contains n && hasLongIn cells fuel (n :: shown) (resolve cells (ref n))) v

/-- The form on its own, of a value without numbers of too many digits. -/
def display? (cells : Cells) (v : Value) : Option String :=
  if hasLongIn cells cells.length [] v then none else some (display cells v)

@[simp] theorem display?_text (cells : Cells) (s : String) :
    display? cells (text s) = some s := by
  have h : ∀ fuel shown, hasLongIn cells fuel shown (text s) = false := by
    intro fuel shown
    cases fuel <;> simp [hasLongIn, hasLongWith]
  simp [display?, h, display]

@[simp] theorem display_text (cells : Cells) (s : String) : display cells (text s) = s := rfl

end Value

end GatewayPrint
