import GatewayPrint.Number.Calendar
import GatewayPrint.Text.Quoted

/-!
# Values

The data that resources, kubeconfig documents and printed manifests are made of: scalars, sequences,
sets and mappings, and the richer objects that a conversion engine may hand to a printer. A mapping
keeps the order in which its keys were first written.
-/

namespace GatewayPrint

/-- The classes of Kubernetes models that have a wire form of their own. -/
inductive ModelKind where
  | namespace
  | ingress
  | objectMeta
  | ownerReference
  | ingressSpec
  | ingressRule
  | httpIngressRuleValue
  | httpIngressPath
  | ingressBackend
  | ingressServiceBackend
  | serviceBackendPort
  | ingressTLS
  | typedLocalObjectReference
  | configMap
  | namespaceSpec
  | namespaceStatus
  | namespaceCondition
  | ingressStatus
  | ingressLoadBalancerStatus
  | ingressLoadBalancerIngress
  | ingressPortStatus
  | managedFieldsEntry
deriving DecidableEq, Repr, Inhabited

/-- A value. The constructors up to `map` are plain data; the others are objects that an engine can
hand over, and `ref`, the place of a container that contains itself. -/
inductive Value where
  | null
  | bool (b : Bool)
  | int (n : Int)
  | float (x : Double)
  | text (s : String)
  | bytes (bs : List UInt8)
  | date (d : Date)
  | datetime (t : DateTime)
  | list (items : List Value)
  | tuple (items : List Value)
  | set (items : List Value)
  | map (entries : List (Value × Value))
  | decimal (d : Decimal)
  | uuid (s : String)
  | secret (s : String)
  /-- A member of an enumeration, with the value it stands for. -/
  | member (value : Value)
  /-- A read-only mapping. -/
  | view (entries : List (Value × Value))
  /-- An object with attributes; `declared` when its class declares the types of an API. -/
  | record (declared : Bool) (attrs : List (String × Value))
  /-- An object of a declared class that exports itself as another value. -/
  | exporting (value : Value)
  /-- A Kubernetes model. -/
  | model (kind : ModelKind) (attrs : List (String × Value))
  /-- The container with this number, inside that container. -/
  | ref (n : Nat)
deriving Repr, Inhabited

/-! ## Names of kinds -/

def ModelKind.name : ModelKind → String
  | .namespace => "V1Namespace"
  | .ingress => "V1Ingress"
  | .objectMeta => "V1ObjectMeta"
  | .ownerReference => "V1OwnerReference"
  | .ingressSpec => "V1IngressSpec"
  | .ingressRule => "V1IngressRule"
  | .httpIngressRuleValue => "V1HTTPIngressRuleValue"
  | .httpIngressPath => "V1HTTPIngressPath"
  | .ingressBackend => "V1IngressBackend"
  | .ingressServiceBackend => "V1IngressServiceBackend"
  | .serviceBackendPort => "V1ServiceBackendPort"
  | .ingressTLS => "V1IngressTLS"
  | .typedLocalObjectReference => "V1TypedLocalObjectReference"
  | .configMap => "V1ConfigMap"
  | .namespaceSpec => "V1NamespaceSpec"
  | .namespaceStatus => "V1NamespaceStatus"
  | .namespaceCondition => "V1NamespaceCondition"
  | .ingressStatus => "V1IngressStatus"
  | .ingressLoadBalancerStatus => "V1IngressLoadBalancerStatus"
  | .ingressLoadBalancerIngress => "V1IngressLoadBalancerIngress"
  | .ingressPortStatus => "V1IngressPortStatus"
  | .managedFieldsEntry => "V1ManagedFieldsEntry"

namespace Value

def kindName : Value → String
  | null => "NoneType"
  | bool _ => "bool"
  | int _ => "int"
  | float _ => "float"
  | text _ => "str"
  | bytes _ => "bytes"
  | date _ => "date"
  | datetime _ => "datetime"
  | list _ => "list"
  | tuple _ => "tuple"
  | set _ => "set"
  | map _ => "dict"
  | decimal _ => "Decimal"
  | uuid _ => "UUID"
  | secret _ => "SecretStr"
  | member _ => "E"
  | view _ => "mappingproxy"
  | record declared _ => if declared then "Duck" else "Plain"
  | exporting _ => "Duck"
  | model kind _ => kind.name
  | ref _ => "list"

/-- The name of the kind with the module of a library kind. -/
def qualifiedKind (v : Value) : String :=
  match v with
  | date _ => "datetime.date"
  | datetime _ => "datetime.datetime"
  | decimal _ => "decimal.Decimal"
  | v => v.kindName

/-! ## Presence -/

/-- A value counts as present unless it is null, false, zero or empty. -/
def truthy : Value → Bool
  | null => false
  | bool b => b
  | int n => n != 0
  | float x => !x.isZero
  | text s => !s.isEmpty
  | bytes bs => !bs.isEmpty
  | list items => !items.isEmpty
  | tuple items => !items.isEmpty
  | set items => !items.isEmpty
  | map entries => !entries.isEmpty
  | view entries => !entries.isEmpty
  | decimal d => !d.isZero
  | secret s => !s.isEmpty
  | _ => true

/-! ## Equality and order -/

/-- A number of any kind as an exact decimal. -/
def decimal? : Value → Option Decimal
  | bool b => some (.ofInt (if b then 1 else 0))
  | int n => some (.ofInt n)
  | float x => some x.decimal
  | decimal d => some d
  | _ => none

/-- Two numbers as numbers, whatever their kinds; `none` when one of the values is no number. -/
def compareNumbers? (v w : Value) : Option Ordering := do (← v.decimal?).compare? (← w.decimal?)

/-- Equality of values that hold no other values. -/
def sameScalar : Value → Value → Bool
  | null, null => true
  | text s, text t => s == t
  | bytes s, bytes t => s == t
  | date d, date e => d == e
  | datetime t, datetime u => t.sameMoment u
  | uuid s, uuid t => s == t
  | secret s, secret t => s == t
  | int m, int n => m == n
  | v, w => v.compareNumbers? w == some .eq

mutual

/-- Equality across kinds: numbers compare by value, sequences of one kind element by element, sets
and mappings without regard to order. -/
def same : Value → Value → Bool
  | list xs, list ys => sameItems xs ys
  | tuple xs, tuple ys => sameItems xs ys
  | set xs, set ys => xs.length == ys.length && within xs ys
  | map xs, map ys => xs.length == ys.length && entriesWithin xs ys
  | v, w => sameScalar v w

/-- Equality element by element. -/
def sameItems : List Value → List Value → Bool
  | [], [] => true
  | x :: xs, y :: ys => same x y && sameItems xs ys
  | _, _ => false

/-- Each element of the first list equals one of the second. -/
def within : List Value → List Value → Bool
  | [], _ => true
  | x :: xs, ys => ys.any (fun y ↦ same x y) && within xs ys

/-- Each entry of the first list equals one of the second. -/
def entriesWithin : List (Value × Value) → List (Value × Value) → Bool
  | [], _ => true
  | (k, v) :: xs, ys => ys.any (fun e ↦ same k e.1 && same v e.2) && entriesWithin xs ys

end

/-- Why two values have no order. -/
inductive OrderFault where
  /-- Their kinds have none. -/
  | unordered
  /-- One is an exact decimal, and one is NaN. -/
  | notANumber
deriving DecidableEq, Repr

def isDecimal : Value → Bool
  | decimal _ => true
  | _ => false

/-- Whether one number comes before another. A NaN that meets an exact decimal is an error; among
other numbers it comes before none, and none before it. -/
def lessNumber (v w : Value) : Except OrderFault Bool :=
  match v.decimal?, w.decimal? with
  | some d, some e =>
    match d.compare? e with
    | some o => .ok (o == .lt)
    | none => if v.isDecimal || w.isDecimal then .error .notANumber else .ok false
  | _, _ => .error .unordered

mutual

/-- Whether one value comes before another. -/
def less : Value → Value → Except OrderFault Bool
  | text s, text t => .ok (decide (Text.codePoints s < Text.codePoints t))
  | bytes s, bytes t => .ok (decide (s < t))
  | date d, date e => .ok (decide (d.ordinal < e.ordinal))
  | datetime t, datetime u =>
    if t.offset.isSome == u.offset.isSome then .ok (decide (t.instant < u.instant))
    else .error .unordered
  | uuid s, uuid t => .ok (decide (s < t))
  | list xs, list ys => lessItems xs ys
  | tuple xs, tuple ys => lessItems xs ys
  | v, w => lessNumber v w

/-- The order of sequences, decided by the first elements that differ. -/
def lessItems : List Value → List Value → Except OrderFault Bool
  | [], [] => .ok false
  | [], _ :: _ => .ok true
  | _ :: _, [] => .ok false
  | x :: xs, y :: ys => if same x y then lessItems xs ys else less x y

end

/-! ## Mappings -/

/-- The entries after writing `v` under `k`: a key that is there keeps its place and spelling. -/
def insert (k v : Value) : List (Value × Value) → List (Value × Value)
  | [] => [(k, v)]
  | e :: rest => if same e.1 k then (e.1, v) :: rest else e :: insert k v rest

/-- The entries of the mapping that results from writing the given ones in order. -/
def collect (entries : List (Value × Value)) : List (Value × Value) :=
  entries.foldl (fun done e ↦ insert e.1 e.2 done) []

/-- The mapping that results from writing the given entries in order. -/
def mapOf (entries : List (Value × Value)) : Value := map (collect entries)

/-- The value under a text key. -/
def lookup (key : String) : List (Value × Value) → Option Value
  | [] => none
  | (text k, v) :: rest => if k = key then some v else lookup key rest
  | _ :: rest => lookup key rest

/-- The value under a text key of a mapping. -/
def get? (v : Value) (key : String) : Option Value :=
  match v with
  | map entries => lookup key entries
  | _ => none

@[simp] theorem insert_nil (k v : Value) : insert k v [] = [(k, v)] := rfl

@[simp] theorem lookup_nil (key : String) : lookup key [] = none := rfl

@[simp] theorem collect_nil : collect [] = [] := rfl

end Value

end GatewayPrint
