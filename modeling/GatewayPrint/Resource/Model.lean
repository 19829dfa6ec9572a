import GatewayPrint.Value.Basic

/-!
# Kubernetes models

The fields of each class of model in the order of its wire form, with the names they have there and
what they hold, and the making of models from named values: a mapping where a model belongs becomes
that model, a sequence becomes a list, and a time may be given as text or as seconds since 1970.
-/

namespace GatewayPrint

namespace Model

/-- What a field holds. -/
inductive FieldType where
  | plain
  | time
  | model (kind : ModelKind)
  | models (kind : ModelKind)
  | items
  | mapping
deriving DecidableEq, Repr, Inhabited

/-- A field: its attribute name, its name in the wire form, and what it holds. -/
structure Field where
  name : String
  wireName : String
  type : FieldType
deriving DecidableEq, Repr, Inhabited

/-- A field whose wire name is its attribute name. -/
def same (name : String) (type : FieldType := .plain) : Field := ⟨name, name, type⟩

/-- A field with a wire name of its own. -/
def renamed (name wireName : String) (type : FieldType := .plain) : Field := ⟨name, wireName, type⟩

/-- The fields of a resource with a specification and a status. -/
def resourceFields (spec status : ModelKind) : List Field :=
  [renamed "api_version" "apiVersion", same "kind", same "metadata" (.model .objectMeta),
    same "spec" (.model spec), same "status" (.model status)]

end Model

open Model (same renamed) in
/-- The fields of a class of models, in the order of the wire form. -/
def ModelKind.fields : ModelKind → List Model.Field
  | .namespace => Model.resourceFields .namespaceSpec .namespaceStatus
  | .ingress => Model.resourceFields .ingressSpec .ingressStatus
  | .objectMeta =>
    [same "annotations" .mapping, renamed "creation_timestamp" "creationTimestamp" .time,
      renamed "deletion_grace_period_seconds" "deletionGracePeriodSeconds",
      renamed "deletion_timestamp" "deletionTimestamp" .time, same "finalizers" .items,
      renamed "generate_name" "generateName", same "generation", same "labels" .mapping,
      renamed "managed_fields" "managedFields" (.models .managedFieldsEntry), same "name",
      same "namespace", renamed "owner_references" "ownerReferences" (.models .ownerReference),
      renamed "resource_version" "resourceVersion", renamed "self_link" "selfLink", same "uid"]
  | .ownerReference =>
    [renamed "api_version" "apiVersion", renamed "block_owner_deletion" "blockOwnerDeletion",
      same "controller", same "kind", same "name", same "uid"]
  | .ingressSpec =>
    [renamed "default_backend" "defaultBackend" (.model .ingressBackend),
      renamed "ingress_class_name" "ingressClassName", same "rules" (.models .ingressRule),
      same "tls" (.models .ingressTLS)]
  | .ingressRule => [same "host", same "http" (.model .httpIngressRuleValue)]
  | .httpIngressRuleValue => [same "paths" (.models .httpIngressPath)]
  | .httpIngressPath =>
    [same "backend" (.model .ingressBackend), same "path", renamed "path_type" "pathType"]
  | .ingressBackend =>
    [same "resource" (.model .typedLocalObjectReference),
      same "service" (.model .ingressServiceBackend)]
  | .ingressServiceBackend => [same "name", same "port" (.model .serviceBackendPort)]
  | .serviceBackendPort => [same "name", same "number"]
  | .ingressTLS => [same "hosts" .items, renamed "secret_name" "secretName"]
  | .typedLocalObjectReference => [renamed "api_group" "apiGroup", same "kind", same "name"]
  | .configMap =>
    [renamed "api_version" "apiVersion", renamed "binary_data" "binaryData" .mapping,
      same "data" .mapping, same "immutable", same "kind", same "metadata" (.model .objectMeta)]
  | .namespaceSpec => [same "finalizers" .items]
  | .namespaceStatus => [same "conditions" (.models .namespaceCondition), same "phase"]
  | .namespaceCondition =>
    [renamed "last_transition_time" "lastTransitionTime" .time, same "message", same "reason",
      same "status", same "type"]
  | .ingressStatus => [renamed "load_balancer" "loadBalancer" (.model .ingressLoadBalancerStatus)]
  | .ingressLoadBalancerStatus => [same "ingress" (.models .ingressLoadBalancerIngress)]
  | .ingressLoadBalancerIngress =>
    [same "hostname", same "ip", same "ports" (.models .ingressPortStatus)]
  | .ingressPortStatus => [same "error", same "port", same "protocol"]
  | .managedFieldsEntry =>
    [renamed "api_version" "apiVersion", renamed "fields_type" "fieldsType",
      renamed "fields_v1" "fieldsV1" .mapping, same "manager", same "operation",
      same "subresource", same "time" .time]

namespace Model

def kinds : List ModelKind :=
  [.namespace, .ingress, .objectMeta, .ownerReference, .ingressSpec, .ingressRule,
    .httpIngressRuleValue, .httpIngressPath, .ingressBackend, .ingressServiceBackend,
    .serviceBackendPort, .ingressTLS, .typedLocalObjectReference, .configMap, .namespaceSpec,
    .namespaceStatus, .namespaceCondition, .ingressStatus, .ingressLoadBalancerStatus,
    .ingressLoadBalancerIngress, .ingressPortStatus, .managedFieldsEntry]

def kindOf? (name : String) : Option ModelKind := kinds.find? fun k ↦ k.name == name

/-- Null, which a wire form leaves out. -/
def isNull : Value → Bool
  | .null => true
  | _ => false

/-- The fields among some named things, under their wire names and in the order of the class; of two
things with one name the last one counts. -/
def wire {α : Type} (kind : ModelKind) (named : List (String × α)) : List (String × α) :=
  kind.fields.filterMap fun f ↦ (named.reverse.lookup f.name).map fun x ↦ (f.wireName, x)

/-! ## Making models -/

/-- The field of a class that goes by a name in the wire form or as an attribute. -/
def fieldNamed? (kind : ModelKind) (name : String) : Option Field :=
  (kind.fields.find? fun f ↦ f.wireName == name) <|> (kind.fields.find? fun f ↦ f.name == name)

def timeOf (v : Value) : Value :=
  match v with
  | .text s => ((DateTime.ofIso? s).map Value.datetime).getD v
  | .date d => .datetime ⟨d, 0, 0, 0, 0, none⟩
  | .int n => ((DateTime.ofEpoch? n).map Value.datetime).getD v
  | v => v

mutual

/-- A value as what a field holds; one that does not suit the field stays as it is. -/
def convert (type : FieldType) : Value → Value
  | .map entries =>
    match type with
    | .model kind => .model kind (convertEntries kind entries)
    | _ => .map entries
  | .view entries =>
    match type with
    | .mapping => .map entries
    | _ => .view entries
  | .list items =>
    match type with
    | .models kind => .list (convertItems (.model kind) items)
    | _ => .list items
  | .tuple items =>
    match type with
    | .models kind => .list (convertItems (.model kind) items)
    | .items => .list items
    | _ => .tuple items
  | v => if type = .time then timeOf v else v

/-- Values as what a field holds. -/
def convertItems (type : FieldType) : List Value → List Value
  | [] => []
  | x :: xs => convert type x :: convertItems type xs

/-- The attributes of a model from entries; a name that no field has counts for nothing. -/
def convertEntries (kind : ModelKind) : List (Value × Value) → List (String × Value)
  | [] => []
  | (.text name, v) :: rest =>
    match fieldNamed? kind name with
    | some f => (f.name, convert f.type v) :: convertEntries kind rest
    | none => convertEntries kind rest
  | (_, _) :: rest => convertEntries kind rest

end

def build (kind : ModelKind) (named : List (String × Value)) : Value :=
  .model kind (convertEntries kind (named.map fun e ↦ (.text e.1, e.2)))

end Model

end GatewayPrint
