import MeshControl.Rule.Route
import MeshControl.Service

/-!
Ingress rules: a port of a mesh service shown through the ingress proxy. Condition and routes
mean what they mean in a route rule.
-/
namespace MeshControl

structure IngressRule where
  rule : RouteRule
  portName : Option String
  portNumber : Option Nat
  /-- The name of the secret with the key pair of this host. -/
  secret : Option String
deriving BEq, Inhabited

/-- A port of a service by its name or by its number. -/
inductive PortRef where
  | name (s : String)
  | number (n : Nat)
deriving DecidableEq, Repr

namespace PortRef

def find? (p : PortRef) (ports : List Port) : Option Port :=
  match p with
  | name s => Port.findName? ports s
  | number n => Port.findNumber? ports n

end PortRef

namespace IngressRule

/-- The port the rule names, if it names it in exactly one way. -/
def servicePort (r : IngressRule) : Option PortRef :=
  match r.portName, r.portNumber with
  | some name, none => some (.name name)
  | none, some n => some (.number n)
  | _, _ => none

def portProblems (r : IngressRule) : Problems :=
  match r.servicePort with
  | some (.name s) =>
    problemIf (!Validation.isLabel s) s!"invalid destination port name: {Text.quote s}"
  | some (.number n) => problemIf (n == 0) "destination port 0 is out of range"
  | none => ["exactly one of destination port name or number is required"]

def validate (r : IngressRule) : Verdict :=
  r.rule.validateBody.map fun bodyProblems =>
    RouteRule.nameProblems r.rule.name ++ bodyProblems ++ r.portProblems ++
      problemIf (r.secret.any String.isEmpty) "TLS secret name must not be empty"

theorem validateBody_of_validate {r : IngressRule} (h : r.validate = .ok []) :
    r.rule.validateBody = .ok [] := by
  obtain ⟨bodyProblems, hbody, hproblems⟩ := exists_of_map_eq_ok h
  simp only [List.append_eq_nil_iff] at hproblems
  obtain ⟨⟨⟨-, rfl⟩, -⟩, -⟩ := hproblems
  exact hbody

def json (r : IngressRule) : Json :=
  Json.object (r.rule.fields ++ [
    Json.optional "destinationServicePortName" (r.portName.map .str),
    Json.optional "destinationServicePort" (r.portNumber.map .nat),
    Json.optional "tlsSecret" (r.secret.map .str)])

def ownFieldNames : List String :=
  ["destinationServicePortName", "destinationServicePort", "tlsSecret"]

/-- The fields of the route rule and those of the ingress rule stand side by side. -/
def decode {δ : Type} [Source δ] (d : δ) : Decoded IngressRule := do
  let r ← Decode.namedRecord (RouteRule.fieldNames ++ ownFieldNames) d
  let rule ← RouteRule.ofRecord r
  let portName ← r.optional "destinationServicePortName" Decode.text
  let portNumber ← r.optional "destinationServicePort" (Decode.natBits 16)
  let secret ← r.optional "tlsSecret" Decode.text
  return ⟨rule, portName, portNumber, secret⟩

instance : Config.Spec IngressRule where
  messageName := "pilot.v1.IngressRule"
  decode j := decode j
  encode r := r.json.normalize
  key r := r.rule.name
  validate := IngressRule.validate

end IngressRule

end MeshControl
