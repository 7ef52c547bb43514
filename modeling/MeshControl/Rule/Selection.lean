import MeshControl.Config.Store
import MeshControl.Rule.Ingress
import MeshControl.Rule.Policy
import MeshControl.Service

/-!
Rules and policies picked from a store of configuration. Records that cannot be read as what
they should be are passed over, and a list that fails counts as empty.
-/
namespace MeshControl.Rule

open Config

def routeRuleType : String := "route-rule"

def ingressRuleType : String := "ingress-rule"

def destinationPolicyType : String := "destination-policy"

/-- The types of configuration that the mesh uses. -/
def catalog : Catalog := [
  .of RouteRule routeRuleType "route-rules",
  .of IngressRule ingressRuleType "ingress-rules",
  .of DestinationPolicy destinationPolicyType "destination-policies"]

variable {σ : Type} [Store σ]

/-- The objects of one type that can be read. -/
def listOf (α : Type) [Spec α] (type : String) (s : σ) : List α × σ :=
  match Store.list s type with
  | (.ok records, s) => (records.filterMap fun r => r.content.decode? α, s)
  | (.error _, s) => ([], s)

def routeRules (s : σ) : List RouteRule × σ := listOf RouteRule routeRuleType s

def ingressRules (s : σ) : List IngressRule × σ := listOf IngressRule ingressRuleType s

def destinationPolicies (s : σ) : List DestinationPolicy × σ :=
  listOf DestinationPolicy destinationPolicyType s

/-- The policy for the version of a destination with exactly these tags. -/
def versionPolicy? (s : σ) (destination : String) (tags : Tags) : Option VersionPolicy := do
  let (content, _) ← Store.get s destinationPolicyType destination
  let policy ← content.decode? DestinationPolicy
  policy.version? tags

/-- Whether traffic from an instance meets the condition on its source. -/
def sourceMatches (m : MatchCondition) (i : Instance) : Bool :=
  m.source.all (· == i.service.hostname) && m.sourceTags.subsetOf i.tags

def appliesFrom (instances : List Instance) (r : RouteRule) : Bool :=
  match r.condition with
  | none => true
  | some m => instances.any (sourceMatches m)

/-- Rules in falling precedence; rules of one precedence keep their order. -/
def byPrecedence {α : Type} (precedence : α → Int) (l : List α) : List α :=
  l.mergeSort fun a b => decide (precedence b ≤ precedence a)

/-- The rules for traffic that comes from any of the instances, highest precedence first. -/
def fromSource (instances : List Instance) (rules : List RouteRule) : List RouteRule :=
  byPrecedence RouteRule.precedence (rules.filter (appliesFrom instances))

end MeshControl.Rule
