import MeshControl.Config.Message
import MeshControl.Rule.Fault

/-!
Route rules: traffic for a destination, optionally only the requests that meet a condition, is
spread over weighted versions of one or more services.
-/
namespace MeshControl

structure WeightedDestination where
  /-- The destination of the rule if none is given. -/
  destination : Option String
  tags : Tags
  weight : Int
deriving DecidableEq, Inhabited

/-- How long a request may take, in seconds. -/
structure RequestTimeout where
  simple : Option Float
deriving BEq, Inhabited

structure Retry where
  attempts : Int
  perTrySeconds : Float
deriving BEq, Inhabited

structure RequestRetry where
  simple : Option Retry
deriving BEq, Inhabited

structure RouteRule where
  name : String
  destination : String
  /-- Rules with higher precedence come first. -/
  precedence : Int
  condition : Option MatchCondition
  routes : List WeightedDestination
  timeout : Option RequestTimeout
  retries : Option RequestRetry
  requestFault : Option RequestFault
  connectionFault : Option ConnectionFault
deriving BEq, Inhabited

namespace WeightedDestination

/-- The weight in effect among `count` destinations: a lone one without a weight gets all. -/
def effectiveWeight (w : WeightedDestination) (count : Nat) : Int :=
  if count = 1 ∧ w.weight = 0 then 100 else w.weight

def validate (w : WeightedDestination) : Problems :=
  (match w.destination with
    | some d => Validation.fqdn d
    | none => []) ++
  w.tags.validate ++
  problemIf (!(0 ≤ w.weight && w.weight ≤ 100)) s!"weight {w.weight} must be in range 0..100"

def json (w : WeightedDestination) : Json :=
  Json.object [
    Json.optional "destination" (w.destination.map .str),
    Json.onlyIf (!w.tags.isEmpty) "tags" w.tags.json,
    Json.field "weight" (.int w.weight)]

def decode {δ : Type} [Source δ] (d : δ) : Decoded WeightedDestination := do
  let r ← Decode.record ["destination", "tags", "weight"] d
  let destination ← r.optional "destination" Decode.text
  let tags ← r.withDefault "tags" Tags.empty Tags.decode
  let weight ← r.withDefault "weight" 0 Decode.int32
  return ⟨destination, tags, weight⟩

end WeightedDestination

namespace RequestTimeout

def validate (t : RequestTimeout) : Problems :=
  problemIf (t.simple.any (· < 0.0)) "timeout must not be negative"

def json (t : RequestTimeout) : Json :=
  Json.object [
    Json.optional "simpleTimeout" (t.simple.map fun s => .obj [("timeoutSeconds", .double s)])]

def decodeSeconds {δ : Type} [Source δ] (d : δ) : Decoded Float := do
  let r ← Decode.record ["timeoutSeconds"] d
  r.required "timeoutSeconds" Decode.number

def decode {δ : Type} [Source δ] (d : δ) : Decoded RequestTimeout := do
  let r ← Decode.record ["simpleTimeout"] d
  let simple ← r.optional "simpleTimeout" decodeSeconds
  return ⟨simple⟩

end RequestTimeout

namespace Retry

def validate (r : Retry) : Problems :=
  problemIf (r.attempts < 0) "retry attempts must not be negative" ++
    problemIf (r.perTrySeconds < 0.0) "per-try timeout must not be negative"

def json (r : Retry) : Json :=
  .obj [("attempts", .int r.attempts), ("perTryTimeoutSeconds", .double r.perTrySeconds)]

def decode {δ : Type} [Source δ] (d : δ) : Decoded Retry := do
  let r ← Decode.record ["attempts", "perTryTimeoutSeconds"] d
  let attempts ← r.required "attempts" Decode.int32
  let perTrySeconds ← r.withDefault "perTryTimeoutSeconds" 0.0 Decode.number
  return ⟨attempts, perTrySeconds⟩

end Retry

namespace RequestRetry

def validate (r : RequestRetry) : Problems := (r.simple.map Retry.validate).getD []

def json (r : RequestRetry) : Json :=
  Json.object [Json.optional "simpleRetry" (r.simple.map Retry.json)]

def decode {δ : Type} [Source δ] (d : δ) : Decoded RequestRetry := do
  let r ← Decode.record ["simpleRetry"] d
  let simple ← r.optional "simpleRetry" Retry.decode
  return ⟨simple⟩

end RequestRetry

namespace RouteRule

/-- A rule without conditions on headers matches every request. -/
def matchesAll (r : RouteRule) : Bool := r.condition.all (·.headers.isEmpty)

/-- The sum of two 32-bit numbers, if it is one itself. -/
def checkedAdd (a b : Int) : Except Overflow Int :=
  if Int32.minValue.toInt ≤ a + b ∧ a + b ≤ Int32.maxValue.toInt then .ok (a + b) else .error ⟨⟩

def effectiveWeights (routes : List WeightedDestination) : List Int :=
  routes.map (·.effectiveWeight routes.length)

/-- The sum of the weights, taken one by one, if it stays in 32 bits all the way. -/
def totalWeight (routes : List WeightedDestination) : Except Overflow Int :=
  (effectiveWeights routes).foldlM checkedAdd 0

/-- Weights are added up also where they are out of range themselves. -/
def validateRoutes (routes : List WeightedDestination) : Verdict :=
  if routes.isEmpty then .ok []
  else (totalWeight routes).map fun total =>
    routes.flatMap WeightedDestination.validate ++
      problemIf (total != 100) s!"route weights total {total} (must total 100)"

/-- The problems of everything but the name. -/
def validateBody (r : RouteRule) : Verdict :=
  (validateRoutes r.routes).map fun routeProblems =>
    Validation.fqdn r.destination ++
    (r.condition.map MatchCondition.validate).getD [] ++
    routeProblems ++
    (r.timeout.map RequestTimeout.validate).getD [] ++
    (r.retries.map RequestRetry.validate).getD [] ++
    (r.requestFault.map RequestFault.validate).getD [] ++
    (r.connectionFault.map ConnectionFault.validate).getD []

def nameProblems (name : String) : Problems :=
  problemIf (!Validation.isLabel name) s!"invalid rule name: {Text.quote name}"

def validate (r : RouteRule) : Verdict := r.validateBody.map (nameProblems r.name ++ ·)

/-! ### What was looked at where no problem was found -/

theorem of_validateRoutes {routes : List WeightedDestination}
    (h : validateRoutes routes = .ok []) (hne : routes ≠ []) :
    (∀ w ∈ routes, w.validate = []) ∧ totalWeight routes = .ok 100 := by
  unfold validateRoutes at h
  rw [if_neg (by simpa using hne)] at h
  obtain ⟨total, htotal, hproblems⟩ := exists_of_map_eq_ok h
  obtain ⟨hall, hhundred⟩ := List.append_eq_nil_iff.mp hproblems
  obtain rfl : total = 100 := by simpa using hhundred
  exact ⟨List.flatMap_eq_nil_iff.mp hall, htotal⟩

theorem of_validateBody {r : RouteRule} (h : r.validateBody = .ok []) :
    Validation.fqdn r.destination = [] ∧ validateRoutes r.routes = .ok [] := by
  obtain ⟨routeProblems, hroutes, hproblems⟩ := exists_of_map_eq_ok h
  simp only [List.append_eq_nil_iff] at hproblems
  obtain ⟨⟨⟨⟨⟨⟨hdestination, -⟩, rfl⟩, -⟩, -⟩, -⟩, -⟩ := hproblems
  exact ⟨hdestination, hroutes⟩

theorem validateBody_of_validate {r : RouteRule} (h : r.validate = .ok []) :
    r.validateBody = .ok [] := by
  obtain ⟨bodyProblems, hbody, hproblems⟩ := exists_of_map_eq_ok h
  rwa [(List.append_eq_nil_iff.mp hproblems).2] at hbody

/-! ### Text -/

def fields (r : RouteRule) : List (Option (String × Json)) := [
  Json.field "name" (.str r.name),
  Json.field "destination" (.str r.destination),
  Json.field "precedence" (.int r.precedence),
  Json.optional "match" (r.condition.map MatchCondition.json),
  Json.onlyIf (!r.routes.isEmpty) "route" (.arr (r.routes.map WeightedDestination.json)),
  Json.optional "httpReqTimeout" (r.timeout.map RequestTimeout.json),
  Json.optional "httpReqRetries" (r.retries.map RequestRetry.json),
  Json.optional "httpFault" (r.requestFault.map RequestFault.json),
  Json.optional "l4Fault" (r.connectionFault.map ConnectionFault.json)]

def fieldNames : List String :=
  ["name", "destination", "precedence", "match", "route", "httpReqTimeout", "httpReqRetries",
    "httpFault", "l4Fault"]

def ofRecord {δ : Type} [Source δ] (r : Decode.Record δ) : Decoded RouteRule := do
  let name ← r.required "name" Decode.text
  let destination ← r.required "destination" Decode.text
  let precedence ← r.withDefault "precedence" 0 Decode.int32
  let condition ← r.optional "match" MatchCondition.decode
  let routes ← r.withDefault "route" [] (Decode.list WeightedDestination.decode)
  let timeout ← r.optional "httpReqTimeout" RequestTimeout.decode
  let retries ← r.optional "httpReqRetries" RequestRetry.decode
  let requestFault ← r.optional "httpFault" RequestFault.decode
  let connectionFault ← r.optional "l4Fault" ConnectionFault.decode
  return ⟨name, destination, precedence, condition, routes, timeout, retries, requestFault,
    connectionFault⟩

def decode {δ : Type} [Source δ] (d : δ) : Decoded RouteRule := do
  ofRecord (← Decode.record fieldNames d)

instance : Config.Spec RouteRule where
  messageName := "pilot.v1.RouteRule"
  decode j := decode j
  encode r := (Json.object r.fields).normalize
  key := RouteRule.name
  validate := RouteRule.validate

end RouteRule

end MeshControl
