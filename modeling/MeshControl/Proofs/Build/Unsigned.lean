import MeshControl.Build.Settings
import MeshControl.Proofs.Rule.Unsigned

/-!
Settings do not show the signs of zeros. Times count only if they are positive, and percentages are
cut to whole numbers, so rules and policies may lose the signs of their zeros before settings are
built from them.
-/
namespace MeshControl

/-- A sign is lost on the negative zero only. -/
theorem congr_unsigned {α : Type} {f : Float → α} (h : f 0 = f (-0)) (x : Float) :
    f (unsigned x) = f x := by
  by_cases hzero : (x == 0) = true
  · rw [unsigned, if_pos hzero]
    obtain ⟨-, -, rfl | ⟨-, hfalse⟩ | ⟨rfl, -⟩⟩ := Float.beq_iff_ne_nan_and_eq.mp hzero
    · rfl
    · exact absurd hfalse (by decide)
    · exact h
  · rw [unsigned, if_neg hzero]

namespace Build

open Proxy Registry Config

/-! ### Rules -/

theorem positiveMillis_unsigned (x : Float) : positiveMillis (unsigned x) = positiveMillis x := by
  refine congr_unsigned ?_ x
  rw [positiveMillis, positiveMillis, if_neg (by decide), if_neg (by decide)]

theorem wholePercent_unsigned (x : Float) : wholePercent (unsigned x) = wholePercent x :=
  congr_unsigned (by decide) x

theorem retryPolicy_plain (r : Retry) : retryPolicy r.plain = retryPolicy r :=
  congrArg (RetryPolicy.mk r.attempts) (positiveMillis_unsigned r.perTrySeconds)

theorem abortFault_plain (a : Abort) : abortFault a.plain = abortFault a := by
  rw [abortFault, abortFault, Abort.plain, wholePercent_unsigned]

theorem delayFault_eq (d : Delay) :
    delayFault d =
      (positiveMillis d.seconds).map fun millis => ⟨wholePercent d.percent, millis⟩ := by
  rw [delayFault, positiveMillis]
  split <;> rfl

theorem delayFault_plain (d : Delay) : delayFault d.plain = delayFault d := by
  rw [delayFault_eq, delayFault_eq, Delay.plain, positiveMillis_unsigned, wholePercent_unsigned]

theorem faultFor_plain (f : RequestFault) (cluster : Cluster) :
    faultFor f.plain cluster = faultFor f cluster := by
  rw [faultFor, faultFor, RequestFault.plain, Option.bind_map, Option.bind_map]
  simp only [Function.comp_def, abortFault_plain, delayFault_plain]

theorem requestTimeout_eq (rule : RouteRule) :
    requestTimeout rule = (rule.timeout.bind (·.simple)).bind positiveMillis := by
  rw [requestTimeout]
  cases rule.timeout.bind (·.simple) with
  | none => rfl
  | some x =>
    rw [Option.bind_some, positiveMillis, Option.filter_some]
    split <;> simp_all

theorem requestTimeout_plain (rule : RouteRule) :
    requestTimeout rule.plain = requestTimeout rule := by
  rw [requestTimeout_eq, requestTimeout_eq, RouteRule.plain]
  cases rule.timeout with
  | none => rfl
  | some t =>
    simp only [Option.map_some, Option.bind_some, RequestTimeout.plain, Option.bind_map,
      Function.comp_def, positiveMillis_unsigned]

theorem ruleRoute?_plain (mesh : Mesh) (rule : RouteRule) (port : Port) :
    ruleRoute? mesh rule.plain port = ruleRoute? mesh rule port := by
  have hretries : ((rule.plain.retries.bind (·.simple)).map retryPolicy) =
      (rule.retries.bind (·.simple)).map retryPolicy := by
    rw [RouteRule.plain]
    cases rule.retries with
    | none => rfl
    | some r =>
      simp only [Option.map_some, Option.bind_some, RequestRetry.plain, Option.map_map,
        Function.comp_def, retryPolicy_plain]
  have hfaults : ∀ clusters : List Cluster,
      (rule.plain.requestFault.map fun f => clusters.map (faultFor f)) =
        rule.requestFault.map fun f => clusters.map (faultFor f) := by
    intro clusters
    rw [RouteRule.plain]
    cases rule.requestFault with
    | none => rfl
    | some f => simp only [Option.map_some, funext (faultFor_plain f)]
  rw [ruleRoute?, ruleRoute?]
  simp only [hretries, hfaults, requestTimeout_plain]
  rfl

/-- The routes of the rules for a service. -/
theorem routesOf_plain (mesh : Mesh) (rules : List RouteRule) (hostname : String) (port : Port) :
    ((rules.map RouteRule.plain).filter (·.destination == hostname)).filterMap
        (ruleRoute? mesh · port) =
      (rules.filter (·.destination == hostname)).filterMap (ruleRoute? mesh · port) := by
  rw [List.filter_map, List.filterMap_map]
  simp only [Function.comp_def, ruleRoute?_plain]
  rfl

theorem destinationRoutes_plain (mesh : Mesh) (service : Service) (port : Port)
    (rules : List RouteRule) :
    destinationRoutes mesh service port (rules.map RouteRule.plain) =
      destinationRoutes mesh service port rules :=
  congrArg (untilCatchAll (defaultRoute mesh service port))
    (routesOf_plain mesh rules service.hostname port)

theorem byPrecedence_plain (rules : List RouteRule) :
    Rule.byPrecedence RouteRule.precedence (rules.map RouteRule.plain) =
      (Rule.byPrecedence RouteRule.precedence rules).map RouteRule.plain :=
  (List.map_mergeSort (f := RouteRule.plain) fun _ _ _ _ => rfl).symm

theorem fromSource_plain (instances : List Instance) (rules : List RouteRule) :
    Rule.fromSource instances (rules.map RouteRule.plain) =
      (Rule.fromSource instances rules).map RouteRule.plain := by
  rw [Rule.fromSource, Rule.fromSource, ← byPrecedence_plain, List.filter_map]
  rfl

theorem edgeRules_plain (rules : List RouteRule) :
    edgeRules (rules.map RouteRule.plain) = (edgeRules rules).map RouteRule.plain := by
  rw [edgeRules, edgeRules, ← byPrecedence_plain, List.filter_map]
  rfl

/-! ### Policies -/

/-- Policies whose numbers have no signs. -/
def plainPolicy (policy : String → Tags → Option VersionPolicy) (hostname : String) (tags : Tags) :
    Option VersionPolicy :=
  (policy hostname tags).map VersionPolicy.plain

theorem withLimits_plain (l : CircuitLimits) (c : Cluster) :
    withLimits l.plain c = withLimits l c := by
  rw [withLimits, withLimits]
  simp only [CircuitLimits.plain, positiveMillis_unsigned]

theorem withPolicy_plain (p : VersionPolicy) (c : Cluster) :
    withPolicy p.plain c = withPolicy p c := by
  have hlimits : p.plain.limits? = p.limits?.map CircuitLimits.plain := by
    rw [VersionPolicy.limits?, VersionPolicy.limits?, VersionPolicy.plain]
    cases p.circuitBreaker <;> rfl
  rw [withPolicy, withPolicy, hlimits]
  cases p.limits? with
  | none => rfl
  | some l =>
    simp only [Option.map_some, withLimits_plain]
    rfl

theorem applyPolicy_plain (policy : String → Tags → Option VersionPolicy) (c : Cluster) :
    applyPolicy (plainPolicy policy) c = applyPolicy policy c := by
  rw [applyPolicy, applyPolicy]
  cases c.subset with
  | none => rfl
  | some s =>
    simp only [Option.bind_some, plainPolicy]
    cases policy s.hostname s.tags with
    | none => rfl
    | some p => exact withPolicy_plain p c

/-! ### Settings -/

variable {ρ : Type} [Directory ρ]

theorem finishClusters_plain (mesh : Mesh) (registry : ρ)
    (policy : String → Tags → Option VersionPolicy) (table : RouteTable) (more : List Cluster) :
    finishClusters mesh registry (plainPolicy policy) table more =
      finishClusters mesh registry policy table more := by
  simp only [finishClusters, applyPolicy_plain]

theorem sidecar_plain (mesh : Mesh) (registry : ρ)
    (policy : String → Tags → Option VersionPolicy) (node : Node) (instances : List Instance)
    (services : List Service) (rules : List RouteRule) :
    sidecar mesh registry (plainPolicy policy) node instances services
        (rules.map RouteRule.plain) =
      sidecar mesh registry policy node instances services rules := by
  have hhosts : outboundHosts mesh (rules.map RouteRule.plain) (suffixOf instances) =
      outboundHosts mesh rules (suffixOf instances) := by
    funext s
    simp only [outboundHosts, routesTo?, destinationRoutes_plain]
  have hroutes : outboundRoutes mesh instances services (rules.map RouteRule.plain) =
      outboundRoutes mesh instances services rules := by
    rw [outboundRoutes, outboundRoutes, hhosts]
  simp only [sidecar, hroutes, finishClusters_plain]

theorem edgeRoute?_plain (mesh : Mesh) (rules : List RouteRule) (service : Service) (port : Port)
    (rule : RouteRule) :
    edgeRoute? mesh (rules.map RouteRule.plain) service port rule.plain =
      edgeRoute? mesh rules service port rule := by
  simp only [edgeRoute?, routesOf_plain, ruleRoute?_plain]
  rfl

theorem edgeRoutes_plain (mesh : Mesh) (registry : ρ) (rules : List RouteRule)
    (ingressRules : List IngressRule) :
    edgeRoutes mesh registry (rules.map RouteRule.plain) (ingressRules.map IngressRule.plain) =
      edgeRoutes mesh registry rules ingressRules := by
  induction ingressRules with
  | nil => rfl
  | cons r ingressRules ih =>
    have hfirst : edgeRoutesOf mesh registry (rules.map RouteRule.plain) r.plain =
        edgeRoutesOf mesh registry rules r := by
      simp only [edgeRoutesOf, IngressRule.plain, edgeRoute?_plain]
      rfl
    rw [List.map_cons, edgeRoutes, edgeRoutes, hfirst, ih]

theorem ingress_plain (mesh : Mesh) (registry : ρ)
    (policy : String → Tags → Option VersionPolicy) (node : Node) (routes : List EdgeRoute) :
    ingress mesh registry (plainPolicy policy) node routes =
      ingress mesh registry policy node routes := by
  simp only [ingress, finishClusters_plain]

end Build

end MeshControl
