import MeshControl.Proofs.Json.Unsigned
import MeshControl.Rule.Ingress
import MeshControl.Rule.Policy

/-!
Rules and policies without the signs of their zeros. Every field is read by a blind reader, so what
is read from a record without signs is what is read from the record, but for the signs.
-/
namespace MeshControl

open Decode

/-! ### Conditions and destinations -/

theorem Tags.blind_decode : Blind id (Tags.decode : Json → Decoded Tags) := .of_eq fun j => by
  rw [decode, decode, blind_text.table.eq]

theorem TextMatch.blind_decode : Blind id (TextMatch.decode : Json → Decoded TextMatch) :=
  .of_eq fun j => by
    rw [decode, decode, choice?_plain]
    cases Source.choice? j with
    | none => rfl
    | some c =>
      obtain ⟨kind, payload⟩ := c
      cases payload with
      | none => rfl
      | some v => simp only [Option.map_some, blind_text.eq]

theorem HeaderMatches.blind_decode :
    Blind id (HeaderMatches.decode : Json → Decoded HeaderMatches) :=
  TextMatch.blind_decode.table

theorem MatchCondition.blind_decode :
    Blind id (MatchCondition.decode : Json → Decoded MatchCondition) := by
  refine .of_record fun r => ?_
  refine map_bind_congr _ _ (blind_text.optional r "source") fun a a' ha => ?_
  refine map_bind_congr _ _ (Tags.blind_decode.withDefault r "sourceTags" _) fun b b' hb => ?_
  refine map_bind_congr _ _ (HeaderMatches.blind_decode.withDefault r _ _) fun c c' hc => ?_
  exact congrArg Except.ok (by simp_all)

theorem WeightedDestination.blind_decode :
    Blind id (WeightedDestination.decode : Json → Decoded WeightedDestination) := by
  refine .of_record fun r => ?_
  refine map_bind_congr _ _ (blind_text.optional r "destination") fun a a' ha => ?_
  refine map_bind_congr _ _ (Tags.blind_decode.withDefault r "tags" _) fun b b' hb => ?_
  refine map_bind_congr _ _ ((blind_integerIn _ _).withDefault r "weight" _) fun c c' hc => ?_
  exact congrArg Except.ok (by simp_all)

/-! ### Timeouts and retries -/

def RequestTimeout.plain (t : RequestTimeout) : RequestTimeout := ⟨t.simple.map unsigned⟩

theorem RequestTimeout.blind_decode :
    Blind plain (RequestTimeout.decode : Json → Decoded RequestTimeout) := by
  have hseconds : Blind unsigned (decodeSeconds : Json → Decoded Float) :=
    .of_record fun r => blind_number.required r "timeoutSeconds"
  refine .of_record fun r => ?_
  refine map_bind_congr _ _ (hseconds.optional r "simpleTimeout") fun a a' ha => ?_
  exact congrArg Except.ok (by rw [plain, plain, ha])

def Retry.plain (r : Retry) : Retry := { r with perTrySeconds := unsigned r.perTrySeconds }

theorem Retry.blind_decode : Blind plain (Retry.decode : Json → Decoded Retry) := by
  refine .of_record fun r => ?_
  refine map_bind_congr _ _ ((blind_integerIn _ _).required r "attempts") fun a a' ha => ?_
  refine map_bind_congr _ _ (blind_number.withDefault r "perTryTimeoutSeconds" _) fun b b' hb => ?_
  exact congrArg Except.ok (by simp_all [plain])

def RequestRetry.plain (r : RequestRetry) : RequestRetry := ⟨r.simple.map Retry.plain⟩

theorem RequestRetry.blind_decode :
    Blind plain (RequestRetry.decode : Json → Decoded RequestRetry) := by
  refine .of_record fun r => ?_
  refine map_bind_congr _ _ (Retry.blind_decode.optional r "simpleRetry") fun a a' ha => ?_
  exact congrArg Except.ok (by rw [plain, plain, ha])

/-! ### Faults -/

def Delay.plain (d : Delay) : Delay := ⟨unsigned d.percent, unsigned d.seconds⟩

theorem Delay.blind_decode : Blind plain (Delay.decode : Json → Decoded Delay) := by
  refine .of_record fun r => ?_
  refine map_bind_congr _ _ (blind_number.required r "percent") fun a a' ha => ?_
  refine map_bind_congr _ _ (blind_number.required r "fixedDelaySeconds") fun b b' hb => ?_
  exact congrArg Except.ok (by rw [plain, plain, ha, hb])

def Abort.plain (a : Abort) : Abort := { a with percent := unsigned a.percent }

theorem Abort.blind_decode : Blind plain (Abort.decode : Json → Decoded Abort) := by
  refine .of_record fun r => ?_
  refine map_bind_congr _ _ (blind_number.required r "percent") fun a a' ha => ?_
  refine map_bind_congr _ _ ((blind_integerIn _ _).required r "httpStatus") fun b b' hb => ?_
  exact congrArg Except.ok (by simp_all [plain])

def RequestFault.plain (f : RequestFault) : RequestFault :=
  { f with delay := f.delay.map Delay.plain, abort := f.abort.map Abort.plain }

theorem RequestFault.blind_decode :
    Blind plain (RequestFault.decode : Json → Decoded RequestFault) := by
  refine .of_record fun r => ?_
  refine map_bind_congr _ _ (Delay.blind_decode.optional r "delay") fun a a' ha => ?_
  refine map_bind_congr _ _ (Abort.blind_decode.optional r "abort") fun b b' hb => ?_
  refine map_bind_congr _ _ (HeaderMatches.blind_decode.withDefault r _ _) fun c c' hc => ?_
  exact congrArg Except.ok (by simp_all [plain])

def Throttle.plain (t : Throttle) : Throttle := { t with percent := unsigned t.percent }

theorem Throttle.blind_decode : Blind plain (Throttle.decode : Json → Decoded Throttle) := by
  refine .of_record fun r => ?_
  refine map_bind_congr _ _ (blind_number.required r "percent") fun a a' ha => ?_
  refine map_bind_congr _ _ ((blind_integerIn _ _).withDefault r _ _) fun b b' hb => ?_
  refine map_bind_congr _ _ ((blind_integerIn _ _).withDefault r _ _) fun c c' hc => ?_
  exact congrArg Except.ok (by simp_all [plain])

def Terminate.plain (t : Terminate) : Terminate := ⟨unsigned t.percent, unsigned t.seconds⟩

theorem Terminate.blind_decode : Blind plain (Terminate.decode : Json → Decoded Terminate) := by
  refine .of_record fun r => ?_
  refine map_bind_congr _ _ (blind_number.required r "percent") fun a a' ha => ?_
  refine map_bind_congr _ _ (blind_number.required r "terminateAfterSeconds") fun b b' hb => ?_
  exact congrArg Except.ok (by rw [plain, plain, ha, hb])

def ConnectionFault.plain (f : ConnectionFault) : ConnectionFault :=
  ⟨f.throttle.map Throttle.plain, f.terminate.map Terminate.plain⟩

theorem ConnectionFault.blind_decode :
    Blind plain (ConnectionFault.decode : Json → Decoded ConnectionFault) := by
  refine .of_record fun r => ?_
  refine map_bind_congr _ _ (Throttle.blind_decode.optional r "throttle") fun a a' ha => ?_
  refine map_bind_congr _ _ (Terminate.blind_decode.optional r "terminate") fun b b' hb => ?_
  exact congrArg Except.ok (by rw [plain, plain, ha, hb])

/-! ### Rules -/

def RouteRule.plain (r : RouteRule) : RouteRule :=
  { r with
    timeout := r.timeout.map RequestTimeout.plain
    retries := r.retries.map RequestRetry.plain
    requestFault := r.requestFault.map RequestFault.plain
    connectionFault := r.connectionFault.map ConnectionFault.plain }

theorem RouteRule.ofRecord_plain (r : Record Json) :
    (ofRecord r.plain).map plain = (ofRecord r).map plain := by
  refine map_bind_congr _ _ (blind_text.required r "name") fun a a' ha => ?_
  refine map_bind_congr _ _ (blind_text.required r "destination") fun b b' hb => ?_
  refine map_bind_congr _ _ ((blind_integerIn _ _).withDefault r "precedence" _) fun c c' hc => ?_
  refine map_bind_congr _ _ (MatchCondition.blind_decode.optional r "match") fun d d' hd => ?_
  refine map_bind_congr _ _ (WeightedDestination.blind_decode.list.withDefault r "route" _)
    fun e e' he => ?_
  refine map_bind_congr _ _ (RequestTimeout.blind_decode.optional r _) fun f f' hf => ?_
  refine map_bind_congr _ _ (RequestRetry.blind_decode.optional r _) fun g g' hg => ?_
  refine map_bind_congr _ _ (RequestFault.blind_decode.optional r _) fun h h' hh => ?_
  refine map_bind_congr _ _ (ConnectionFault.blind_decode.optional r _) fun i i' hi => ?_
  exact congrArg Except.ok (by simp_all [plain])

theorem RouteRule.blind_decode : Blind plain (RouteRule.decode : Json → Decoded RouteRule) :=
  .of_record ofRecord_plain

def IngressRule.plain (r : IngressRule) : IngressRule := { r with rule := r.rule.plain }

theorem IngressRule.blind_decode :
    Blind plain (IngressRule.decode : Json → Decoded IngressRule) := by
  refine .of_fields (namedRecord_plain _) fun r => ?_
  refine map_bind_congr _ _ (RouteRule.ofRecord_plain r) fun a a' ha => ?_
  refine map_bind_congr _ _ (blind_text.optional r _) fun b b' hb => ?_
  refine map_bind_congr _ _ ((blind_natBits 16).optional r _) fun c c' hc => ?_
  refine map_bind_congr _ _ (blind_text.optional r _) fun d d' hd => ?_
  exact congrArg Except.ok (by simp_all [plain])

/-! ### Policies -/

def CircuitLimits.plain (c : CircuitLimits) : CircuitLimits :=
  { c with
    sleepWindowSeconds := unsigned c.sleepWindowSeconds
    detectionIntervalSeconds := unsigned c.detectionIntervalSeconds }

theorem CircuitLimits.blind_decode :
    Blind plain (CircuitLimits.decode : Json → Decoded CircuitLimits) := by
  refine .of_record fun r => ?_
  have hint32 := blind_integerIn Int32.minValue.toInt Int32.maxValue.toInt
  have hcount (name : String) := hint32.withDefault r name 0
  have hseconds (name : String) := blind_number.withDefault r name 0.0
  refine map_bind_congr _ _ (hcount _) fun a a' ha => ?_
  refine map_bind_congr _ _ (hcount _) fun b b' hb => ?_
  refine map_bind_congr _ _ (hcount _) fun c c' hc => ?_
  refine map_bind_congr _ _ (hseconds _) fun d d' hd => ?_
  refine map_bind_congr _ _ (hcount _) fun e e' he => ?_
  refine map_bind_congr _ _ (hseconds _) fun f f' hf => ?_
  refine map_bind_congr _ _ (hcount _) fun g g' hg => ?_
  refine map_bind_congr _ _ (hcount _) fun h h' hh => ?_
  exact congrArg Except.ok (by simp_all [plain])

def CircuitBreaker.plain (c : CircuitBreaker) : CircuitBreaker := ⟨c.simple.map CircuitLimits.plain⟩

theorem CircuitBreaker.blind_decode :
    Blind plain (CircuitBreaker.decode : Json → Decoded CircuitBreaker) := by
  refine .of_record fun r => ?_
  refine map_bind_congr _ _ (CircuitLimits.blind_decode.optional r "simpleCb") fun a a' ha => ?_
  exact congrArg Except.ok (by rw [plain, plain, ha])

def VersionPolicy.plain (p : VersionPolicy) : VersionPolicy :=
  { p with circuitBreaker := p.circuitBreaker.map CircuitBreaker.plain }

theorem LoadBalancing.blind_decode :
    Blind id (LoadBalancing.decode : Json → Decoded LoadBalancing) :=
  .of_record fun r => (blind_name names).required r "name"

theorem VersionPolicy.blind_decode :
    Blind plain (VersionPolicy.decode : Json → Decoded VersionPolicy) := by
  refine .of_record fun r => ?_
  refine map_bind_congr _ _ (Tags.blind_decode.withDefault r "tags" _) fun a a' ha => ?_
  refine map_bind_congr _ _ (LoadBalancing.blind_decode.optional r _) fun b b' hb => ?_
  refine map_bind_congr _ _ (CircuitBreaker.blind_decode.optional r _) fun c c' hc => ?_
  exact congrArg Except.ok (by simp_all [plain])

def DestinationPolicy.plain (p : DestinationPolicy) : DestinationPolicy :=
  { p with versions := p.versions.map VersionPolicy.plain }

theorem DestinationPolicy.blind_decode :
    Blind plain (DestinationPolicy.decode : Json → Decoded DestinationPolicy) := by
  refine .of_record fun r => ?_
  refine map_bind_congr _ _ (blind_text.required r "destination") fun a a' ha => ?_
  refine map_bind_congr _ _ (VersionPolicy.blind_decode.list.withDefault r "policy" _)
    fun b b' hb => ?_
  exact congrArg Except.ok (by simp_all [plain])

end MeshControl
