import MeshControl.Config.Schema
import MeshControl.Proofs.Json.RoundTrip
import MeshControl.Rule.Ingress
import MeshControl.Rule.Policy

/-!
Rules and policies as they are written and read. Every field that is left out when it is written has
a default when it is read, and the default is what was left out. A value can be written if its
doubles are finite and its whole numbers have the size of their fields.
-/
namespace MeshControl

open Decode

/-! ### What stands in for fields that are left out -/

theorem isInt32_zero : IsInt32 0 := by decide

theorem isInt64_zero : IsInt64 0 := by decide

theorem isFinite_zero : (0.0 : Float).isFinite = true := by decide

theorem eq_nil_of_isEmpty {α : Type} {l : List α} (h : (!l.isEmpty) = false) : l = [] := by
  simpa using h

theorem Table.eq_empty {α : Type} {t : Table α} (h : (!t.isEmpty) = false) : t = Table.empty :=
  Table.ext (eq_nil_of_isEmpty h)

theorem Tags.eq_empty {t : Tags} (h : (!t.isEmpty) = false) : t = Tags.empty :=
  congrArg Tags.mk (Table.eq_empty h)

/-! ### Conditions and destinations -/

theorem Tags.inverts : Inverts (Tags.decode : Json → Decoded Tags) Tags.json fun _ => True where
  notNull _ _ := rfl
  read_write t _ := by
    have htable := inverts_text.table.read_write t.pairs trivial
    rw [Tags.decode, Tags.json, Json.ofTable]
    exact congrArg (Except.map Tags.mk) htable
  yields _ _ := yields_any _

theorem TextMatch.inverts :
    Inverts (TextMatch.decode : Json → Decoded TextMatch) TextMatch.json fun _ => True where
  notNull _ _ := rfl
  read_write m _ := by cases m <;> rfl
  yields _ _ := yields_any _

theorem HeaderMatches.inverts :
    Inverts (HeaderMatches.decode : Json → Decoded HeaderMatches) HeaderMatches.json
      fun _ => True :=
  TextMatch.inverts.table

theorem MatchCondition.inverts :
    Inverts (MatchCondition.decode : Json → Decoded MatchCondition) MatchCondition.json
      fun _ => True := by
  refine .of_record
    (fun m => [
      ("source", m.source.map .str),
      ("sourceTags", if !m.sourceTags.isEmpty then some m.sourceTags.json else none),
      ("httpHeaders", if !m.headers.isEmpty then some m.headers.json else none)])
    (fun m => by rw [json, Json.onlyIf_eq, Json.onlyIf_eq]; rfl) (fun m => rfl) (by decide) ?_ ?_
  · intro m r _ ⟨hsource, htags, hheaders, _⟩
    refine bind_eq_ok (inverts_text.optional hsource fun _ _ => trivial) ?_
    refine bind_eq_ok (Tags.inverts.onlyIf htags Tags.eq_empty trivial) ?_
    exact bind_eq_ok (HeaderMatches.inverts.onlyIf hheaders Table.eq_empty trivial) rfl
  · exact fun r _ => yields_any _

/-- The weight is a whole number of 32 bits. -/
def WeightedDestination.IsWritable (w : WeightedDestination) : Prop := IsInt32 w.weight

theorem WeightedDestination.inverts :
    Inverts (WeightedDestination.decode : Json → Decoded WeightedDestination)
      WeightedDestination.json IsWritable := by
  refine .of_record
    (fun w => [
      ("destination", w.destination.map .str),
      ("tags", if !w.tags.isEmpty then some w.tags.json else none),
      ("weight", some (.int w.weight))])
    (fun w => by rw [json, Json.onlyIf_eq]; rfl) (fun w => rfl) (by decide) ?_ ?_
  · intro w r hw ⟨hdestination, htags, hweight, _⟩
    refine bind_eq_ok (inverts_text.optional hdestination fun _ _ => trivial) ?_
    refine bind_eq_ok (Tags.inverts.onlyIf htags Tags.eq_empty trivial) ?_
    exact bind_eq_ok (inverts_int32.withDefault hweight hw) rfl
  · intro r hr
    refine (yields_any _).bind fun destination _ => ?_
    refine (yields_any _).bind fun tags _ => ?_
    refine (inverts_int32.yields_withDefault hr "weight" isInt32_zero).bind fun weight hweight => ?_
    exact .pure hweight

/-! ### Timeouts and retries -/

def RequestTimeout.IsWritable (t : RequestTimeout) : Prop := ∀ s ∈ t.simple, s.isFinite = true

theorem RequestTimeout.inverts_seconds :
    Inverts (decodeSeconds : Json → Decoded Float) (fun s => .obj [("timeoutSeconds", .double s)])
      fun s => s.isFinite = true := by
  refine .of_record (fun s => [("timeoutSeconds", some (.double s))])
    (fun s => rfl) (fun s => rfl) (by decide) ?_ ?_
  · intro s r hs ⟨hseconds, _⟩
    exact inverts_number.required hseconds hs
  · intro r hr
    exact inverts_number.yields_required hr "timeoutSeconds"

theorem RequestTimeout.inverts :
    Inverts (RequestTimeout.decode : Json → Decoded RequestTimeout) RequestTimeout.json
      IsWritable := by
  refine .of_record
    (fun t => [("simpleTimeout", t.simple.map fun s => .obj [("timeoutSeconds", .double s)])])
    (fun t => rfl) (fun t => rfl) (by decide) ?_ ?_
  · intro t r ht ⟨hsimple, _⟩
    exact bind_eq_ok (inverts_seconds.optional hsimple ht) rfl
  · intro r hr
    refine (inverts_seconds.yields_optional hr "simpleTimeout").bind fun simple hsimple => ?_
    exact .pure hsimple

structure Retry.IsWritable (r : Retry) : Prop where
  attempts : IsInt32 r.attempts
  perTrySeconds : r.perTrySeconds.isFinite = true

theorem Retry.inverts : Inverts (Retry.decode : Json → Decoded Retry) Retry.json IsWritable := by
  refine .of_record
    (fun a => [("attempts", some (.int a.attempts)),
      ("perTryTimeoutSeconds", some (.double a.perTrySeconds))])
    (fun a => rfl) (fun a => rfl) (by decide) ?_ ?_
  · intro a r ha ⟨hattempts, hseconds, _⟩
    refine bind_eq_ok (inverts_int32.required hattempts ha.attempts) ?_
    exact bind_eq_ok (inverts_number.withDefault hseconds ha.perTrySeconds) rfl
  · intro r hr
    refine (inverts_int32.yields_required hr "attempts").bind fun attempts hattempts => ?_
    refine (inverts_number.yields_withDefault hr _ isFinite_zero).bind fun seconds hseconds => ?_
    exact .pure ⟨hattempts, hseconds⟩

def RequestRetry.IsWritable (r : RequestRetry) : Prop := ∀ a ∈ r.simple, a.IsWritable

theorem RequestRetry.inverts :
    Inverts (RequestRetry.decode : Json → Decoded RequestRetry) RequestRetry.json IsWritable := by
  refine .of_record (fun a => [("simpleRetry", a.simple.map Retry.json)])
    (fun a => rfl) (fun a => rfl) (by decide) ?_ ?_
  · intro a r ha ⟨hsimple, _⟩
    exact bind_eq_ok (Retry.inverts.optional hsimple ha) rfl
  · intro r hr
    refine (Retry.inverts.yields_optional hr "simpleRetry").bind fun simple hsimple => ?_
    exact .pure hsimple

/-! ### Faults -/

structure Delay.IsWritable (d : Delay) : Prop where
  percent : d.percent.isFinite = true
  seconds : d.seconds.isFinite = true

theorem Delay.inverts : Inverts (Delay.decode : Json → Decoded Delay) Delay.json IsWritable := by
  refine .of_record
    (fun d => [("percent", some (.double d.percent)),
      ("fixedDelaySeconds", some (.double d.seconds))])
    (fun d => rfl) (fun d => rfl) (by decide) ?_ ?_
  · intro d r hd ⟨hpercent, hseconds, _⟩
    refine bind_eq_ok (inverts_number.required hpercent hd.percent) ?_
    exact bind_eq_ok (inverts_number.required hseconds hd.seconds) rfl
  · intro r hr
    refine (inverts_number.yields_required hr "percent").bind fun percent hpercent => ?_
    refine (inverts_number.yields_required hr _).bind fun seconds hseconds => ?_
    exact .pure ⟨hpercent, hseconds⟩

structure Abort.IsWritable (a : Abort) : Prop where
  percent : a.percent.isFinite = true
  status : IsInt32 a.status

theorem Abort.inverts : Inverts (Abort.decode : Json → Decoded Abort) Abort.json IsWritable := by
  refine .of_record
    (fun a => [("percent", some (.double a.percent)), ("httpStatus", some (.int a.status))])
    (fun a => rfl) (fun a => rfl) (by decide) ?_ ?_
  · intro a r ha ⟨hpercent, hstatus, _⟩
    refine bind_eq_ok (inverts_number.required hpercent ha.percent) ?_
    exact bind_eq_ok (inverts_int32.required hstatus ha.status) rfl
  · intro r hr
    refine (inverts_number.yields_required hr "percent").bind fun percent hpercent => ?_
    refine (inverts_int32.yields_required hr "httpStatus").bind fun status hstatus => ?_
    exact .pure ⟨hpercent, hstatus⟩

structure RequestFault.IsWritable (f : RequestFault) : Prop where
  delay : ∀ d ∈ f.delay, d.IsWritable
  abort : ∀ a ∈ f.abort, a.IsWritable

theorem RequestFault.inverts :
    Inverts (RequestFault.decode : Json → Decoded RequestFault) RequestFault.json IsWritable := by
  refine .of_record
    (fun f => [
      ("delay", f.delay.map Delay.json),
      ("abort", f.abort.map Abort.json),
      ("headers", if !f.headers.isEmpty then some f.headers.json else none)])
    (fun f => by rw [json, Json.onlyIf_eq]; rfl) (fun f => rfl) (by decide) ?_ ?_
  · intro f r hf ⟨hdelay, habort, hheaders, _⟩
    refine bind_eq_ok (Delay.inverts.optional hdelay hf.delay) ?_
    refine bind_eq_ok (Abort.inverts.optional habort hf.abort) ?_
    exact bind_eq_ok (HeaderMatches.inverts.onlyIf hheaders Table.eq_empty trivial) rfl
  · intro r hr
    refine (Delay.inverts.yields_optional hr "delay").bind fun delay hdelay => ?_
    refine (Abort.inverts.yields_optional hr "abort").bind fun abort habort => ?_
    refine (yields_any _).bind fun headers _ => ?_
    exact .pure ⟨hdelay, habort⟩

structure Throttle.IsWritable (t : Throttle) : Prop where
  percent : t.percent.isFinite = true
  downloadLimit : IsInt64 t.downloadLimit
  uploadLimit : IsInt64 t.uploadLimit

theorem Throttle.inverts :
    Inverts (Throttle.decode : Json → Decoded Throttle) Throttle.json IsWritable := by
  refine .of_record
    (fun t => [
      ("percent", some (.double t.percent)),
      ("downstreamLimitBps", some (.int t.downloadLimit)),
      ("upstreamLimitBps", some (.int t.uploadLimit))])
    (fun t => rfl) (fun t => rfl) (by decide) ?_ ?_
  · intro t r ht ⟨hpercent, hdownload, hupload, _⟩
    refine bind_eq_ok (inverts_number.required hpercent ht.percent) ?_
    refine bind_eq_ok (inverts_int64.withDefault hdownload ht.downloadLimit) ?_
    exact bind_eq_ok (inverts_int64.withDefault hupload ht.uploadLimit) rfl
  · intro r hr
    refine (inverts_number.yields_required hr "percent").bind fun percent hpercent => ?_
    refine (inverts_int64.yields_withDefault hr _ isInt64_zero).bind fun download hdownload => ?_
    refine (inverts_int64.yields_withDefault hr _ isInt64_zero).bind fun upload hupload => ?_
    exact .pure ⟨hpercent, hdownload, hupload⟩

structure Terminate.IsWritable (t : Terminate) : Prop where
  percent : t.percent.isFinite = true
  seconds : t.seconds.isFinite = true

theorem Terminate.inverts :
    Inverts (Terminate.decode : Json → Decoded Terminate) Terminate.json IsWritable := by
  refine .of_record
    (fun t => [("percent", some (.double t.percent)),
      ("terminateAfterSeconds", some (.double t.seconds))])
    (fun t => rfl) (fun t => rfl) (by decide) ?_ ?_
  · intro t r ht ⟨hpercent, hseconds, _⟩
    refine bind_eq_ok (inverts_number.required hpercent ht.percent) ?_
    exact bind_eq_ok (inverts_number.required hseconds ht.seconds) rfl
  · intro r hr
    refine (inverts_number.yields_required hr "percent").bind fun percent hpercent => ?_
    refine (inverts_number.yields_required hr _).bind fun seconds hseconds => ?_
    exact .pure ⟨hpercent, hseconds⟩

structure ConnectionFault.IsWritable (f : ConnectionFault) : Prop where
  throttle : ∀ t ∈ f.throttle, t.IsWritable
  terminate : ∀ t ∈ f.terminate, t.IsWritable

theorem ConnectionFault.inverts :
    Inverts (ConnectionFault.decode : Json → Decoded ConnectionFault) ConnectionFault.json
      IsWritable := by
  refine .of_record
    (fun f => [("throttle", f.throttle.map Throttle.json),
      ("terminate", f.terminate.map Terminate.json)])
    (fun f => rfl) (fun f => rfl) (by decide) ?_ ?_
  · intro f r hf ⟨hthrottle, hterminate, _⟩
    refine bind_eq_ok (Throttle.inverts.optional hthrottle hf.throttle) ?_
    exact bind_eq_ok (Terminate.inverts.optional hterminate hf.terminate) rfl
  · intro r hr
    refine (Throttle.inverts.yields_optional hr "throttle").bind fun throttle hthrottle => ?_
    refine (Terminate.inverts.yields_optional hr _).bind fun terminate hterminate => ?_
    exact .pure ⟨hthrottle, hterminate⟩

/-! ### Rules -/

/-- Whole numbers have 32 bits, or 64 where a fault limits bandwidth, and doubles are finite. -/
structure RouteRule.IsWritable (r : RouteRule) : Prop where
  precedence : IsInt32 r.precedence
  routes : ∀ w ∈ r.routes, w.IsWritable
  timeout : ∀ t ∈ r.timeout, t.IsWritable
  retries : ∀ a ∈ r.retries, a.IsWritable
  requestFault : ∀ f ∈ r.requestFault, f.IsWritable
  connectionFault : ∀ f ∈ r.connectionFault, f.IsWritable

def RouteRule.slots (r : RouteRule) : List (String × Option Json) := [
  ("name", some (.str r.name)),
  ("destination", some (.str r.destination)),
  ("precedence", some (.int r.precedence)),
  ("match", r.condition.map MatchCondition.json),
  ("route",
    if !r.routes.isEmpty then some (.arr (r.routes.map WeightedDestination.json)) else none),
  ("httpReqTimeout", r.timeout.map RequestTimeout.json),
  ("httpReqRetries", r.retries.map RequestRetry.json),
  ("httpFault", r.requestFault.map RequestFault.json),
  ("l4Fault", r.connectionFault.map ConnectionFault.json)]

theorem RouteRule.fields_eq (r : RouteRule) :
    r.fields = r.slots.map fun e => Json.optional e.1 e.2 := by
  rw [fields, Json.onlyIf_eq]
  rfl

theorem RouteRule.ofRecord_of_holds {rule : RouteRule} (hrule : rule.IsWritable)
    {r : Record Json} (hr : r.Holds rule.slots) : ofRecord r = .ok rule := by
  obtain ⟨hname, hdestination, hprecedence, hcondition, hroutes, htimeout, hretries, hrequest,
    hconnection, _⟩ := hr
  refine bind_eq_ok (inverts_text.required hname trivial) ?_
  refine bind_eq_ok (inverts_text.required hdestination trivial) ?_
  refine bind_eq_ok (inverts_int32.withDefault hprecedence hrule.precedence) ?_
  refine bind_eq_ok (MatchCondition.inverts.optional hcondition fun _ _ => trivial) ?_
  refine bind_eq_ok
    (WeightedDestination.inverts.list.onlyIf hroutes eq_nil_of_isEmpty hrule.routes) ?_
  refine bind_eq_ok (RequestTimeout.inverts.optional htimeout hrule.timeout) ?_
  refine bind_eq_ok (RequestRetry.inverts.optional hretries hrule.retries) ?_
  refine bind_eq_ok (RequestFault.inverts.optional hrequest hrule.requestFault) ?_
  exact bind_eq_ok (ConnectionFault.inverts.optional hconnection hrule.connectionFault) rfl

theorem RouteRule.yields_ofRecord {r : Record Json} (hr : r.IsFinite) :
    Yields IsWritable (ofRecord r) := by
  have hroutes := WeightedDestination.inverts.list.yields_withDefault hr "route"
    (List.forall_mem_nil _)
  refine (yields_any _).bind fun name _ => ?_
  refine (yields_any _).bind fun destination _ => ?_
  refine (inverts_int32.yields_withDefault hr _ isInt32_zero).bind fun precedence hprecedence => ?_
  refine (yields_any _).bind fun condition _ => ?_
  refine hroutes.bind fun routes hroutes => ?_
  refine (RequestTimeout.inverts.yields_optional hr _).bind fun timeout htimeout => ?_
  refine (RequestRetry.inverts.yields_optional hr _).bind fun retries hretries => ?_
  refine (RequestFault.inverts.yields_optional hr _).bind fun requestFault hrequest => ?_
  refine (ConnectionFault.inverts.yields_optional hr _).bind fun connection hconnection => ?_
  exact .pure ⟨hprecedence, hroutes, htimeout, hretries, hrequest, hconnection⟩

theorem RouteRule.inverts :
    Inverts (RouteRule.decode : Json → Decoded RouteRule) (fun r => Json.object r.fields)
      IsWritable :=
  .of_record slots (fun r => by rw [fields_eq]; rfl) (fun r => rfl) (by decide)
    (fun _ _ hrule hr => ofRecord_of_holds hrule hr) fun _ hr => yields_ofRecord hr

/-- The rule fits, and a port has 16 bits. -/
structure IngressRule.IsWritable (r : IngressRule) : Prop where
  rule : r.rule.IsWritable
  portNumber : ∀ n ∈ r.portNumber, n < 2 ^ 16

theorem IngressRule.inverts :
    Inverts (IngressRule.decode : Json → Decoded IngressRule) IngressRule.json IsWritable := by
  refine .of_namedRecord
    (fun r => r.rule.slots ++ [
      ("destinationServicePortName", r.portName.map .str),
      ("destinationServicePort", r.portNumber.map .nat),
      ("tlsSecret", r.secret.map .str)])
    (fun r => by rw [json, RouteRule.fields_eq, Json.ofSlots, List.map_append]; rfl)
    (fun r => rfl) (by decide) ?_ ?_
  · intro rule r hrule hr
    obtain ⟨hbody, hport, hnumber, hsecret, _⟩ := Record.holds_append.mp hr
    refine bind_eq_ok (RouteRule.ofRecord_of_holds hrule.rule hbody) ?_
    refine bind_eq_ok (inverts_text.optional hport fun _ _ => trivial) ?_
    refine bind_eq_ok ((inverts_natBits 16).optional hnumber hrule.portNumber) ?_
    exact bind_eq_ok (inverts_text.optional hsecret fun _ _ => trivial) rfl
  · intro r hr
    refine (RouteRule.yields_ofRecord hr).bind fun rule hrule => ?_
    refine (yields_any _).bind fun portName _ => ?_
    refine ((inverts_natBits 16).yields_optional hr _).bind fun portNumber hnumber => ?_
    refine (yields_any _).bind fun secret _ => ?_
    exact .pure ⟨hrule, hnumber⟩

/-! ### Policies -/

theorem LoadBalancing.inverts :
    Inverts (LoadBalancing.decode : Json → Decoded LoadBalancing) LoadBalancing.json
      fun _ => True := by
  have hname : Inverts (Decode.name names) (fun b => Json.str b.text) fun _ => True :=
    ⟨fun _ _ => rfl, fun b _ => by cases b <;> rfl, fun _ _ => yields_any _⟩
  refine .of_record (fun b => [("name", some (.str b.text))])
    (fun b => rfl) (fun b => rfl) (by decide) ?_ ?_
  · intro b r _ ⟨hb, _⟩
    exact hname.required hb trivial
  · exact fun _ _ => yields_any _

structure CircuitLimits.IsWritable (c : CircuitLimits) : Prop where
  maxConnections : IsInt32 c.maxConnections
  maxPendingRequests : IsInt32 c.maxPendingRequests
  maxRequests : IsInt32 c.maxRequests
  sleepWindowSeconds : c.sleepWindowSeconds.isFinite = true
  consecutiveErrors : IsInt32 c.consecutiveErrors
  detectionIntervalSeconds : c.detectionIntervalSeconds.isFinite = true
  maxRequestsPerConnection : IsInt32 c.maxRequestsPerConnection
  maxEjectionPercent : IsInt32 c.maxEjectionPercent

theorem CircuitLimits.inverts :
    Inverts (CircuitLimits.decode : Json → Decoded CircuitLimits) CircuitLimits.json
      IsWritable := by
  refine .of_record
    (fun c => [
      ("maxConnections", some (.int c.maxConnections)),
      ("httpMaxPendingRequests", some (.int c.maxPendingRequests)),
      ("httpMaxRequests", some (.int c.maxRequests)),
      ("sleepWindowSeconds", some (.double c.sleepWindowSeconds)),
      ("httpConsecutiveErrors", some (.int c.consecutiveErrors)),
      ("httpDetectionIntervalSeconds", some (.double c.detectionIntervalSeconds)),
      ("httpMaxRequestsPerConnection", some (.int c.maxRequestsPerConnection)),
      ("httpMaxEjectionPercent", some (.int c.maxEjectionPercent))])
    (fun c => rfl) (fun c => rfl) (by decide) ?_ ?_
  · intro c r hc ⟨hmax, hpending, hrequests, hwindow, herrors, hinterval, hper, hejection, _⟩
    refine bind_eq_ok (inverts_int32.withDefault hmax hc.maxConnections) ?_
    refine bind_eq_ok (inverts_int32.withDefault hpending hc.maxPendingRequests) ?_
    refine bind_eq_ok (inverts_int32.withDefault hrequests hc.maxRequests) ?_
    refine bind_eq_ok (inverts_number.withDefault hwindow hc.sleepWindowSeconds) ?_
    refine bind_eq_ok (inverts_int32.withDefault herrors hc.consecutiveErrors) ?_
    refine bind_eq_ok (inverts_number.withDefault hinterval hc.detectionIntervalSeconds) ?_
    refine bind_eq_ok (inverts_int32.withDefault hper hc.maxRequestsPerConnection) ?_
    exact bind_eq_ok (inverts_int32.withDefault hejection hc.maxEjectionPercent) rfl
  · intro r hr
    have hcount (name : String) := inverts_int32.yields_withDefault hr name isInt32_zero
    have hseconds (name : String) := inverts_number.yields_withDefault hr name isFinite_zero
    refine (hcount _).bind fun maxConnections hmax => ?_
    refine (hcount _).bind fun maxPendingRequests hpending => ?_
    refine (hcount _).bind fun maxRequests hrequests => ?_
    refine (hseconds _).bind fun sleepWindowSeconds hwindow => ?_
    refine (hcount _).bind fun consecutiveErrors herrors => ?_
    refine (hseconds _).bind fun detectionIntervalSeconds hinterval => ?_
    refine (hcount _).bind fun maxRequestsPerConnection hper => ?_
    refine (hcount _).bind fun maxEjectionPercent hejection => ?_
    exact .pure ⟨hmax, hpending, hrequests, hwindow, herrors, hinterval, hper, hejection⟩

def CircuitBreaker.IsWritable (c : CircuitBreaker) : Prop := ∀ l ∈ c.simple, l.IsWritable

theorem CircuitBreaker.inverts :
    Inverts (CircuitBreaker.decode : Json → Decoded CircuitBreaker) CircuitBreaker.json
      IsWritable := by
  refine .of_record (fun c => [("simpleCb", c.simple.map CircuitLimits.json)])
    (fun c => rfl) (fun c => rfl) (by decide) ?_ ?_
  · intro c r hc ⟨hsimple, _⟩
    exact bind_eq_ok (CircuitLimits.inverts.optional hsimple hc) rfl
  · intro r hr
    refine (CircuitLimits.inverts.yields_optional hr "simpleCb").bind fun simple hsimple => ?_
    exact .pure hsimple

def VersionPolicy.IsWritable (p : VersionPolicy) : Prop := ∀ c ∈ p.circuitBreaker, c.IsWritable

theorem VersionPolicy.inverts :
    Inverts (VersionPolicy.decode : Json → Decoded VersionPolicy) VersionPolicy.json
      IsWritable := by
  refine .of_record
    (fun p => [
      ("tags", if !p.tags.isEmpty then some p.tags.json else none),
      ("loadBalancing", p.loadBalancing.map LoadBalancing.json),
      ("circuitBreaker", p.circuitBreaker.map CircuitBreaker.json)])
    (fun p => by rw [json, Json.onlyIf_eq]; rfl) (fun p => rfl) (by decide) ?_ ?_
  · intro p r hp ⟨htags, hbalancing, hbreaker, _⟩
    refine bind_eq_ok (Tags.inverts.onlyIf htags Tags.eq_empty trivial) ?_
    refine bind_eq_ok (LoadBalancing.inverts.optional hbalancing fun _ _ => trivial) ?_
    exact bind_eq_ok (CircuitBreaker.inverts.optional hbreaker hp) rfl
  · intro r hr
    refine (yields_any _).bind fun tags _ => ?_
    refine (yields_any _).bind fun loadBalancing _ => ?_
    refine (CircuitBreaker.inverts.yields_optional hr _).bind fun circuitBreaker hbreaker => ?_
    exact .pure hbreaker

/-- Whole numbers have 32 bits, and doubles are finite. -/
def DestinationPolicy.IsWritable (p : DestinationPolicy) : Prop := ∀ v ∈ p.versions, v.IsWritable

theorem DestinationPolicy.inverts :
    Inverts (DestinationPolicy.decode : Json → Decoded DestinationPolicy) DestinationPolicy.json
      IsWritable := by
  refine .of_record
    (fun p => [
      ("destination", some (.str p.destination)),
      ("policy",
        if !p.versions.isEmpty then some (.arr (p.versions.map VersionPolicy.json)) else none)])
    (fun p => by rw [json, Json.onlyIf_eq]; rfl) (fun p => rfl) (by decide) ?_ ?_
  · intro p r hp ⟨hdestination, hversions, _⟩
    refine bind_eq_ok (inverts_text.required hdestination trivial) ?_
    exact bind_eq_ok (VersionPolicy.inverts.list.onlyIf hversions eq_nil_of_isEmpty hp) rfl
  · intro r hr
    have hversions := VersionPolicy.inverts.list.yields_withDefault hr "policy"
      (List.forall_mem_nil _)
    refine (yields_any _).bind fun destination _ => ?_
    refine hversions.bind fun versions hversions => ?_
    exact .pure hversions

end MeshControl
