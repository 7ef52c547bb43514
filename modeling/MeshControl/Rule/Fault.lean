import MeshControl.Rule.Condition

/-!
Faults that a rule injects into requests or connections, each into a share of them.
-/
namespace MeshControl

structure Delay where
  percent : Float
  seconds : Float
deriving BEq, Inhabited

structure Abort where
  percent : Float
  status : Int
deriving BEq, Inhabited

structure RequestFault where
  delay : Option Delay
  abort : Option Abort
  /-- Only requests with these headers are disturbed. -/
  headers : HeaderMatches
deriving BEq, Inhabited

structure Throttle where
  percent : Float
  downloadLimit : Int
  uploadLimit : Int
deriving BEq, Inhabited

structure Terminate where
  percent : Float
  seconds : Float
deriving BEq, Inhabited

structure ConnectionFault where
  throttle : Option Throttle
  terminate : Option Terminate
deriving BEq, Inhabited

namespace Delay

def validate (d : Delay) : Problems :=
  Validation.percent "delay" d.percent ++
    problemIf (d.seconds < 0.0) "delay duration must not be negative"

def json (d : Delay) : Json :=
  .obj [("percent", .double d.percent), ("fixedDelaySeconds", .double d.seconds)]

def decode {δ : Type} [Source δ] (d : δ) : Decoded Delay := do
  let r ← Decode.record ["percent", "fixedDelaySeconds"] d
  let percent ← r.required "percent" Decode.number
  let seconds ← r.required "fixedDelaySeconds" Decode.number
  return ⟨percent, seconds⟩

end Delay

namespace Abort

def validate (a : Abort) : Problems :=
  Validation.percent "abort" a.percent ++
    problemIf (!(100 ≤ a.status && a.status ≤ 599)) s!"invalid abort http status {a.status}"

def json (a : Abort) : Json :=
  .obj [("percent", .double a.percent), ("httpStatus", .int a.status)]

def decode {δ : Type} [Source δ] (d : δ) : Decoded Abort := do
  let r ← Decode.record ["percent", "httpStatus"] d
  let percent ← r.required "percent" Decode.number
  let status ← r.required "httpStatus" Decode.int32
  return ⟨percent, status⟩

end Abort

namespace RequestFault

def validate (f : RequestFault) : Problems :=
  (f.delay.map Delay.validate).getD [] ++ (f.abort.map Abort.validate).getD [] ++
    f.headers.validate

def json (f : RequestFault) : Json :=
  Json.object [
    Json.optional "delay" (f.delay.map Delay.json),
    Json.optional "abort" (f.abort.map Abort.json),
    Json.onlyIf (!f.headers.isEmpty) "headers" f.headers.json]

def decode {δ : Type} [Source δ] (d : δ) : Decoded RequestFault := do
  let r ← Decode.record ["delay", "abort", "headers"] d
  let delay ← r.optional "delay" Delay.decode
  let abort ← r.optional "abort" Abort.decode
  let headers ← r.withDefault "headers" Table.empty HeaderMatches.decode
  return ⟨delay, abort, headers⟩

end RequestFault

namespace Throttle

def validate (t : Throttle) : Problems :=
  Validation.percent "throttle" t.percent ++
    problemIf (t.downloadLimit < 0 || t.uploadLimit < 0)
      "bandwidth limits must not be negative"

def json (t : Throttle) : Json :=
  .obj [("percent", .double t.percent), ("downstreamLimitBps", .int t.downloadLimit),
    ("upstreamLimitBps", .int t.uploadLimit)]

def decode {δ : Type} [Source δ] (d : δ) : Decoded Throttle := do
  let r ← Decode.record ["percent", "downstreamLimitBps", "upstreamLimitBps"] d
  let percent ← r.required "percent" Decode.number
  let downloadLimit ← r.withDefault "downstreamLimitBps" 0 Decode.int64
  let uploadLimit ← r.withDefault "upstreamLimitBps" 0 Decode.int64
  return ⟨percent, downloadLimit, uploadLimit⟩

end Throttle

namespace Terminate

def validate (t : Terminate) : Problems :=
  Validation.percent "terminate" t.percent ++
    problemIf (t.seconds < 0.0) "terminate delay must not be negative"

def json (t : Terminate) : Json :=
  .obj [("percent", .double t.percent), ("terminateAfterSeconds", .double t.seconds)]

def decode {δ : Type} [Source δ] (d : δ) : Decoded Terminate := do
  let r ← Decode.record ["percent", "terminateAfterSeconds"] d
  let percent ← r.required "percent" Decode.number
  let seconds ← r.required "terminateAfterSeconds" Decode.number
  return ⟨percent, seconds⟩

end Terminate

namespace ConnectionFault

def validate (f : ConnectionFault) : Problems :=
  (f.throttle.map Throttle.validate).getD [] ++ (f.terminate.map Terminate.validate).getD []

def json (f : ConnectionFault) : Json :=
  Json.object [
    Json.optional "throttle" (f.throttle.map Throttle.json),
    Json.optional "terminate" (f.terminate.map Terminate.json)]

def decode {δ : Type} [Source δ] (d : δ) : Decoded ConnectionFault := do
  let r ← Decode.record ["throttle", "terminate"] d
  let throttle ← r.optional "throttle" Throttle.decode
  let terminate ← r.optional "terminate" Terminate.decode
  return ⟨throttle, terminate⟩

end ConnectionFault

end MeshControl
