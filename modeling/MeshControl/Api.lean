import MeshControl.Config.Store
import MeshControl.Http
import MeshControl.Json.Source

/-!
A store of configuration reached by requests. A path names a type, or a type and a key; the body
of a request is an object with the content under `spec`. What a body says about its type and
its key must agree with the path.
-/
namespace MeshControl.Api

open Config

def version : String := "0.1.0"

inductive ApiError where
  | unknownType (type : String)
  | unreadable
  | mismatch (field expected actual : String)
  | missingRevision
  | store (cause : StoreError)
deriving DecidableEq, Inhabited

namespace ApiError

def text : ApiError → String
  | unknownType type => s!"unknown type {Text.quote type}"
  | unreadable => s!"invalid request body: {unreadableText}"
  | mismatch field expected actual =>
    s!"body {field} {Text.quote actual} does not match the path ({Text.quote expected})"
  | missingRevision => "PUT requires a revision"
  | store cause => cause.text

/-- There is no status for a sum that overflows: it ends the handler. -/
def storeStatus : StoreError.Kind → Option Nat
  | .unknownType | .invalid => some 400
  | .notFound => some 404
  | .alreadyExists | .revisionMismatch => some 409
  | .unavailable => some 503
  | .conflict | .internal => some 500
  | .overflow => none

def status : ApiError → Option Nat
  | store cause => storeStatus cause.kind
  | _ => some 400

def response (e : ApiError) : Option Http.Response :=
  e.status.map fun status => .plain status (e.text ++ "\n")

end ApiError

/-! ### Bodies -/

structure Body where
  type : String
  /-- Read but not compared: the key that counts is the one of the content. -/
  key : String
  revision : Option Revision
  content : Json

namespace Body

/-- How deep the content may nest inside of a body. -/
def depthLimit : Nat := Json.depthLimit - 1

def decode (d : Json.Document) : Decoded Body := do
  let r ← Decode.record ["type", "key", "revision", "spec"] d
  let type ← r.withDefault "type" "" Decode.text
  let key ← r.withDefault "key" "" Decode.text
  let revision ← r.optional "revision" Decode.text
  let content ← r.required "spec" fun d => Decode.ofOption (d.value? depthLimit)
  return ⟨type, key, revision, content⟩

def read (octets : List UInt8) : Except ApiError Body :=
  match Json.Document.ofOctets? octets with
  | none => .error .unreadable
  | some d => (decode d).mapError fun _ => .unreadable

end Body

/-- An object of a given type, key and revision as it is shown. -/
def recordJson (type key : String) (revision : Revision) (content : Json) : Json :=
  Json.object [
    Json.onlyIf (!type.isEmpty) "type" (.str type),
    Json.onlyIf (!key.isEmpty) "key" (.str key),
    Json.field "revision" (.str revision),
    Json.field "spec" content]

def storedJson (r : Record) : Json := recordJson r.type r.key r.revision r.content.value

/-! ### Requests -/

variable {σ : Type} [Store σ]

def knownType (s : σ) (type : String) : Except ApiError Schema :=
  match (Store.catalog s).get? type with
  | some schema => .ok schema
  | none => .error (.unknownType type)

def stored {α : Type} (r : Except StoreError α) : Except ApiError α := r.mapError .store

/-- A result of a call together with the store after it. -/
abbrev Outcome (σ : Type) := Except ApiError Http.Response × σ

def list (s : σ) (type : String) : Outcome σ :=
  match knownType s type with
  | .error e => (.error e, s)
  | .ok _ =>
    let (result, s) := Store.list s type
    (stored (result.map fun records => .json 200 (.arr (records.map storedJson))), s)

def get (s : σ) (type key : String) : Except ApiError Http.Response := do
  let _ ← knownType s type
  match Store.get s type key with
  | none => throw (.store (.notFound type key))
  | some (content, revision) => return .json 200 (recordJson type key revision content.value)

/-- The message that a body asks to store under a type and a key. -/
def message (s : σ) (type key : String) (body : Body) : Except ApiError Message := do
  let schema ← knownType s type
  if !body.type.isEmpty && body.type != type then
    throw (.mismatch "type" type body.type)
  let message : Message := ⟨schema.messageName, body.content⟩
  match schema.key message with
  | .error problems => throw (.store (.invalid type problems))
  | .ok actual => if actual != key then throw (.mismatch "key" key actual) else return message

/-- Writes the content of a body and shows what was stored. -/
def write (s : σ) (type key : String) (octets : List UInt8) (status : Nat)
    (act : Body → Message → Except ApiError (Except StoreError Revision × σ)) : Outcome σ :=
  let prepared : Except ApiError (Body × Except StoreError Revision × σ) := do
    let body ← Body.read octets
    let message ← message s type key body
    return (body, ← act body message)
  match prepared with
  | .error e => (.error e, s)
  | .ok (body, result, s) =>
    (stored (result.map fun revision =>
      .json status (recordJson type key revision body.content)), s)

def post (s : σ) (type key : String) (octets : List UInt8) : Outcome σ :=
  write s type key octets 201 fun _ message => .ok (Store.post s message)

/-- Replaces an object. The body must say which revision it replaces. -/
def put (s : σ) (type key : String) (octets : List UInt8) : Outcome σ :=
  write s type key octets 200 fun body message =>
    match body.revision with
    | none => .error .missingRevision
    | some revision => .ok (Store.put s message revision)

def delete (s : σ) (type key : String) : Outcome σ :=
  match knownType s type with
  | .error e => (.error e, s)
  | .ok _ =>
    let (result, s) := Store.delete s type key
    (stored (result.map fun _ => .plain 200 ""), s)

/-- The parts of a path between its slashes. -/
def segments (path : String) : List String :=
  (Text.split '/' path).filter (!·.isEmpty)

/-- Answers a request, apart from making a response of an error. -/
def route (s : σ) (method : String) (path : List String) (octets : List UInt8) : Outcome σ :=
  match path with
  | ["v1alpha1", "version"] =>
    if method = "GET" then (.ok (.json 200 (.obj [("version", .str version)])), s)
    else (.ok (.plain 405 ""), s)
  | ["v1alpha1", "config", type] =>
    if method = "GET" then list s type else (.ok (.plain 405 ""), s)
  | ["v1alpha1", "config", type, key] =>
    match method with
    | "GET" => (get s type key, s)
    | "POST" => post s type key octets
    | "PUT" => put s type key octets
    | "DELETE" => delete s type key
    | _ => (.ok (.plain 405 ""), s)
  | "v1alpha1" :: "config" :: _ => (.ok (.plain 405 ""), s)
  | _ => (.ok (.plain 404 ""), s)

/-- Answers a request. There is no response where the handler does not come to an end. -/
def handle (s : σ) (method path : String) (octets : List UInt8) : Option Http.Response × σ :=
  match route s method (segments path) octets with
  | (.ok response, s) => (some response, s)
  | (.error e, s) => (e.response, s)

end MeshControl.Api
