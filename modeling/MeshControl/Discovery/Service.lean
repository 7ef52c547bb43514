import MeshControl.Discovery.Endpoint
import MeshControl.Discovery.Metrics

/-!
The discovery service. It keeps its answers until something changes. A request goes in three
steps, between which anything may happen: the answer is looked up, computed, and recorded. An
answer that was being computed while the cache was cleared is given but not kept; the
generation, which every clear moves on in 64 bits, tells.
-/
namespace MeshControl.Discovery

open Proxy Registry Config

structure Stat where
  hit : Nat
  miss : Nat
deriving DecidableEq, Repr, Inhabited

structure Cache where
  responses : Table String
  stats : Table Stat
  generation : UInt64
deriving DecidableEq, Inhabited

structure Service where
  /-- Whether answers are kept at all. -/
  caching : Bool
  cache : Cache
  metrics : Metrics
deriving DecidableEq, Inhabited

namespace Cache

def empty : Cache := ⟨Table.empty, Table.empty, 0⟩

def stat (c : Cache) (path : String) : Stat := (c.stats.find? path).getD ⟨0, 0⟩

def countHit (c : Cache) (path : String) : Cache :=
  let s := c.stat path
  { c with stats := c.stats.insert path { s with hit := s.hit + 1 } }

def countMiss (c : Cache) (path : String) : Cache :=
  let s := c.stat path
  { c with stats := c.stats.insert path { s with miss := s.miss + 1 } }

def clear (c : Cache) : Cache :=
  { c with responses := Table.empty, generation := c.generation + 1 }

def keep (c : Cache) (path body : String) : Cache :=
  { c with responses := c.responses.insert path body }

def statJson (s : Stat) : Json := .obj [("hit", .nat s.hit), ("miss", .nat s.miss)]

def json (c : Cache) : Json :=
  .obj [("cache_stats", .obj (c.stats.toList.map fun (path, s) => (path, statJson s)))]

end Cache

/-- What the first step of a request finds: the answer, or the generation to record it in. -/
inductive Found where
  | answer (body : String)
  | pending (generation : UInt64)
deriving DecidableEq, Repr

namespace Service

def new (caching : Bool) : Service := ⟨caching, Cache.empty, Metrics.zero⟩

/-- Forgets all answers. -/
def clear (s : Service) : Service :=
  { s with cache := s.cache.clear, metrics := s.metrics.cleared }

def lookup (s : Service) (path label : String) : Found × Service :=
  match if s.caching then s.cache.responses.find? path else none with
  | some body =>
    (.answer body, { s with cache := s.cache.countHit path, metrics := s.metrics.hit label })
  | none => (.pending s.cache.generation, s)

/-- Keeps an answer unless the cache was cleared since its generation. -/
def keep (s : Service) (path body : String) (generation : UInt64) : Service :=
  let cache := s.cache.countMiss path
  if cache.generation = generation then
    let cache := cache.keep path body
    { s with cache, metrics := s.metrics.setEntries cache.responses.size }
  else { s with cache }

def jsonText (body : String) : Http.Response := .ofType 200 Http.Response.jsonType body

def refusal (e : RequestError) : Http.Response := .plain e.status (e.text ++ "\n")

/-- Counts what came of a request, keeps a good answer and gives it. -/
def record (s : Service) (path label : String) (generation : UInt64) :
    Except RequestError Json → Http.Response × Service
  | .error e =>
    (refusal e, if e.isFailure then { s with metrics := s.metrics.error label } else s)
  | .ok j =>
    let body := j.pretty
    let s := { s with metrics := s.metrics.miss label }
    (jsonText body, if s.caching then s.keep path body generation else s)

/-! ### Requests -/

/-- The endpoint that a request asks for, or the answer that there is none. -/
def admission (method path : String) : Except Http.Response Endpoint :=
  if method ≠ "GET" then .error (.plain 405 "")
  else match Endpoint.ofPath? path with
    | some e => .ok e
    | none => .error (.plain 404 s!"unknown path {path}\n")

variable {ρ σ : Type} [Directory ρ] [Store σ]

/-- Answers a request. While the answer is computed the service may be changed by `meanwhile`. -/
def handleWhile (s : Service) (meanwhile : Endpoint → Service → Service) (mesh : Mesh)
    (registry : ρ) (store : σ) (method path : String) : Http.Response × Service × σ :=
  match admission method path with
  | .error response => (response, s, store)
  | .ok .cacheStats => (jsonText s.cache.json.pretty, s, store)
  | .ok endpoint =>
    match s.lookup path endpoint.label with
    | (.answer body, s) => (jsonText body, s, store)
    | (.pending generation, s) =>
      let (result, store) := respond mesh registry store endpoint
      let s := meanwhile endpoint s
      let (response, s) := s.record path endpoint.label generation result
      (response, s, store)

def handle (s : Service) (mesh : Mesh) (registry : ρ) (store : σ) (method path : String) :
    Http.Response × Service × σ :=
  s.handleWhile (fun _ s => s) mesh registry store method path

end Service

end MeshControl.Discovery
