import Mathlib.Data.List.Perm.Basic
import MeshControl.Proofs.Discovery.Counts
import MeshControl.Proofs.Discovery.Traffic

/-!
The accounts of the cache. A request is counted for its path and for its endpoint, and an answer
that is computed is counted for the endpoint before it is for the path; in between others go on and
the cache may be cleared. Each count is exact all the same: what the gauge says is what is kept,
each path was counted as often as it was answered, and when nothing is in flight the counts of an
endpoint are those of its paths.
-/
namespace MeshControl.Discovery

open Registry Config

/-! ### Requests in flight -/

/-- A request that was not answered from the cache. -/
structure Errand where
  path : String
  endpoint : Endpoint
  generation : UInt64
deriving DecidableEq

/-- A service at work, with all that is under way. -/
structure Desk where
  service : Service
  /-- The requests whose answers are being computed. -/
  computing : List Errand
  /-- The requests whose answers are computed and counted for their endpoints only. -/
  counted : List (Errand × String)
  /-- The paths of the requests that were answered with a body, once for each. -/
  answered : List String

namespace Desk

inductive Move where
  | clear
  /-- A request comes in and is refused, answered from the cache or put under way. -/
  | request (method path : String)
  /-- A computation ends. If it fails the request is answered with the failure. -/
  | compute (errand : Errand) (result : Except RequestError Json)
  /-- The answer is counted for its path and given. -/
  | settle (errand : Errand) (body : String)

def start : Desk := ⟨.new true, [], [], []⟩

def request (d : Desk) (path : String) (endpoint : Endpoint) : Desk :=
  match d.service.lookup path endpoint.label with
  | (.answer _, service) => { d with service, answered := path :: d.answered }
  | (.pending generation, service) =>
    { d with service, computing := ⟨path, endpoint, generation⟩ :: d.computing }

def move (d : Desk) : Move → Desk
  | .clear => { d with service := d.service.clear }
  | .request method path =>
    match Service.admission method path with
    | .error _ | .ok .cacheStats => d
    | .ok endpoint => d.request path endpoint
  | .compute errand result =>
    if errand ∈ d.computing then
      let computing := d.computing.erase errand
      match result with
      | .error e =>
        let recorded := d.service.record errand.path errand.endpoint.label errand.generation
          (.error e)
        { d with service := recorded.2, computing }
      | .ok j =>
        { d with
          service := d.service.countAnswer errand.endpoint.label
          computing
          counted := (errand, j.pretty) :: d.counted }
    else d
  | .settle errand body =>
    if (errand, body) ∈ d.counted then
      { d with
        service := d.service.settle errand.path body errand.generation
        counted := d.counted.erase (errand, body)
        answered := errand.path :: d.answered }
    else d

def after (d : Desk) (moves : List Move) : Desk := moves.foldl move d

end Desk

/-! ### Exact accounts -/

def Errand.IsNamed (errand : Errand) : Prop := Endpoint.ofPath? errand.path = some errand.endpoint

/-- How many answers of an endpoint are counted for it and not for their paths. -/
def Desk.ahead (counted : List (Errand × String)) (label : String) : Nat :=
  counted.countP (·.1.endpoint.label == label)

theorem Desk.ahead_cons (errand : Errand) (body : String) (counted : List (Errand × String))
    (label : String) :
    ahead ((errand, body) :: counted) label =
      ahead counted label + if label = errand.endpoint.label then 1 else 0 := by
  rw [ahead, List.countP_cons]
  by_cases hsame : label = errand.endpoint.label
  · simp [hsame, ahead]
  · simp [hsame, Ne.symm hsame, ahead]

theorem Desk.ahead_erase {errand : Errand} {body : String} {counted : List (Errand × String)}
    (hmem : (errand, body) ∈ counted) (label : String) :
    ahead (counted.erase (errand, body)) label + (if label = errand.endpoint.label then 1 else 0) =
      ahead counted label := by
  rw [← ahead_cons]
  exact ((List.perm_cons_erase hmem).countP_eq _).symm

/-- The accounts at any moment, be it that answers are between their counts. -/
structure Desk.Exact (d : Desk) : Prop where
  caching : d.service.caching = true
  entries : d.service.metrics.entries = d.service.cache.responses.size
  answered : ∀ path, d.service.cache.answers path = d.answered.count path
  hits : ∀ label, Metrics.count d.service.metrics.hits label =
    d.service.cache.total Stat.hit label
  misses : ∀ label, Metrics.count d.service.metrics.misses label =
    d.service.cache.total Stat.miss label + Desk.ahead d.counted label
  computing : ∀ errand ∈ d.computing, errand.IsNamed
  counted : ∀ c ∈ d.counted, c.1.IsNamed

namespace Desk.Exact

variable {d : Desk}

theorem start : Desk.start.Exact where
  caching := rfl
  entries := rfl
  answered _ := rfl
  hits _ := rfl
  misses _ := rfl
  computing := nofun
  counted := nofun

theorem clear (h : d.Exact) : (d.move .clear).Exact :=
  { h with entries := rfl }

/-- A desk is as exact as one with the same accounts. -/
theorem of_sameAccounts (h : d.Exact) {service : Service} {computing : List Errand}
    (hsame : d.service.SameAccounts service)
    (hcomputing : ∀ errand ∈ computing, errand.IsNamed) :
    Desk.Exact { d with service, computing } where
  caching := hsame.caching.trans h.caching
  entries := by rw [hsame.entries, hsame.cache, h.entries]
  answered path := by rw [hsame.cache, h.answered path]
  hits label := by rw [hsame.hits, hsame.cache, h.hits]
  misses label := by rw [hsame.misses, hsame.cache, h.misses]
  computing := hcomputing
  counted := h.counted

/-- An answer from the cache is counted for the path and for the endpoint at once. -/
theorem hit (h : d.Exact) {path : String} {endpoint : Endpoint}
    (hpath : Endpoint.ofPath? path = some endpoint) :
    Desk.Exact { d with
      service := { d.service with
        cache := d.service.cache.countHit path
        metrics := d.service.metrics.hit endpoint.label }
      answered := path :: d.answered } := by
  have hlabel := labelOf?_of_ofPath? hpath
  constructor
  case caching => exact h.caching
  case entries => exact h.entries
  case answered =>
    intro path'
    rw [Cache.answers_countHit, List.count_cons, h.answered]
  case hits =>
    intro label
    rw [Cache.hits_countHit _ hlabel, ← h.hits]
    exact Metrics.count_increment _ _ _
  case misses =>
    intro label
    rw [Cache.misses_countHit _ hlabel]
    exact h.misses label
  case computing => exact h.computing
  case counted => exact h.counted

theorem request (h : d.Exact) {path : String} {endpoint : Endpoint}
    (hpath : Endpoint.ofPath? path = some endpoint) : (d.request path endpoint).Exact := by
  rw [Desk.request, Service.lookup, if_pos h.caching]
  cases d.service.cache.responses.find? path with
  | some body => exact h.hit hpath
  | none =>
    refine { h with computing := fun errand herrand => ?_ }
    rcases List.mem_cons.mp herrand with rfl | herrand
    · exact hpath
    · exact h.computing errand herrand

theorem compute (h : d.Exact) (errand : Errand) (result : Except RequestError Json) :
    (d.move (.compute errand result)).Exact := by
  rw [Desk.move]
  split
  · next herrand =>
    have hcomputing : ∀ other ∈ d.computing.erase errand, other.IsNamed := fun other hother =>
      h.computing other (List.mem_of_mem_erase hother)
    cases result with
    | error e =>
      have hsame := d.service.sameAccounts_of_error errand.path errand.endpoint.label
        errand.generation e
      exact h.of_sameAccounts hsame hcomputing
    | ok j =>
      constructor
      case caching => exact h.caching
      case entries => exact h.entries
      case answered => exact h.answered
      case hits => exact h.hits
      case misses =>
        intro label
        have hcount := Metrics.count_increment d.service.metrics.misses errand.endpoint.label label
        rw [h.misses, Nat.add_assoc, ← ahead_cons] at hcount
        exact hcount
      case computing => exact hcomputing
      case counted =>
        intro c hc
        rcases List.mem_cons.mp hc with rfl | hc
        · exact h.computing errand herrand
        · exact h.counted c hc
  · exact h

/-- The second count of an answer makes up for the first. -/
theorem settle (h : d.Exact) (errand : Errand) (body : String) :
    (d.move (.settle errand body)).Exact := by
  rw [Desk.move]
  split
  · next hmem =>
    have hnamed : errand.IsNamed := h.counted (errand, body) hmem
    have hlabel := labelOf?_of_ofPath? hnamed
    obtain ⟨responses, entries, hkeep, hentries⟩ :=
      d.service.keep_eq errand.path body errand.generation
    rw [Service.settle, if_pos h.caching, hkeep]
    constructor
    case caching => exact h.caching
    case entries =>
      rcases hentries with ⟨rfl, rfl⟩ | rfl
      · exact h.entries
      · rfl
    case answered =>
      intro path
      have hcount := d.service.cache.answers_countMiss errand.path path
      rw [h.answered, ← List.count_cons] at hcount
      exact hcount
    case hits =>
      intro label
      have hcount := d.service.cache.hits_countMiss hlabel label
      rw [← h.hits] at hcount
      exact hcount.symm
    case misses =>
      intro label
      have hcount := d.service.cache.misses_countMiss hlabel label
      have herase := ahead_erase hmem label
      have hmisses := h.misses label
      change Metrics.count d.service.metrics.misses label =
        (d.service.cache.countMiss errand.path).total Stat.miss label +
          ahead (d.counted.erase (errand, body)) label
      omega
    case computing => exact h.computing
    case counted => exact fun c hc => h.counted c (List.mem_of_mem_erase hc)
  · exact h

theorem move (h : d.Exact) : ∀ m : Move, (d.move m).Exact
  | .clear => h.clear
  | .request method path => by
    rw [Desk.move]
    split
    · exact h
    · exact h
    · next endpoint _ hadmission => exact h.request (Service.ofPath?_of_admission hadmission)
  | .compute errand result => h.compute errand result
  | .settle errand body => h.settle errand body

theorem after (h : d.Exact) (moves : List Move) : (d.after moves).Exact := by
  induction moves generalizing d with
  | nil => exact h
  | cons m moves ih => exact ih (h.move m)

/-- With no answer between its counts an endpoint was counted as often as its paths were. -/
theorem misses_of_settled (h : d.Exact) (hsettled : d.counted = []) (label : String) :
    Metrics.count d.service.metrics.misses label = d.service.cache.total Stat.miss label := by
  rw [h.misses, hsettled]
  rfl

end Desk.Exact

/-! ### Requests handled in one go -/

/-- Whether a request for a path was answered from the discovery, neither with an error nor with the
statistics. -/
def IsBody (path : String) (response : Http.Response) : Prop :=
  response.status = 200 ∧ Endpoint.ofPath? path ≠ some .cacheStats

instance (path : String) (response : Http.Response) : Decidable (IsBody path response) :=
  inferInstanceAs (Decidable (_ ∧ _))

theorem RequestError.status_ne_ok (e : RequestError) : e.status ≠ 200 := by
  cases e <;> simp [status]

theorem Service.status_of_admission_error {method path : String} {response : Http.Response}
    (h : admission method path = .error response) : response.status ≠ 200 := by
  rw [admission] at h
  split at h
  · cases h
    simp [Http.Response.plain]
  · split at h
    · cases h
    · cases h
      simp [Http.Response.plain]

namespace Desk

variable {ρ σ : Type} [Directory ρ] [Store σ]

/-- What a request that is handled in one go makes of a desk. It takes moves like those that others
take in between, and if it does not give a body it leaves the accounts alone. -/
structure Handles (d : Desk) (path : String) (response : Http.Response) (service : Service) :
    Prop where
  moves : ∃ moves, d.after moves =
    { d with service, answered := if IsBody path response then path :: d.answered else d.answered }
  same : ¬ IsBody path response → d.service.SameAccounts service

variable {d : Desk} {path : String} {response : Http.Response} {service : Service}

theorem Handles.of_isBody {moves : List Move} (hbody : IsBody path response)
    (hmoves : d.after moves = { d with service, answered := path :: d.answered }) :
    d.Handles path response service where
  moves := ⟨moves, by rw [hmoves, if_pos hbody]⟩
  same hnot := absurd hbody hnot

theorem Handles.of_not_isBody {moves : List Move} (hbody : ¬ IsBody path response)
    (hmoves : d.after moves = { d with service }) (hsame : d.service.SameAccounts service) :
    d.Handles path response service where
  moves := ⟨moves, by rw [hmoves, if_neg hbody]⟩
  same _ := hsame

theorem move_request (d : Desk) {method path : String} {endpoint : Endpoint}
    (hadmission : Service.admission method path = .ok endpoint) (hcached : endpoint ≠ .cacheStats) :
    d.move (.request method path) = d.request path endpoint := by
  rw [move, hadmission]
  cases endpoint with
  | cacheStats => exact absurd rfl hcached
  | _ => rfl

/-- A request that is not answered from the cache ends with one move if it fails and with two if it
does not. -/
theorem handles_record (d : Desk) {method path : String} {errand : Errand}
    (hrequest : d.move (.request method path) = { d with computing := errand :: d.computing })
    (hcached : Endpoint.ofPath? errand.path ≠ some .cacheStats)
    (result : Except RequestError Json) :
    let recorded := d.service.record errand.path errand.endpoint.label errand.generation result
    d.Handles errand.path recorded.1 recorded.2 := by
  cases result with
  | error e =>
    have hbody : ¬ IsBody errand.path (Service.refusal e) := fun hbody => e.status_ne_ok hbody.1
    have hmoves : d.after [.request method path, .compute errand (.error e)] =
        { d with service := (d.service.record errand.path errand.endpoint.label errand.generation
          (.error e)).2 } := by
      simp only [after, List.foldl_cons, List.foldl_nil, hrequest]
      simp only [move, List.mem_cons_self, if_true, List.erase_cons_head]
    exact .of_not_isBody hbody hmoves (d.service.sameAccounts_of_error _ _ _ e)
  | ok j =>
    have hbody : IsBody errand.path (Service.jsonText j.pretty) := ⟨rfl, hcached⟩
    have hmoves : d.after [.request method path, .compute errand (.ok j),
          .settle errand j.pretty] =
        { d with
          service := (d.service.countAnswer errand.endpoint.label).settle errand.path j.pretty
            errand.generation
          answered := errand.path :: d.answered } := by
      simp only [after, List.foldl_cons, List.foldl_nil, hrequest]
      simp only [move, List.mem_cons_self, if_true, List.erase_cons_head]
    rw [Service.record_ok]
    exact .of_isBody hbody hmoves

/-- A request that is handled in one go makes its moves one after the other. -/
theorem handles_handle (d : Desk) (mesh : Mesh) (registry : ρ) (store : σ)
    (method path : String) :
    let answer := d.service.handle mesh registry store method path
    d.Handles path answer.1 answer.2.1 := by
  have hnothing : d.after [] = d := rfl
  rw [Service.handle, Service.handleWhile]
  split
  · next response hadmission =>
    have hbody : ¬ IsBody path response := fun hbody =>
      Service.status_of_admission_error hadmission hbody.1
    exact .of_not_isBody hbody hnothing (.refl _)
  · next hadmission =>
    have hbody : ¬ IsBody path (Service.jsonText d.service.cache.json.pretty) := fun hbody =>
      hbody.2 (Service.ofPath?_of_admission hadmission)
    exact .of_not_isBody hbody hnothing (.refl _)
  · next endpoint hcached hadmission =>
    have hpath : Endpoint.ofPath? path ≠ some .cacheStats := by
      rw [Service.ofPath?_of_admission hadmission]
      exact fun heq => hcached (Option.some.inj heq)
    have hmove := d.move_request hadmission hcached
    rw [Desk.request] at hmove
    split
    · next body service hfound =>
      rw [hfound] at hmove
      have hmoves : d.after [.request method path] =
          { d with service, answered := path :: d.answered } := hmove
      exact .of_isBody ⟨rfl, hpath⟩ hmoves
    · next generation service hfound =>
      rw [hfound] at hmove
      obtain rfl := Service.eq_of_lookup_pending hfound
      exact d.handles_record hmove hpath (respond mesh registry store endpoint).1

/-- What is not asked of the discovery is not accounted for. -/
theorem move_request_of_not_discovery (d : Desk) {method path : String}
    (h : method ≠ "GET" ∨ Endpoint.ofPath? path = none ∨
      Endpoint.ofPath? path = some .cacheStats) :
    d.move (.request method path) = d := by
  rw [move]
  split
  · rfl
  · rfl
  · next endpoint hcached hadmission =>
    have hpath := Service.ofPath?_of_admission hadmission
    rcases h with hmethod | hnone | hstats
    · rw [Service.admission, if_pos hmethod] at hadmission
      cases hadmission
    · rw [hnone] at hpath
      cases hpath
    · rw [hstats] at hpath
      exact absurd (Option.some.inj hpath).symm hcached

/-- A request that is not answered at once leaves the service as it is. -/
theorem service_move_request (d : Desk) {method path : String}
    (h : (d.move (.request method path)).answered = d.answered) :
    (d.move (.request method path)).service = d.service := by
  rw [move] at h ⊢
  split at h
  · rfl
  · rfl
  · next endpoint _ _ =>
    rw [Desk.request] at h ⊢
    split at h
    · exact absurd h (List.cons_ne_self _ _)
    · next hfound => exact Service.eq_of_lookup_pending hfound

theorem sameAccounts_of_failure (d : Desk) (errand : Errand) (e : RequestError) :
    d.service.SameAccounts (d.move (.compute errand (.error e))).service := by
  rw [move]
  split
  · exact d.service.sameAccounts_of_error errand.path errand.endpoint.label errand.generation e
  · exact .refl _

/-- However requests and clears go on among each other, a service that keeps its answers says how
many it keeps; it has counted each path as often as it was answered from the discovery; and, when
nothing is in flight, each endpoint as often as its paths. What is refused or fails, and what is not
asked of the discovery, changes none of this. A request that is handled in one go is such moves. -/
theorem cache_accounts_exact (moves : List Move) :
    let d := start.after moves
    let s := d.service
    s.metrics.entries = s.cache.responses.size ∧
    (∀ path, (s.cache.stat path).hit + (s.cache.stat path).miss = d.answered.count path) ∧
    (d.computing = [] → d.counted = [] → ∀ label,
      Metrics.count s.metrics.hits label = s.cache.total Stat.hit label ∧
      Metrics.count s.metrics.misses label = s.cache.total Stat.miss label) ∧
    (∀ method path, (method ≠ "GET" ∨ Endpoint.ofPath? path = none ∨
        Endpoint.ofPath? path = some .cacheStats) → d.move (.request method path) = d) ∧
    (∀ method path, (d.move (.request method path)).answered = d.answered →
      (d.move (.request method path)).service = s) ∧
    (∀ errand e, s.SameAccounts (d.move (.compute errand (.error e))).service) ∧
    ∀ (ρ σ : Type) [Directory ρ] [Store σ] (mesh : Mesh) (registry : ρ) (store : σ)
        (method path : String),
      let answer := s.handle mesh registry store method path
      d.Handles path answer.1 answer.2.1 := by
  intro d s
  have hexact : d.Exact := Exact.start.after moves
  refine ⟨hexact.entries, hexact.answered, ?_, ?_, ?_, ?_, ?_⟩
  · intro _ hsettled label
    exact ⟨hexact.hits label, hexact.misses_of_settled hsettled label⟩
  · exact fun method path h => d.move_request_of_not_discovery h
  · exact fun method path h => d.service_move_request h
  · exact d.sameAccounts_of_failure
  · intro ρ σ _ _ mesh registry store method path
    exact d.handles_handle mesh registry store method path

end Desk

end MeshControl.Discovery
