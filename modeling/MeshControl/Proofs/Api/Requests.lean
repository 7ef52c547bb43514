import Mathlib.Data.List.Nodup
import MeshControl.Api
import MeshControl.Proofs.Config.Ownership
import MeshControl.Rule.Selection

/-!
Requests to a store in memory that holds the configuration of the mesh. Each ends without a
response, is refused, reads, writes one record or deletes one; only the last two change what can be
read.
-/
namespace MeshControl.Api

open Config

structure Request where
  method : String
  path : String
  octets : List UInt8

namespace Request

def handle (m : Memory) (q : Request) : Option Http.Response × Memory :=
  Api.handle m q.method q.path q.octets

/-- The store after some requests. -/
def after (m : Memory) (qs : List Request) : Memory := qs.foldl (fun m q => (q.handle m).2) m

/-- The path of a record. -/
def IsAt (q : Request) (type key : String) : Prop :=
  segments q.path = ["v1alpha1", "config", type, key]

/-- The revision that the body names. -/
def revision? (q : Request) : Option Revision :=
  (Body.read q.octets).toOption.bind Body.revision

def isWrite (q : Request) : Bool := q.method = "POST" || q.method = "PUT"

end Request

/-- The status of the answer to a request, if there is one. -/
def status? (answer : Option Http.Response) : Option Nat := answer.map (·.status)

theorem ApiError.status?_response (e : ApiError) : status? e.response = e.status := by
  unfold status? response
  rw [Option.map_map]
  exact Option.map_id'

/-- An error that is answered at all is answered as a failure. -/
theorem ApiError.status_ge {e : ApiError} {answer : Http.Response} (h : e.response = some answer) :
    400 ≤ answer.status := by
  have hstatus : e.status = some answer.status := by
    rw [← e.status?_response, h]
    rfl
  cases e with
  | store cause =>
    change storeStatus cause.kind = some answer.status at hstatus
    cases hkind : cause.kind <;> rw [hkind] at hstatus <;> simp only [storeStatus] at hstatus <;>
      grind
  | unknownType | unreadable | mismatch | missingRevision =>
    exact Nat.le_of_eq (Option.some.inj hstatus)

/-! ### Messages -/

theorem knownType_eq_ok {m : Memory} {type : String} {s : Schema} (h : knownType m type = .ok s) :
    m.catalog.get? type = some s := by
  unfold knownType at h
  split at h
  · next found hfound =>
    cases h
    exact hfound
  · cases h

theorem message_eq_ok {m : Memory} {type key : String} {body : Body} {content : Message}
    (h : message m type key body = .ok content) :
    ∃ s, m.catalog.get? type = some s ∧ content = ⟨s.messageName, body.content⟩ ∧
      s.key content = .ok key := by
  simp only [message, bind, Except.bind] at h
  cases hs : knownType m type with
  | error e => simp [hs] at h
  | ok s =>
    simp only [hs] at h
    split at h
    · cases h
    · cases hkey : s.key ⟨s.messageName, body.content⟩ with
      | error problems => simp [hkey, throw, throwThe, MonadExceptOf.throw] at h
      | ok actual =>
        simp only [hkey, pure, Except.pure] at h
        split at h
        · cases h
        · next hsame =>
          cases h
          refine ⟨s, knownType_eq_ok hs, rfl, ?_⟩
          have hactual : actual = key := by simpa using hsame
          rw [hkey, hactual]

/-- The message of a path is written only under the type and the key of the path. -/
theorem accept_of_message {m : Memory} (hsound : m.catalog.IsSound) {type key : String}
    {body : Body} {content : Message} (h : message m type key body = .ok content) {s : Schema}
    {key' : String} (haccept : m.accept content = .ok (s, key')) : s.type = type ∧ key' = key := by
  obtain ⟨found, hfound, rfl, hkey⟩ := message_eq_ok h
  obtain ⟨hs, -, -, hkey'⟩ := Memory.accept_eq_ok_iff.mp haccept
  obtain ⟨hmem, htype⟩ := hsound.get?_eq_some_iff.mp hfound
  rw [hsound.byMessage?_eq_some_iff.mpr ⟨hmem, rfl⟩] at hs
  obtain rfl := Option.some.inj hs
  rw [hkey] at hkey'
  exact ⟨htype, (Except.ok.inj hkey').symm⟩

/-! ### What a request comes to -/

/-- The record that a write leaves. -/
def written (m : Memory) (type key : String) (content : Message) : Record :=
  ⟨type, key, Memory.revisionAt m.draw.writes, content⟩

/-- A write is a creation, or it replaces the revision that its body names. -/
inductive Admits (m : Memory) (q : Request) (type key : String) : Nat → Prop
  | created (hmethod : q.method = "POST") (habsent : m.held? type key = none) :
      Admits m q type key 201
  | replaced (current : Entry) (hmethod : q.method = "PUT")
      (hpresent : m.held? type key = some current)
      (hrevision : q.revision? = some current.revision) : Admits m q type key 200

/-- The answer to a request, if there is one, and the store after it. -/
inductive Course (m : Memory) (q : Request) : Option Http.Response → Memory → Prop
  | ended : Course m q none m
  | refused (answer : Http.Response) (hstatus : 400 ≤ answer.status) : Course m q (some answer) m
  | drew (answer : Http.Response) (hstatus : 400 ≤ answer.status) (hwrite : q.isWrite = true) :
      Course m q (some answer) m.draw
  | read (answer : Http.Response) (hmethod : q.method = "GET") : Course m q (some answer) m
  | wrote (type key : String) (content : Message) (status : Nat) (hpath : q.IsAt type key)
      (hadmits : Admits m q type key status) (hknown : (m.catalog.get? type).isSome = true) :
      Course m q (some (.json status (storedJson (written m type key content))))
        (m.draw.write type key ⟨content, Memory.revisionAt m.draw.writes⟩)
  | deleted (type key : String) (hpath : q.IsAt type key) (hmethod : q.method = "DELETE")
      (hknown : (m.catalog.get? type).isSome = true) :
      Course m q (some (.plain 200 "")) (m.remove type key)

/-- A response together with the store, when errors are made responses too. -/
def respond (o : Outcome Memory) : Option Http.Response × Memory :=
  match o with
  | (.ok response, m) => (some response, m)
  | (.error e, m) => (e.response, m)

/-- An outcome that is a possible one for a request. -/
def Possible (m : Memory) (q : Request) (o : Outcome Memory) : Prop :=
  Course m q (respond o).1 (respond o).2

theorem possible_error (m : Memory) (q : Request) (e : ApiError) : Possible m q (.error e, m) := by
  change Course m q e.response m
  cases hresponse : e.response with
  | none => exact .ended
  | some answer => exact .refused answer (ApiError.status_ge hresponse)

theorem possible_plain (m : Memory) (q : Request) {status : Nat} (h : 400 ≤ status) :
    Possible m q (.ok (.plain status ""), m) := .refused _ h

theorem possible_list {m : Memory} {q : Request} (hmethod : q.method = "GET") (type : String) :
    Possible m q (list m type) := by
  unfold list
  split
  · exact possible_error m q _
  · exact .read _ hmethod

theorem possible_get {m : Memory} {q : Request} (hmethod : q.method = "GET") (type key : String) :
    Possible m q (get m type key, m) := by
  cases hget : get m type key with
  | error e => exact possible_error m q e
  | ok answer => exact .read answer hmethod

theorem possible_delete {m : Memory} {q : Request} {type key : String} (hpath : q.IsAt type key)
    (hmethod : q.method = "DELETE") : Possible m q (delete m type key) := by
  unfold delete
  split
  · exact possible_error m q _
  · change Possible m q (stored ((m.delete type key).1.map fun _ => .plain 200 ""),
      (m.delete type key).2)
    cases hwritable : (m.catalog.get? type).any (!·.internal) with
    | false =>
      rw [Memory.delete_of_unwritable key hwritable]
      exact possible_error m q _
    | true =>
      rw [Memory.delete_of_writable key hwritable]
      split
      · exact possible_error m q _
      · obtain ⟨s, hs, -⟩ := (Option.any_eq_true _ _).mp hwritable
        exact .deleted type key hpath hmethod (by simp [hs])

/-- A write is refused before it reaches the store, or it is what the store makes of it. -/
theorem write_cases (m : Memory) (type key : String) (octets : List UInt8) (status : Nat)
    (act : Body → Message → Except ApiError (Except StoreError Revision × Memory)) :
    (∃ e, write m type key octets status act = (.error e, m)) ∨
      ∃ body content result m', Body.read octets = .ok body ∧
        message m type key body = .ok content ∧ act body content = .ok (result, m') ∧
        write m type key octets status act = (stored (result.map fun revision =>
          .json status (recordJson type key revision body.content)), m') := by
  unfold write
  cases hbody : Body.read octets with
  | error e => exact .inl ⟨e, rfl⟩
  | ok body =>
    cases hcontent : message m type key body with
    | error e => exact .inl ⟨e, by simp [bind, Except.bind, hcontent]⟩
    | ok content =>
      cases hact : act body content with
      | error e => exact .inl ⟨e, by simp [bind, Except.bind, hcontent, hact]⟩
      | ok outcome =>
        refine .inr ⟨body, content, outcome.1, outcome.2, rfl, hcontent, hact, ?_⟩
        simp [bind, Except.bind, hcontent, hact, pure, Except.pure]

/-- What a store did with an acceptable message makes a possible outcome. -/
theorem possible_write {m : Memory} {q : Request} {type key : String} {octets : List UInt8}
    {status : Nat} {act : Body → Message → Except ApiError (Except StoreError Revision × Memory)}
    (hact : ∀ body content result m', Body.read octets = .ok body →
      message m type key body = .ok content → act body content = .ok (result, m') →
      Possible m q (stored (result.map fun revision =>
        .json status (recordJson type key revision body.content)), m')) :
    Possible m q (write m type key octets status act) := by
  rcases write_cases m type key octets status act with ⟨e, he⟩ |
    ⟨body, content, result, m', hbody, hcontent, hresult, hwrite⟩
  · rw [he]
    exact possible_error m q e
  · rw [hwrite]
    exact hact body content result m' hbody hcontent hresult

theorem possible_post {m : Memory} (hsound : m.catalog.IsSound) {q : Request} {type key : String}
    (hpath : q.IsAt type key) (hmethod : q.method = "POST") :
    Possible m q (post m type key q.octets) := by
  refine possible_write ?_
  intro body content result m' hbody hcontent hact
  obtain ⟨rfl, rfl⟩ : (m.post content).1 = result ∧ (m.post content).2 = m' :=
    Prod.mk.inj (Except.ok.inj hact)
  cases haccept : m.accept content with
  | error e =>
    rw [Memory.post_of_refused haccept]
    exact possible_error m q (.store e)
  | ok place =>
    obtain ⟨s, key'⟩ := place
    obtain ⟨rfl, rfl⟩ := accept_of_message hsound hcontent haccept
    obtain ⟨found, hfound, hmessage, -⟩ := message_eq_ok hcontent
    rw [Memory.post_of_accepted haccept]
    split
    · have hwrite : q.isWrite = true := by simp [Request.isWrite, hmethod]
      exact .drew _ (ApiError.status_ge (e := .store (.alreadyExists s.type key')) rfl) hwrite
    · next habsent =>
      subst hmessage
      exact .wrote s.type key' ⟨found.messageName, body.content⟩ 201 hpath
        (.created hmethod (by simpa using habsent)) (by simp [hfound])

theorem possible_put {m : Memory} (hsound : m.catalog.IsSound) {q : Request} {type key : String}
    (hpath : q.IsAt type key) (hmethod : q.method = "PUT") :
    Possible m q (put m type key q.octets) := by
  refine possible_write ?_
  intro body content result m' hbody hcontent hact
  cases hrevision : body.revision with
  | none => simp [hrevision] at hact
  | some r =>
    simp only [hrevision] at hact
    obtain ⟨rfl, rfl⟩ : (m.put content r).1 = result ∧ (m.put content r).2 = m' :=
      Prod.mk.inj (Except.ok.inj hact)
    cases haccept : m.accept content with
    | error e =>
      rw [Memory.put_of_refused haccept]
      exact possible_error m q (.store e)
    | ok place =>
      obtain ⟨s, key'⟩ := place
      obtain ⟨rfl, rfl⟩ := accept_of_message hsound hcontent haccept
      obtain ⟨found, hfound, hmessage, -⟩ := message_eq_ok hcontent
      have hwrite : q.isWrite = true := by simp [Request.isWrite, hmethod]
      cases hheld : m.held? s.type key' with
      | none =>
        rw [Memory.put_of_absent haccept hheld]
        exact .drew _ (ApiError.status_ge (e := .store (.notFound s.type key')) rfl) hwrite
      | some current =>
        rw [Memory.put_of_present haccept hheld]
        split
        · exact .drew _ (ApiError.status_ge
            (e := .store (.revisionMismatch s.type key' r current.revision)) rfl) hwrite
        · next hsame =>
          have hnamed : q.revision? = some current.revision := by
            rw [Request.revision?, hbody, not_not.mp hsame]
            exact hrevision
          subst hmessage
          exact .wrote s.type key' ⟨found.messageName, body.content⟩ 200 hpath
            (.replaced current hmethod hheld hnamed) (by simp [hfound])

theorem handle_eq_respond (m : Memory) (q : Request) :
    q.handle m = respond (route m q.method (segments q.path) q.octets) := by
  simp only [Request.handle, handle]
  cases route m q.method (segments q.path) q.octets with
  | mk result m' => cases result <;> rfl

/-- Every request takes one of the courses. -/
theorem course_handle {m : Memory} (hsound : m.catalog.IsSound) (q : Request) :
    Course m q (q.handle m).1 (q.handle m).2 := by
  have hpossible : Possible m q (route m q.method (segments q.path) q.octets) := by
    unfold route
    split
    · split
      · next hmethod => exact .read _ hmethod
      · exact possible_plain m q (by decide)
    · split
      · next hmethod => exact possible_list hmethod _
      · exact possible_plain m q (by decide)
    · next type key hpath =>
      split
      · next hmethod => exact possible_get hmethod type key
      · next hmethod => exact possible_post hsound hpath hmethod
      · next hmethod => exact possible_put hsound hpath hmethod
      · next hmethod => exact possible_delete hpath hmethod
      · exact possible_plain m q (by decide)
    · exact possible_plain m q (by decide)
    · exact possible_plain m q (by decide)
  rw [handle_eq_respond]
  exact hpossible

/-! ### Reading -/

theorem knownType_of_get? {m : Memory} {type : String} {s : Schema}
    (h : m.catalog.get? type = some s) : knownType m type = .ok s := by
  have hcatalog : Store.catalog m = m.catalog := rfl
  simp only [knownType, hcatalog, h]

theorem get_of_known {m : Memory} {type : String} (h : (m.catalog.get? type).isSome = true)
    (key : String) :
    get m type key = match m.get type key with
      | none => .error (.store (.notFound type key))
      | some (content, revision) =>
        .ok (.json 200 (storedJson ⟨type, key, revision, content⟩)) := by
  obtain ⟨s, hs⟩ := Option.isSome_iff_exists.mp h
  have hread : Store.get m type key = m.get type key := rfl
  simp only [get, knownType_of_get? hs, bind, Except.bind, hread]
  cases m.get type key <;> rfl

theorem handle_get {m : Memory} {q : Request} {type key : String} (hpath : q.IsAt type key)
    (hmethod : q.method = "GET") : q.handle m = respond (get m type key, m) := by
  rw [handle_eq_respond, hpath, hmethod]
  rfl

/-- A record that is held is shown as it was when it was written. -/
theorem handle_get_of_held {m : Memory} {q : Request} {r : Record} (hpath : q.IsAt r.type r.key)
    (hmethod : q.method = "GET") (hknown : (m.catalog.get? r.type).isSome = true)
    (hheld : m.get r.type r.key = some (r.content, r.revision)) :
    q.handle m = (some (.json 200 (storedJson r)), m) := by
  rw [handle_get hpath hmethod, get_of_known hknown, hheld]
  rfl

theorem handle_get_of_absent {m : Memory} {q : Request} {type key : String}
    (hpath : q.IsAt type key) (hmethod : q.method = "GET")
    (hknown : (m.catalog.get? type).isSome = true) (habsent : m.get type key = none) :
    status? (q.handle m).1 = some 404 := by
  rw [handle_get hpath hmethod, get_of_known hknown, habsent]
  rfl

/-- The list of a type shows the records of the type. -/
theorem handle_list {m : Memory} {q : Request} {type : String}
    (hpath : segments q.path = ["v1alpha1", "config", type]) (hmethod : q.method = "GET")
    (hknown : (m.catalog.get? type).isSome = true) :
    q.handle m = (some (.json 200 (.arr ((m.list type).map storedJson))), m) := by
  obtain ⟨s, hs⟩ := Option.isSome_iff_exists.mp hknown
  have hlist : list m type = (.ok (.json 200 (.arr ((m.list type).map storedJson))), m) := by
    simp only [list, knownType_of_get? hs]
    rfl
  rw [handle_eq_respond, hpath, hmethod]
  exact congrArg respond hlist

end MeshControl.Api
