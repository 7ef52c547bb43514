import MeshControl.Proofs.Api.Requests

/-!
What a write is refused for. The type that a body names and the key of its content are held
against the path before the store is asked for anything. The key that the body names is read and
not held against anything, so a body that contradicts its path there alone fares like one that
does not.
-/
namespace MeshControl.Api

open Config

namespace Body

def NamesOtherType (b : Body) (type : String) : Prop := b.type ≠ "" ∧ b.type ≠ type

def NamesOtherKey (b : Body) (key : String) : Prop := b.key ≠ "" ∧ b.key ≠ key

end Body

section

variable {σ : Type} [Store σ]

/-- The content has a key of its own, which is not the one of the path. -/
def Body.HoldsOtherKey (b : Body) (s : σ) (type key : String) : Prop :=
  ∃ schema actual, (Store.catalog s).get? type = some schema ∧
    schema.key ⟨schema.messageName, b.content⟩ = .ok actual ∧ actual ≠ key

/-- What the store makes of a message, unless a replacement does not say what it replaces. -/
def handed (s : σ) (method : String) (b : Body) (content : Message) :
    Option (Except StoreError Revision × σ) :=
  if method = "POST" then some (Store.post s content) else b.revision.map (Store.put s content)

/-- Why a write at a path is a bad request. Only the last reason is one of the store. -/
inductive Objection (s : σ) (method type key : String) (b : Body) : Prop
  | unknownType (hunknown : (Store.catalog s).get? type = none)
  | otherType (hother : b.NamesOtherType type)
  | unkeyed (schema : Schema) (problems : Problems)
      (hknown : (Store.catalog s).get? type = some schema)
      (hkey : schema.key ⟨schema.messageName, b.content⟩ = .error problems)
  | otherKey (hother : b.HoldsOtherKey s type key)
  | unversioned (hmethod : method ≠ "POST") (hrevision : b.revision = none)
  | declined (schema : Schema) (e : StoreError)
      (hknown : (Store.catalog s).get? type = some schema)
      (hdeclined : handed s method b ⟨schema.messageName, b.content⟩ = some (.error e, s))
      (hstatus : ApiError.storeStatus e.kind = some 400)

/-- The answer to a request is that of a bad one, and the store is what it was. -/
def Refused (s : σ) (q : Request) : Prop :=
  status? (handle s q.method q.path q.octets).1 = some 400 ∧
    (handle s q.method q.path q.octets).2 = s

/-! ### Messages -/

theorem namesOtherType_iff {b : Body} {type : String} :
    b.NamesOtherType type ↔ (!b.type.isEmpty && b.type != type) = true := by
  unfold Body.NamesOtherType
  rw [Bool.and_eq_true, Bool.not_eq_true', bne_iff_ne, ← Bool.not_eq_true, String.isEmpty_iff]

theorem message_eq_ok_iff {s : σ} {type key : String} {b : Body} {content : Message} :
    message s type key b = .ok content ↔
      ∃ schema, (Store.catalog s).get? type = some schema ∧ ¬ b.NamesOtherType type ∧
        schema.key ⟨schema.messageName, b.content⟩ = .ok key ∧
        content = ⟨schema.messageName, b.content⟩ := by
  unfold message knownType
  cases hknown : (Store.catalog s).get? type with
  | none => simp [bind, Except.bind]
  | some schema =>
    simp only [bind, Except.bind, Option.some.injEq, exists_eq_left']
    rw [namesOtherType_iff]
    split
    · next hother => simp [hother]
    · next hother =>
      cases hkey : schema.key ⟨schema.messageName, b.content⟩ with
      | error problems => simp
      | ok actual =>
        by_cases hsame : actual = key
        · simp [hsame, hother, pure, Except.pure, eq_comm]
        · simp [hsame]

/-- Whatever is wrong with a body by itself makes the request a bad one. -/
theorem status_of_message {s : σ} {type key : String} {b : Body} {e : ApiError}
    (h : message s type key b = .error e) : e.status = some 400 := by
  unfold message knownType at h
  cases hknown : (Store.catalog s).get? type with
  | none =>
    simp only [hknown] at h
    cases h
    rfl
  | some schema =>
    simp only [hknown, bind, Except.bind] at h
    split at h
    · cases h
      rfl
    · cases hkey : schema.key ⟨schema.messageName, b.content⟩ with
      | error problems =>
        simp only [hkey] at h
        cases h
        rfl
      | ok actual =>
        simp only [hkey] at h
        split at h
        · cases h
          rfl
        · cases h

/-- A body with no message to store meets an objection. -/
theorem objection_of_message {s : σ} (method : String) {type key : String} {b : Body} {e : ApiError}
    (h : message s type key b = .error e) : Objection s method type key b := by
  have hnot : ∀ content, message s type key b ≠ .ok content := by
    intro content hok
    cases h.symm.trans hok
  by_cases hother : b.NamesOtherType type
  · exact .otherType hother
  · cases hknown : (Store.catalog s).get? type with
    | none => exact .unknownType hknown
    | some schema =>
      cases hkey : schema.key ⟨schema.messageName, b.content⟩ with
      | error problems => exact .unkeyed schema problems hknown hkey
      | ok actual =>
        refine .otherKey ⟨schema, actual, hknown, hkey, ?_⟩
        rintro rfl
        exact hnot _ (message_eq_ok_iff.mpr ⟨schema, hknown, hother, hkey, rfl⟩)

/-- Once there is a message, only its revision or the store can be in the way. -/
theorem objection_iff_of_message {s : σ} {method type key : String} {b : Body} {content : Message}
    (h : message s type key b = .ok content) :
    Objection s method type key b ↔ method ≠ "POST" ∧ b.revision = none ∨
      ∃ e, handed s method b content = some (.error e, s) ∧
        ApiError.storeStatus e.kind = some 400 := by
  obtain ⟨schema, hknown, hother, hkey, rfl⟩ := message_eq_ok_iff.mp h
  constructor
  · intro hobjection
    cases hobjection with
    | unknownType hunknown => cases hknown.symm.trans hunknown
    | otherType hdiffers => exact absurd hdiffers hother
    | unkeyed schema' problems hknown' hkey' =>
      obtain rfl := Option.some.inj (hknown.symm.trans hknown')
      cases hkey.symm.trans hkey'
    | otherKey hdiffers =>
      obtain ⟨schema', actual, hknown', hkey', hne⟩ := hdiffers
      obtain rfl := Option.some.inj (hknown.symm.trans hknown')
      exact absurd (Except.ok.inj (hkey.symm.trans hkey')).symm hne
    | unversioned hmethod hrevision => exact .inl ⟨hmethod, hrevision⟩
    | declined schema' e hknown' hdeclined hstatus =>
      obtain rfl := Option.some.inj (hknown.symm.trans hknown')
      exact .inr ⟨e, hdeclined, hstatus⟩
  · rintro (⟨hmethod, hrevision⟩ | ⟨e, hdeclined, hstatus⟩)
    · exact .unversioned hmethod hrevision
    · exact .declined schema e hknown hdeclined hstatus

/-! ### Writes -/

/-- A write comes to what the store makes of the message in its body. -/
theorem route_write {s : σ} {q : Request} {type key : String} (hpath : q.IsAt type key)
    (hwrite : q.isWrite = true) :
    route s q.method (segments q.path) q.octets =
      match Body.read q.octets with
      | .error e => (.error e, s)
      | .ok b =>
        match message s type key b with
        | .error e => (.error e, s)
        | .ok content =>
          match handed s q.method b content with
          | none => (.error .missingRevision, s)
          | some (result, s') => (stored (result.map fun revision =>
              .json (if q.method = "POST" then 201 else 200)
                (recordJson type key revision b.content)), s') := by
  rw [hpath]
  unfold Request.isWrite at hwrite
  rw [Bool.or_eq_true, decide_eq_true_iff, decide_eq_true_iff] at hwrite
  cases hbody : Body.read q.octets with
  | error e =>
    rcases hwrite with hmethod | hmethod
    · simp only [hmethod, route, post, write, hbody, bind, Except.bind]
    · simp only [hmethod, route, put, write, hbody, bind, Except.bind]
  | ok b =>
    rcases hwrite with hmethod | hmethod
    · simp only [hmethod, route, post, write, hbody, handed, bind, Except.bind, pure, Except.pure]
      cases message s type key b <;> rfl
    · simp only [hmethod, route, put, write, hbody, handed, bind, Except.bind, pure, Except.pure]
      cases message s type key b with
      | error e => rfl
      | ok content => cases b.revision <;> rfl

theorem handle_of_error {s s' : σ} {q : Request} {e : ApiError}
    (h : route s q.method (segments q.path) q.octets = (.error e, s')) :
    handle s q.method q.path q.octets = (e.response, s') := by
  simp only [handle, h]

theorem handle_of_ok {s s' : σ} {q : Request} {answer : Http.Response}
    (h : route s q.method (segments q.path) q.octets = (.ok answer, s')) :
    handle s q.method q.path q.octets = (some answer, s') := by
  simp only [handle, h]

theorem status_written (method : String) (j : Json) :
    status? (some (.json (if method = "POST" then 201 else 200) j)) ≠ some 400 := by
  change some (if method = "POST" then 201 else 200) ≠ some 400
  split <;> simp

/-- Bad requests are those that meet an objection. -/
theorem refused_iff_objection {s : σ} {q : Request} {type key : String} {b : Body}
    (hpath : q.IsAt type key) (hwrite : q.isWrite = true) (hbody : Body.read q.octets = .ok b) :
    Refused s q ↔ Objection s q.method type key b := by
  have hroute := route_write (s := s) hpath hwrite
  unfold Refused
  cases hmessage : message s type key b with
  | error e =>
    simp only [hbody, hmessage] at hroute
    rw [handle_of_error hroute, ApiError.status?_response]
    exact iff_of_true ⟨status_of_message hmessage, rfl⟩ (objection_of_message q.method hmessage)
  | ok content =>
    simp only [hbody, hmessage] at hroute
    rw [objection_iff_of_message hmessage]
    cases hhanded : handed s q.method b content with
    | none =>
      simp only [hhanded] at hroute
      rw [handle_of_error hroute]
      refine iff_of_true ⟨rfl, rfl⟩ (.inl ?_)
      unfold handed at hhanded
      split at hhanded
      · cases hhanded
      · next hmethod => exact ⟨hmethod, Option.map_eq_none_iff.mp hhanded⟩
    | some outcome =>
      obtain ⟨result, s'⟩ := outcome
      have hversioned : ¬ (q.method ≠ "POST" ∧ b.revision = none) := by
        rintro ⟨hmethod, hrevision⟩
        simp [handed, hmethod, hrevision] at hhanded
      simp only [hhanded] at hroute
      simp only [hversioned, false_or, Option.some.injEq, Prod.mk.injEq]
      cases result with
      | error e =>
        rw [handle_of_error hroute, ApiError.status?_response]
        constructor
        · rintro ⟨hstatus, hs⟩
          exact ⟨e, ⟨rfl, hs⟩, hstatus⟩
        · rintro ⟨e', ⟨he, hs⟩, hstatus⟩
          obtain rfl := Except.error.inj he
          exact ⟨hstatus, hs⟩
      | ok revision =>
        rw [handle_of_ok hroute]
        refine iff_of_false (fun h => status_written q.method _ h.1) ?_
        rintro ⟨e, ⟨he, -⟩, -⟩
        cases he

/-! ### Contradictions -/

/-- The body says something else than the path, of the type or of the key. -/
def Body.Contradicts (b : Body) (s : σ) (type key : String) : Prop :=
  b.NamesOtherType type ∨ b.NamesOtherKey key ∨ b.HoldsOtherKey s type key

/-- The key that a body names is nothing that is objected to. -/
theorem objection_withKey_iff {s : σ} {method type key : String} {b : Body} (named : String) :
    Objection s method type key { b with key := named } ↔ Objection s method type key b := by
  constructor <;> intro h
  all_goals
    cases h with
    | unknownType hunknown => exact .unknownType hunknown
    | otherType hother => exact .otherType hother
    | unkeyed schema problems hknown hkey => exact .unkeyed schema problems hknown hkey
    | otherKey hother => exact .otherKey hother
    | unversioned hmethod hrevision => exact .unversioned hmethod hrevision
    | declined schema e hknown hdeclined hstatus =>
      exact .declined schema e hknown hdeclined hstatus

theorem status_of_read {octets : List UInt8} {e : ApiError} (h : Body.read octets = .error e) :
    e.status = some 400 := by
  unfold Body.read at h
  split at h
  · cases h
    rfl
  · next d _ =>
    cases hdecode : Body.decode d <;> rw [hdecode] at h <;> cases h
    rfl

theorem unreadable_refused {s : σ} {q : Request} {type key : String} {e : ApiError}
    (hpath : q.IsAt type key) (hwrite : q.isWrite = true) (hbody : Body.read q.octets = .error e) :
    Refused s q := by
  have hroute := route_write (s := s) hpath hwrite
  simp only [hbody] at hroute
  unfold Refused
  rw [handle_of_error hroute, ApiError.status?_response]
  exact ⟨status_of_read hbody, rfl⟩

/-- A write that contradicts its path is a bad request and changes nothing if it cannot be read, or
if it contradicts by the type it names or by the key of its content. If it does so by the key it
names alone, it is one exactly if there is another objection, which the body with the key of the
path would meet too. -/
theorem contradiction_refused_iff (s : σ) {q : Request} {type key : String}
    (hpath : q.IsAt type key) (hwrite : q.isWrite = true) :
    (∀ e, Body.read q.octets = .error e → Refused s q) ∧
      ∀ b, Body.read q.octets = .ok b → b.Contradicts s type key →
        (Refused s q ↔ b.NamesOtherType type ∨ b.HoldsOtherKey s type key ∨
          b.NamesOtherKey key ∧ Objection s q.method type key { b with key := key }) := by
  refine ⟨fun e hbody => unreadable_refused hpath hwrite hbody, ?_⟩
  intro b hbody hcontradicts
  rw [refused_iff_objection hpath hwrite hbody]
  constructor
  · intro hobjection
    rcases hcontradicts with htype | hnamed | hheld
    · exact .inl htype
    · exact .inr (.inr ⟨hnamed, (objection_withKey_iff key).mpr hobjection⟩)
    · exact .inr (.inl hheld)
  · rintro (htype | hheld | ⟨-, hobjection⟩)
    · exact .otherType htype
    · exact .otherKey hheld
    · exact (objection_withKey_iff key).mp hobjection

end

/-! ### A body that names another key -/

def emptyStore : Memory := .new Rule.catalog

/-- Creates the rule `r`, in a body that names the key `whatever`. -/
def misnamed : Request :=
  ⟨"POST", "/v1alpha1/config/route-rule/r", ("\x7b\"key\":\"whatever\"," ++
    "\"spec\":\x7b\"name\":\"r\",\"destination\":\"reviews.local\"\x7d\x7d").toUTF8.toList⟩

theorem misnamed_isAt : misnamed.IsAt "route-rule" "r" := by
  unfold Request.IsAt
  decide +kernel

theorem exists_body_misnamed :
    ∃ b, Body.read misnamed.octets = .ok b ∧ b.Contradicts emptyStore "route-rule" "r" := by
  have hkey : (Body.read misnamed.octets).toOption.map Body.key = some "whatever" := by
    decide +kernel
  cases hread : Body.read misnamed.octets with
  | error e =>
    rw [hread] at hkey
    cases hkey
  | ok b =>
    rw [hread] at hkey
    have hnamed : b.key = "whatever" := Option.some.inj hkey
    refine ⟨b, rfl, .inr (.inl ?_)⟩
    unfold Body.NamesOtherKey
    rw [hnamed]
    decide

/-- The rule is created although the body contradicts the path. -/
theorem misnamed_accepted :
    ∃ b, Body.read misnamed.octets = .ok b ∧ b.Contradicts emptyStore "route-rule" "r" ∧
      ¬ Refused emptyStore misnamed ∧ status? (misnamed.handle emptyStore).1 = some 201 ∧
      ((misnamed.handle emptyStore).2.held? "route-rule" "r").isSome = true := by
  have hstatus : status? (misnamed.handle emptyStore).1 = some 201 := by decide +kernel
  have hheld : ((misnamed.handle emptyStore).2.held? "route-rule" "r").isSome = true := by
    decide +kernel
  obtain ⟨b, hread, hcontradicts⟩ := exists_body_misnamed
  refine ⟨b, hread, hcontradicts, ?_, hstatus, hheld⟩
  intro hrefused
  cases hstatus.symm.trans hrefused.1

theorem misnamed_refused_iff :
    ∃ b, misnamed.IsAt "route-rule" "r" ∧ misnamed.isWrite = true ∧
      Body.read misnamed.octets = .ok b ∧ b.Contradicts emptyStore "route-rule" "r" ∧
      (Refused emptyStore misnamed ↔
        b.NamesOtherType "route-rule" ∨ b.HoldsOtherKey emptyStore "route-rule" "r" ∨
          b.NamesOtherKey "r" ∧
            Objection emptyStore misnamed.method "route-rule" "r" { b with key := "r" }) := by
  obtain ⟨b, hread, hcontradicts⟩ := exists_body_misnamed
  obtain ⟨-, hrefused⟩ := contradiction_refused_iff emptyStore misnamed_isAt (by decide)
  exact ⟨b, misnamed_isAt, by decide, hread, hcontradicts, hrefused b hread hcontradicts⟩

end MeshControl.Api
