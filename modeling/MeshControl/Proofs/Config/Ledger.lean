import Mathlib.Logic.Function.Basic
import MeshControl.Config.Memory
import MeshControl.Proofs.Config.History

/-!
A store in memory behaves as one map from types and keys to contents and revisions. The map says
which calls fail and how, what they answer otherwise and what they change; the tables by type and
the counter of the store do not show.
-/
namespace MeshControl.Config

/-- A type and a key. -/
abbrev Place := String × String

namespace Catalog

/-- Whether messages of a name may be written at all. -/
def isWritable (c : Catalog) (name : String) : Bool := (c.byMessage? name).any (!·.internal)

/-- Whether the check of a message as content of its type comes to an end. -/
def hasVerdict (c : Catalog) (m : Message) : Bool :=
  (c.byMessage? m.name).any fun s => (s.validate m).isOk

/-- Whether a message is content of its type without problems. -/
def isValid (c : Catalog) (m : Message) : Bool :=
  (c.byMessage? m.name).any fun s => s.validate m = .ok [] && (s.key m).toOption.isSome

/-- The type and the key that follow from a message. -/
def place? (c : Catalog) (m : Message) : Option Place :=
  (c.byMessage? m.name).bind fun s => (s.key m).toOption.map (s.type, ·)

end Catalog

abbrev Ledger := Place → Option (Message × Revision)

namespace Ledger

def empty : Ledger := fun _ => none

/-- What a call demands, in the order in which it is asked for, and how it fails without. -/
def demands (c : Catalog) (l : Ledger) : Call → List (Bool × StoreError.Kind)
  | .get _ _ | .list _ => []
  | .post m => [
    (c.isWritable m.name, .unknownType),
    (c.hasVerdict m, .overflow),
    (c.isValid m, .invalid),
    (((c.place? m).bind l).isNone, .alreadyExists)]
  | .put m r => [
    (c.isWritable m.name, .unknownType),
    (c.hasVerdict m, .overflow),
    (c.isValid m, .invalid),
    (((c.place? m).bind l).isSome, .notFound),
    (((c.place? m).bind l).any (·.2 == r), .revisionMismatch)]
  | .delete type key => [
    ((c.get? type).any (!·.internal), .unknownType),
    ((l (type, key)).isSome, .notFound)]

/-- The kind of the first demand that is not met. -/
def failure? (c : Catalog) (l : Ledger) (call : Call) : Option StoreError.Kind :=
  ((l.demands c call).find? (!·.1)).map (·.2)

/-- A list that holds the records of a type as the map has them, each key once and in order. -/
def Lists (l : Ledger) (type : String) (records : List Record) : Prop :=
  records.Pairwise (fun a b => a.key < b.key) ∧
    ∀ r, r ∈ records ↔ r.type = type ∧ l (type, r.key) = some (r.content, r.revision)

/-- The map after a call. A call that fails leaves it as it is. -/
def record (c : Catalog) (l : Ledger) : Exchange → Ledger
  | ⟨.post m, .written (.ok r)⟩ | ⟨.put m _, .written (.ok r)⟩ =>
    match c.place? m with
    | some place => Function.update l place (some (m, r))
    | none => l
  | ⟨.delete type key, .deleted (.ok ())⟩ => Function.update l (type, key) none
  | _ => l

/-- Whether an answer is the one that the map gives, up to the revision of a write. -/
def Answers (l : Ledger) : Exchange → Prop
  | ⟨.get type key, .found entry⟩ => entry = l (type, key)
  | ⟨.list type, .listed (.ok records)⟩ => l.Lists type records
  | ⟨.post _, .written _⟩ | ⟨.put _ _, .written _⟩ | ⟨.delete _ _, .deleted _⟩ => True
  | _ => False

/-- Whether a call fails as the map says, and else is answered as the map says. -/
def Explains (c : Catalog) (l : Ledger) (e : Exchange) : Prop :=
  e.answer.failure?.map StoreError.kind = l.failure? c e.call ∧ l.Answers e

def ExplainsAll (c : Catalog) : Ledger → List Exchange → Prop
  | _, [] => True
  | l, e :: rest => l.Explains c e ∧ ExplainsAll c (l.record c e) rest

/-- The map at the end of a history. -/
def afterAll (c : Catalog) (l : Ledger) (h : List Exchange) : Ledger := h.foldl (record c) l

end Ledger

namespace Memory

/-- The store shows what the map holds. -/
def Shows (m : Memory) (l : Ledger) : Prop := ∀ type key, m.get type key = l (type, key)

theorem Shows.held?_eq_none {m : Memory} {l : Ledger} (h : m.Shows l) {type key : String} :
    l (type, key) = none ↔ m.held? type key = none := by
  rw [← h type key, get, Option.map_eq_none_iff]

theorem Shows.of_held? {m : Memory} {l : Ledger} (h : m.Shows l) {type key : String} {e : Entry}
    (he : m.held? type key = some e) : l (type, key) = some (e.content, e.revision) := by
  rw [← h type key, get, he]
  rfl

theorem Shows.draw {m : Memory} {l : Ledger} (h : m.Shows l) : m.draw.Shows l := h

theorem Shows.write {m : Memory} {l : Ledger} (h : m.Shows l) (type key : String) (e : Entry) :
    (m.write type key e).Shows (Function.update l (type, key) (some (e.content, e.revision))) := by
  intro type' key'
  rw [get, held?_write]
  by_cases hplace : type' = type ∧ key' = key
  · obtain ⟨rfl, rfl⟩ := hplace
    simp
  · have hne : (type', key') ≠ (type, key) := fun heq => hplace (Prod.mk.inj heq)
    rw [if_neg hplace, Function.update_of_ne hne]
    exact h type' key'

theorem Shows.remove {m : Memory} {l : Ledger} (h : m.Shows l) (type key : String) :
    (m.remove type key).Shows (Function.update l (type, key) none) := by
  intro type' key'
  rw [get, held?_remove]
  by_cases hplace : type' = type ∧ key' = key
  · obtain ⟨rfl, rfl⟩ := hplace
    simp
  · have hne : (type', key') ≠ (type, key) := fun heq => hplace (Prod.mk.inj heq)
    rw [if_neg hplace, Function.update_of_ne hne]
    exact h type' key'

/-- The lists of a store are those of the map it shows. -/
theorem Shows.lists {m : Memory} {l : Ledger} (h : m.Shows l) (type : String) :
    l.Lists type (m.list type) := by
  constructor
  · rw [list, List.pairwise_map]
    exact (m.ofType type).sorted
  · intro r
    rw [← h type r.key, get, list, List.mem_map]
    constructor
    · rintro ⟨⟨key, e⟩, hmem, rfl⟩
      have he : m.held? type key = some e := ((m.ofType type).mem_toList_iff key e).mp hmem
      simp [he]
    · rintro ⟨rfl, hr⟩
      obtain ⟨e, he, heq⟩ := Option.map_eq_some_iff.mp hr
      obtain ⟨hcontent, hrevision⟩ := Prod.mk.inj heq
      refine ⟨(r.key, e), ((m.ofType r.type).mem_toList_iff r.key e).mpr he, ?_⟩
      simp only [hcontent, hrevision]

/-! ### Single calls -/

theorem place?_of_accepted {m : Memory} {content : Message} {s : Schema} {key : String}
    (h : m.accept content = .ok (s, key)) :
    m.catalog.isWritable content.name = true ∧ m.catalog.hasVerdict content = true ∧
      m.catalog.isValid content = true ∧ m.catalog.place? content = some (s.type, key) := by
  obtain ⟨hs, hinternal, hvalid, hkey⟩ := accept_eq_ok_iff.mp h
  simp [Catalog.isWritable, Catalog.hasVerdict, Catalog.isValid, Catalog.place?, hs, hinternal,
    hvalid, hkey, Except.toOption, Except.isOk, Except.toBool]

/-- A message is refused because it may not be written at all, or else because its check comes to
no end, or else because it is not valid. -/
theorem kind_of_refused {m : Memory} {content : Message} {e : StoreError}
    (h : m.accept content = .error e) :
    m.catalog.isWritable content.name = false ∧ e.kind = .unknownType ∨
      m.catalog.isWritable content.name = true ∧
        (m.catalog.hasVerdict content = false ∧ e.kind = .overflow ∨
          m.catalog.hasVerdict content = true ∧ m.catalog.isValid content = false ∧
            e.kind = .invalid) := by
  unfold accept at h
  unfold Catalog.isWritable Catalog.hasVerdict Catalog.isValid
  cases hs : m.catalog.byMessage? content.name with
  | none =>
    rw [hs] at h
    cases h
    exact .inl ⟨rfl, rfl⟩
  | some schema =>
    rw [hs] at h
    cases hinternal : schema.internal with
    | true =>
      simp only [hinternal, if_true] at h
      cases h
      exact .inl ⟨by simp [hinternal], rfl⟩
    | false =>
      refine .inr ⟨by simp [hinternal], ?_⟩
      simp only [hinternal, Bool.false_eq_true, if_false] at h
      split at h
      · next hnone =>
        cases h
        exact .inl ⟨by simp [hnone, Except.isOk, Except.toBool], rfl⟩
      · next hvalid =>
        split at h
        · cases h
        · next problems hkey =>
          cases h
          exact .inr (by simp [hvalid, hkey, Except.isOk, Except.toBool, Except.toOption,
            StoreError.kind])
      · next problems hnil hproblems =>
        have hne : problems ≠ [] := hnil
        cases h
        exact .inr (by simp [hproblems, hne, Except.isOk, Except.toBool, StoreError.kind])

/-- Calls that demand an acceptable message first fail as the store refuses it. -/
theorem failure?_of_refused {m : Memory} {content : Message} {e : StoreError}
    (h : m.accept content = .error e) {l : Ledger} {call : Call}
    {more : List (Bool × StoreError.Kind)}
    (hdemands : l.demands m.catalog call =
      (m.catalog.isWritable content.name, .unknownType) ::
        (m.catalog.hasVerdict content, .overflow) ::
          (m.catalog.isValid content, .invalid) :: more) :
    l.failure? m.catalog call = some e.kind := by
  rw [Ledger.failure?, hdemands]
  rcases kind_of_refused h with ⟨hwritable, hkind⟩ |
    ⟨hwritable, ⟨hverdict, hkind⟩ | ⟨hverdict, hvalid, hkind⟩⟩
  · simp [hwritable, hkind]
  · simp [hwritable, hverdict, hkind]
  · simp [hwritable, hverdict, hvalid, hkind]

theorem post_explained {m : Memory} {l : Ledger} (h : m.Shows l) (content : Message) :
    l.Explains m.catalog ⟨.post content, .written (m.post content).1⟩ ∧
      (m.post content).2.Shows
        (l.record m.catalog ⟨.post content, .written (m.post content).1⟩) := by
  cases haccept : m.accept content with
  | error e =>
    rw [post_of_refused haccept]
    exact ⟨⟨(failure?_of_refused haccept rfl).symm, trivial⟩, h⟩
  | ok place =>
    obtain ⟨s, key⟩ := place
    obtain ⟨hwritable, hverdict, hvalid, hplace⟩ := place?_of_accepted haccept
    rw [post_of_accepted haccept]
    cases hentry : m.held? s.type key with
    | some e =>
      have hl := h.of_held? hentry
      refine ⟨⟨?_, trivial⟩, h⟩
      simp [Answer.failure?, Ledger.failure?, Ledger.demands, hwritable, hverdict, hvalid, hplace,
        hl, StoreError.kind]
    | none =>
      have hl := h.held?_eq_none.mpr hentry
      refine ⟨⟨?_, trivial⟩, ?_⟩
      · simp [Answer.failure?, Ledger.failure?, Ledger.demands, hwritable, hverdict, hvalid,
          hplace, hl]
      · simpa [Ledger.record, hplace] using h.draw.write s.type key _

theorem put_explained {m : Memory} {l : Ledger} (h : m.Shows l) (content : Message)
    (r : Revision) :
    l.Explains m.catalog ⟨.put content r, .written (m.put content r).1⟩ ∧
      (m.put content r).2.Shows
        (l.record m.catalog ⟨.put content r, .written (m.put content r).1⟩) := by
  cases haccept : m.accept content with
  | error e =>
    rw [put_of_refused haccept]
    exact ⟨⟨(failure?_of_refused haccept rfl).symm, trivial⟩, h⟩
  | ok place =>
    obtain ⟨s, key⟩ := place
    obtain ⟨hwritable, hverdict, hvalid, hplace⟩ := place?_of_accepted haccept
    cases hentry : m.held? s.type key with
    | none =>
      have hl := h.held?_eq_none.mpr hentry
      rw [put_of_absent haccept hentry]
      refine ⟨⟨?_, trivial⟩, h⟩
      simp [Answer.failure?, Ledger.failure?, Ledger.demands, hwritable, hverdict, hvalid, hplace,
        hl, StoreError.kind]
    | some current =>
      have hl := h.of_held? hentry
      rw [put_of_present haccept hentry]
      by_cases hrevision : current.revision = r
      · refine ⟨⟨?_, ?_⟩, ?_⟩
        · simp [Answer.failure?, Ledger.failure?, Ledger.demands, hwritable, hverdict, hvalid,
            hplace, hl, hrevision]
        · simp [Ledger.Answers]
        · simpa [Ledger.record, hplace, hrevision] using h.draw.write s.type key _
      · refine ⟨⟨?_, ?_⟩, ?_⟩
        · simp [Answer.failure?, Ledger.failure?, Ledger.demands, hwritable, hverdict, hvalid,
            hplace, hl, hrevision, StoreError.kind]
        · simp [Ledger.Answers]
        · simpa [Ledger.record, hrevision] using h.draw

theorem delete_explained {m : Memory} {l : Ledger} (h : m.Shows l) (type key : String) :
    l.Explains m.catalog ⟨.delete type key, .deleted (m.delete type key).1⟩ ∧
      (m.delete type key).2.Shows
        (l.record m.catalog ⟨.delete type key, .deleted (m.delete type key).1⟩) := by
  cases hwritable : (m.catalog.get? type).any (!·.internal) with
  | false =>
    rw [delete_of_unwritable key hwritable]
    refine ⟨⟨?_, trivial⟩, h⟩
    simp [Answer.failure?, Ledger.failure?, Ledger.demands, hwritable, StoreError.kind]
  | true =>
    rw [delete_of_writable key hwritable]
    cases hentry : m.held? type key with
    | none =>
      have hl := h.held?_eq_none.mpr hentry
      refine ⟨⟨?_, trivial⟩, h⟩
      simp [Answer.failure?, Ledger.failure?, Ledger.demands, hwritable, hl, StoreError.kind]
    | some e =>
      have hl := h.of_held? hentry
      refine ⟨⟨?_, trivial⟩, h.remove type key⟩
      simp [Answer.failure?, Ledger.failure?, Ledger.demands, hwritable, hl]

/-- One call keeps the store and the map in step. -/
theorem perform_explained {m : Memory} {l : Ledger} (h : m.Shows l) (call : Call) :
    l.Explains m.catalog ⟨call, (call.perform m).1⟩ ∧
      (call.perform m).2.Shows (l.record m.catalog ⟨call, (call.perform m).1⟩) := by
  cases call with
  | get type key => exact ⟨⟨rfl, h type key⟩, h⟩
  | list type => exact ⟨⟨rfl, h.lists type⟩, h⟩
  | post content => exact post_explained h content
  | put content r => exact put_explained h content r
  | delete type key => exact delete_explained h type key

theorem catalog_perform (m : Memory) (call : Call) : (call.perform m).2.catalog = m.catalog := by
  cases call with
  | get type key => rfl
  | list type => rfl
  | post content => exact catalog_post m content
  | put content r => exact catalog_put m content r
  | delete type key => exact catalog_delete m type key

theorem catalog_afterCalls (m : Memory) (calls : List Call) :
    (afterCalls m calls).catalog = m.catalog := by
  induction calls generalizing m with
  | nil => rfl
  | cons call calls ih => rw [afterCalls_cons, ih, catalog_perform]

/-! ### Histories -/

theorem history_explained {m : Memory} {l : Ledger} (h : m.Shows l) (calls : List Call) :
    l.ExplainsAll m.catalog (history m calls) ∧
      (afterCalls m calls).Shows (l.afterAll m.catalog (history m calls)) := by
  induction calls generalizing m l with
  | nil => exact ⟨trivial, h⟩
  | cons call calls ih =>
    obtain ⟨hcall, hnext⟩ := perform_explained h call
    obtain ⟨hrest, hend⟩ := ih hnext
    rw [catalog_perform] at hrest hend
    exact ⟨⟨hcall, hrest⟩, hend⟩

/-- A new store behaves as the empty map in every history: each call fails with the first demand
of the map that is not met, or is answered from the map, and at the end every read and every
list is that of the map. -/
theorem behaves_as_ledger (c : Catalog) (calls : List Call) :
    let h := history (new c) calls
    let m := afterCalls (new c) calls
    let l := Ledger.empty.afterAll c h
    Ledger.empty.ExplainsAll c h ∧ (∀ type key, m.get type key = l (type, key)) ∧
      ∀ type, l.Lists type (m.list type) := by
  intro h m l
  have hnew : (new c).Shows Ledger.empty := fun _ _ => rfl
  obtain ⟨hall, hend⟩ := history_explained hnew calls
  exact ⟨hall, hend, hend.lists⟩

end Memory

end MeshControl.Config
