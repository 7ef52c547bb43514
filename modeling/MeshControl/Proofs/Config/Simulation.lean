import Mathlib.Data.List.Sort
import MeshControl.Proofs.Config.Clocks

/-!
A federation of stores in memory cannot be told from one store of all their types, but by its
revisions. Two runs go side by side, and a replacement names in each the revision that one and the
same earlier write returned there. A record then comes from the same write on both sides, so its
revision is matched on both sides or on neither.
-/
namespace MeshControl.Config

/-- What an answer tells apart from revisions. -/
inductive Outcome where
  | found (content : Option Message)
  | listed (contents : List (String × Message))
  | written
  | deleted
  | failed (kind : StoreError.Kind)

namespace Record

/-- Keys and contents of a list of records. -/
def contents (records : List Record) : List (String × Message) :=
  records.map fun r => (r.key, r.content)

end Record

def Answer.outcome : Answer → Outcome
  | found entry => .found (entry.map (·.1))
  | listed (.ok records) => .listed (Record.contents records)
  | written (.ok _) => .written
  | deleted (.ok _) => .deleted
  | listed (.error e) | written (.error e) | deleted (.error e) => .failed e.kind

/-- The next calls of two runs ask the same. A replacement that may be accepted names, in either
run, the revision that one recent write of its record returned there. -/
inductive Asks (c : Catalog) (h h' : List Exchange) : Call → Call → Prop
  | get (type key : String) : Asks c h h' (.get type key) (.get type key)
  | list (type : String) : Asks c h h' (.list type) (.list type)
  | post (content : Message) : Asks c h h' (.post content) (.post content)
  | delete (type key : String) : Asks c h h' (.delete type key) (.delete type key)
  | refused (content : Message) (r r' : Revision)
      (hrefused : (c.isWritable content.name && c.isValid content) = false) :
      Asks c h h' (.put content r) (.put content r')
  | put (content : Message) (r r' : Revision) (place : Place) (i : Nat)
      (hplace : c.place? content = some place) (hgranted : Granted c h i place r)
      (hgranted' : Granted c h' i place r') (hrecent : Recent h i) :
      Asks c h h' (.put content r) (.put content r')

/-- Two lists of calls, each to a store of its own, that ask the same at every step. -/
inductive Alongside {σ τ : Type} [Store σ] [Store τ] (c : Catalog) (s : σ) (t : τ) :
    List Call → List Call → Prop
  | nil : Alongside c s t [] []
  | snoc (calls calls' : List Call) (call call' : Call) (hcalls : Alongside c s t calls calls')
      (hnext : Asks c (history s calls) (history t calls') call call') :
      Alongside c s t (calls ++ [call]) (calls' ++ [call'])

/-! ### Lists -/

theorem Ledger.Lists.mem_contents_iff {l : Ledger} {type : String} {records : List Record}
    (h : l.Lists type records) {key : String} {m : Message} :
    (key, m) ∈ Record.contents records ↔ (l (type, key)).map (·.1) = some m := by
  rw [Record.contents, List.mem_map, Option.map_eq_some_iff]
  constructor
  · rintro ⟨r, hr, heq⟩
    obtain ⟨rfl, rfl⟩ := Prod.mk.inj heq
    exact ⟨(r.content, r.revision), ((h.2 r).mp hr).2, rfl⟩
  · rintro ⟨⟨content, revision⟩, hl, rfl⟩
    exact ⟨⟨type, key, revision, content⟩, (h.2 _).mpr ⟨rfl, hl⟩, rfl⟩

/-- The lists of two maps that differ in revisions have the same keys and contents. -/
theorem Ledger.Lists.contents_eq {l l' : Ledger} {type : String} {records records' : List Record}
    (h : l.Lists type records) (h' : l'.Lists type records')
    (hsame : ∀ key, (l (type, key)).map (·.1) = (l' (type, key)).map (·.1)) :
    Record.contents records = Record.contents records' := by
  have hsorted : ∀ {l : Ledger} {records : List Record}, l.Lists type records →
      (Record.contents records).Pairwise fun a b => a.1 < b.1 := by
    intro l records h
    rw [Record.contents, List.pairwise_map]
    exact h.1
  have hmem : ∀ e, e ∈ Record.contents records ↔ e ∈ Record.contents records' := by
    rintro ⟨key, m⟩
    rw [h.mem_contents_iff, h'.mem_contents_iff, hsame]
  have : Std.Irrefl fun a b : String × Message => a.1 < b.1 := ⟨fun a => String.lt_irrefl a.1⟩
  have : Std.Antisymm fun a b : String × Message => a.1 < b.1 :=
    ⟨fun a b hab hba => absurd hba (String.lt_asymm hab)⟩
  exact (hsorted h).eq_of_mem_iff (hsorted h') hmem

/-! ### Two runs in step -/

/-- The records of two runs at one place: none in either, or one that the same write left. -/
inductive Matched (c : Catalog) (h h' : List Exchange) (place : Place) :
    Option (Message × Revision) → Option (Message × Revision) → Prop
  | absent : Matched c h h' place none none
  | held (k : Nat) (content : Message) (r r' : Revision) (hsole : Sole c h place k r)
      (hsole' : Sole c h' place k r') :
      Matched c h h' place (some (content, r)) (some (content, r'))

/-- Two runs that asked the same and were answered the same, with the maps they lead to. -/
structure InStep (c : Catalog) (h h' : List Exchange) (l l' : Ledger) : Prop where
  outcomes : h.map (·.answer.outcome) = h'.map (·.answer.outcome)
  writes : h.map (·.call.isWrite) = h'.map (·.call.isWrite)
  matched : ∀ place, Matched c h h' place (l place) (l' place)

theorem inStep_empty (c : Catalog) : InStep c [] [] Ledger.empty Ledger.empty where
  outcomes := rfl
  writes := rfl
  matched _ := .absent

section Matched

variable {c : Catalog} {h h' : List Exchange} {place : Place} {a b : Option (Message × Revision)}

theorem Matched.content_eq (hm : Matched c h h' place a b) : a.map (·.1) = b.map (·.1) := by
  cases hm <;> rfl

theorem Matched.isSome_eq (hm : Matched c h h' place a b) : a.isSome = b.isSome := by
  cases hm <;> rfl

/-- The revisions of one recent write are those of the records in both runs or in neither. -/
theorem Matched.any_revision_eq (hm : Matched c h h' place a b) {i : Nat} {r r' : Revision}
    (hr : Granted c h i place r) (hr' : Granted c h' i place r') (hrecent : Recent h i)
    (hrecent' : Recent h' i) : a.any (·.2 == r) = b.any (·.2 == r') := by
  cases hm with
  | absent => rfl
  | held k content current current' hsole hsole' =>
    have hiff : current = r ↔ current' = r' :=
      (hsole.revision_eq_iff hr hrecent).trans (hsole'.revision_eq_iff hr' hrecent').symm
    have hsame : (current == r) = (current' == r') := by
      rw [Bool.eq_iff_iff, beq_iff_eq, beq_iff_eq]
      exact hiff
    exact hsame

theorem Matched.append (hm : Matched c h h' place a b) {e e' : Exchange}
    (he : e.changed? c ≠ some place) (he' : e'.changed? c ≠ some place) :
    Matched c (h ++ [e]) (h' ++ [e']) place a b := by
  cases hm with
  | absent => exact .absent
  | held k content r r' hsole hsole' =>
    exact .held k content r r' (hsole.append he) (hsole'.append he')

end Matched

section InStep

variable {c : Catalog} {h h' : List Exchange} {l l' : Ledger}

theorem InStep.length_eq (hs : InStep c h h' l l') : h.length = h'.length := by
  have hlength := congrArg List.length hs.outcomes
  rwa [List.length_map, List.length_map] at hlength

theorem InStep.isSome_bind_eq (hs : InStep c h h' l l') (m : Message) :
    ((c.place? m).bind l).isSome = ((c.place? m).bind l').isSome := by
  cases c.place? m with
  | none => rfl
  | some place => exact (hs.matched place).isSome_eq

/-- A message that cannot be accepted fails the same in every map. -/
theorem failure?_put_of_refused {content : Message}
    (h : (c.isWritable content.name && c.isValid content) = false) (r r' : Revision) :
    l.failure? c (.put content r) = l'.failure? c (.put content r') := by
  cases hwritable : c.isWritable content.name with
  | false => simp only [Ledger.failure?, Ledger.demands, hwritable, List.find?_cons, Bool.not_false]
  | true =>
    rw [hwritable, Bool.true_and] at h
    cases hverdict : c.hasVerdict content with
    | false =>
      simp only [Ledger.failure?, Ledger.demands, hwritable, hverdict, List.find?_cons,
        Bool.not_true, Bool.not_false]
    | true =>
      simp only [Ledger.failure?, Ledger.demands, hwritable, hverdict, h, List.find?_cons,
        Bool.not_true, Bool.not_false]

/-- Calls that ask the same fail for the same reason or do not fail. -/
theorem InStep.failure?_eq (hs : InStep c h h' l l') {call call' : Call}
    (hasks : Asks c h h' call call') : l.failure? c call = l'.failure? c call' := by
  cases hasks with
  | get type key => rfl
  | list type => rfl
  | post content =>
    have habsent : ((c.place? content).bind l).isNone = ((c.place? content).bind l').isNone := by
      rw [← Option.not_isSome, ← Option.not_isSome, hs.isSome_bind_eq content]
    rw [Ledger.failure?, Ledger.failure?, Ledger.demands, Ledger.demands, habsent]
  | delete type key =>
    have hpresent := (hs.matched (type, key)).isSome_eq
    rw [Ledger.failure?, Ledger.failure?, Ledger.demands, Ledger.demands, hpresent]
  | refused content r r' hrefused => exact failure?_put_of_refused hrefused r r'
  | put content r r' place i hplace hgranted hgranted' hrecent =>
    have hcurrent : ((c.place? content).bind l).any (·.2 == r) =
        ((c.place? content).bind l').any (·.2 == r') := by
      rw [hplace]
      exact (hs.matched place).any_revision_eq hgranted hgranted' hrecent
        (hrecent.congr hs.writes)
    rw [Ledger.failure?, Ledger.failure?, Ledger.demands, Ledger.demands, hcurrent,
      hs.isSome_bind_eq content]

end InStep

/-! ### What exchanges did -/

/-- The message that a call asks to write. -/
def Call.content? : Call → Option Message
  | post m | put m _ => some m
  | get _ _ | list _ | delete _ _ => none

theorem Exchange.eq_of_written {e : Exchange} {m : Message} {r : Revision}
    (hcall : e.call.content? = some m) (hanswer : e.answer = .written (.ok r)) :
    e = ⟨.post m, .written (.ok r)⟩ ∨ ∃ old, e = ⟨.put m old, .written (.ok r)⟩ := by
  obtain ⟨call, answer⟩ := e
  subst hanswer
  cases call with
  | post m' =>
    cases hcall
    exact .inl rfl
  | put m' old =>
    cases hcall
    exact .inr ⟨old, rfl⟩
  | get _ _ => cases hcall
  | list _ => cases hcall
  | delete _ _ => cases hcall

theorem Exchange.changed?_of_written {c : Catalog} {e : Exchange} {m : Message} {r : Revision}
    (hcall : e.call.content? = some m) (hanswer : e.answer = .written (.ok r)) :
    e.changed? c = c.place? m := by
  rcases eq_of_written hcall hanswer with rfl | ⟨old, rfl⟩
  · rfl
  · rfl

/-- An exchange that wrote the record at a place. -/
structure Exchange.Writes (c : Catalog) (place : Place) (content : Message) (r : Revision)
    (e : Exchange) : Prop where
  call : e.call.content? = some content
  answer : e.answer = .written (.ok r)
  place : c.place? content = some place

namespace Exchange.Writes

variable {c : Catalog} {place : Place} {content : Message} {r : Revision} {e : Exchange}

theorem changed? (h : e.Writes c place content r) : e.changed? c = some place :=
  (changed?_of_written h.call h.answer).trans h.place

theorem granted? (h : e.Writes c place content r) : e.granted? = some r := by
  rcases eq_of_written h.call h.answer with rfl | ⟨old, rfl⟩
  · rfl
  · rfl

theorem record_self (h : e.Writes c place content r) (l : Ledger) :
    l.record c e place = some (content, r) := by
  have hplace := h.place
  rcases eq_of_written h.call h.answer with rfl | ⟨old, rfl⟩
  · simp only [Ledger.record, hplace]
    exact Function.update_self place _ l
  · simp only [Ledger.record, hplace]
    exact Function.update_self place _ l

end Exchange.Writes

/-- A call that failed changed nothing. -/
theorem Exchange.changed?_of_failure {c : Catalog} {e : Exchange} {error : StoreError}
    (h : e.answer.failure? = some error) : e.changed? c = none := by
  unfold Exchange.changed?
  split
  · cases h
  · cases h
  · cases h
  · rfl

/-- What two exchanges did that asked and were answered the same. -/
inductive Twins (c : Catalog) (e e' : Exchange) : Prop
  | idle (h : e.changed? c = none) (h' : e'.changed? c = none)
  | wrote (place : Place) (content : Message) (r r' : Revision) (h : e.Writes c place content r)
      (h' : e'.Writes c place content r')
  | removed (type key : String) (h : e = ⟨.delete type key, .deleted (.ok ())⟩) (h' : e' = e)

section Answers

variable {c : Catalog} {l l' : Ledger}

theorem answer_of_get {type key : String} {answer : Answer}
    (h : l.Answers ⟨.get type key, answer⟩) : answer = .found (l (type, key)) := by
  cases answer with
  | found entry => exact congrArg Answer.found h
  | listed _ => exact h.elim
  | written _ => exact h.elim
  | deleted _ => exact h.elim

theorem answer_of_list {type : String} {answer : Answer} (h : l.Answers ⟨.list type, answer⟩) :
    ∃ records, answer = .listed (.ok records) ∧ l.Lists type records := by
  cases answer with
  | found _ => exact h.elim
  | listed result =>
    cases result with
    | error _ => exact h.elim
    | ok records => exact ⟨records, rfl, h⟩
  | written _ => exact h.elim
  | deleted _ => exact h.elim

theorem answer_of_delete {type key : String} {answer : Answer}
    (h : l.Answers ⟨.delete type key, answer⟩) : ∃ result, answer = .deleted result := by
  cases answer with
  | found _ => exact h.elim
  | listed _ => exact h.elim
  | written _ => exact h.elim
  | deleted result => exact ⟨result, rfl⟩

theorem answer_of_content? {e : Exchange} {m : Message} (h : l.Answers e)
    (hcall : e.call.content? = some m) : ∃ result, e.answer = .written result := by
  unfold Ledger.Answers at h
  split at h
  · cases hcall
  · cases hcall
  · exact ⟨_, rfl⟩
  · exact ⟨_, rfl⟩
  · cases hcall
  · exact h.elim

theorem outcome_of_failure? {a : Answer} {e : StoreError} (h : a.failure? = some e) :
    a.outcome = .failed e.kind := by
  unfold Answer.failure? at h
  split at h
  · cases h
  · rw [← Option.some.inj h]
    rfl
  · rw [← Option.some.inj h]
    rfl
  · rw [← Option.some.inj h]
    rfl
  · cases h
  · cases h
  · cases h

/-- Answers that fail for one reason are the same, whatever the call. -/
theorem outcome_eq_of_failure? {a b : Answer}
    (hfailure : a.failure?.map StoreError.kind = b.failure?.map StoreError.kind)
    (hsuccess : a.failure? = none → b.failure? = none → a.outcome = b.outcome) :
    a.outcome = b.outcome := by
  cases ha : a.failure? with
  | none =>
    rw [ha, Option.map_none, eq_comm, Option.map_eq_none_iff] at hfailure
    exact hsuccess ha hfailure
  | some e =>
    rw [ha, Option.map_some, eq_comm, Option.map_eq_some_iff] at hfailure
    obtain ⟨e', hb, hkind⟩ := hfailure
    rw [outcome_of_failure? ha, outcome_of_failure? hb, hkind]

theorem outcome_of_written {a : Except StoreError Revision}
    (h : (Answer.written a).failure? = none) : (Answer.written a).outcome = .written := by
  cases a with
  | error e => cases h
  | ok r => rfl

theorem outcome_of_deleted {a : Except StoreError Unit}
    (h : (Answer.deleted a).failure? = none) : (Answer.deleted a).outcome = .deleted := by
  cases a with
  | error e => cases h
  | ok done => rfl

/-- Writes of one message write the same record, if they do not fail for the same reason. -/
theorem twins_of_content? {e e' : Exchange} {m : Message} (ha : l.Answers e) (ha' : l'.Answers e')
    (hcall : e.call.content? = some m) (hcall' : e'.call.content? = some m)
    (hfailure : e.answer.failure?.map StoreError.kind = e'.answer.failure?.map StoreError.kind) :
    Twins c e e' := by
  obtain ⟨a, hanswer⟩ := answer_of_content? ha hcall
  obtain ⟨b, hanswer'⟩ := answer_of_content? ha' hcall'
  rw [hanswer, hanswer'] at hfailure
  cases a with
  | error error =>
    cases b with
    | ok r' => cases hfailure
    | error error' =>
      have hfailed : e.answer.failure? = some error := by rw [hanswer]; rfl
      have hfailed' : e'.answer.failure? = some error' := by rw [hanswer']; rfl
      exact .idle (Exchange.changed?_of_failure hfailed) (Exchange.changed?_of_failure hfailed')
  | ok r =>
    cases b with
    | error error' => cases hfailure
    | ok r' =>
      cases hplace : c.place? m with
      | some place =>
        exact .wrote place m r r' ⟨hcall, hanswer, hplace⟩ ⟨hcall', hanswer', hplace⟩
      | none =>
        have hidle : e.changed? c = none :=
          (Exchange.changed?_of_written hcall hanswer).trans hplace
        have hidle' : e'.changed? c = none :=
          (Exchange.changed?_of_written hcall' hanswer').trans hplace
        exact .idle hidle hidle'

theorem twins_of_delete {type key : String} {a b : Answer}
    (ha : l.Answers ⟨.delete type key, a⟩) (hb : l'.Answers ⟨.delete type key, b⟩)
    (hfailure : a.failure?.map StoreError.kind = b.failure?.map StoreError.kind) :
    Twins c ⟨.delete type key, a⟩ ⟨.delete type key, b⟩ := by
  obtain ⟨result, rfl⟩ := answer_of_delete ha
  obtain ⟨result', rfl⟩ := answer_of_delete hb
  cases result with
  | error e =>
    cases result' with
    | error e' => exact .idle rfl rfl
    | ok _ => cases hfailure
  | ok _ =>
    cases result' with
    | error e' => cases hfailure
    | ok _ => exact .removed type key rfl rfl

end Answers

/-! ### One more call in either run -/

section Step

variable {c : Catalog} {h h' : List Exchange} {l l' : Ledger} {e e' : Exchange}

theorem Asks.isWrite_eq {call call' : Call} (hasks : Asks c h h' call call') :
    call.isWrite = call'.isWrite := by
  cases hasks <;> rfl

theorem InStep.failure?_answer_eq (hs : InStep c h h' l l') (hasks : Asks c h h' e.call e'.call)
    (he : l.Explains c e) (he' : l'.Explains c e') :
    e.answer.failure?.map StoreError.kind = e'.answer.failure?.map StoreError.kind :=
  he.1.trans ((hs.failure?_eq hasks).trans he'.1.symm)

/-- Two writes of one message are answered the same, if they fail for one reason or succeed. -/
theorem outcome_eq_of_content? {m : Message} (ha : l.Answers e) (ha' : l'.Answers e')
    (hcall : e.call.content? = some m) (hcall' : e'.call.content? = some m)
    (hfailure : e.answer.failure?.map StoreError.kind = e'.answer.failure?.map StoreError.kind) :
    e.answer.outcome = e'.answer.outcome := by
  obtain ⟨a, hanswer⟩ := answer_of_content? ha hcall
  obtain ⟨b, hanswer'⟩ := answer_of_content? ha' hcall'
  rw [hanswer, hanswer'] at hfailure ⊢
  apply outcome_eq_of_failure? hfailure
  intro hsuccess hsuccess'
  rw [outcome_of_written hsuccess, outcome_of_written hsuccess']

/-- Calls that ask the same are answered the same. -/
theorem InStep.outcome_eq (hs : InStep c h h' l l') (hasks : Asks c h h' e.call e'.call)
    (he : l.Explains c e) (he' : l'.Explains c e') : e.answer.outcome = e'.answer.outcome := by
  have hfailure := hs.failure?_answer_eq hasks he he'
  obtain ⟨call, answer⟩ := e
  obtain ⟨call', answer'⟩ := e'
  change Asks c h h' call call' at hasks
  cases hasks with
  | get type key =>
    rw [answer_of_get he.2, answer_of_get he'.2]
    exact congrArg Outcome.found (hs.matched (type, key)).content_eq
  | list type =>
    obtain ⟨records, rfl, hlists⟩ := answer_of_list he.2
    obtain ⟨records', rfl, hlists'⟩ := answer_of_list he'.2
    have hcontents : Record.contents records = Record.contents records' :=
      hlists.contents_eq hlists' fun key => (hs.matched (type, key)).content_eq
    exact congrArg Outcome.listed hcontents
  | post content => exact outcome_eq_of_content? he.2 he'.2 rfl rfl hfailure
  | delete type key =>
    obtain ⟨result, rfl⟩ := answer_of_delete he.2
    obtain ⟨result', rfl⟩ := answer_of_delete he'.2
    apply outcome_eq_of_failure? hfailure
    intro hsuccess hsuccess'
    rw [outcome_of_deleted hsuccess, outcome_of_deleted hsuccess']
  | refused content r r' hrefused => exact outcome_eq_of_content? he.2 he'.2 rfl rfl hfailure
  | put content r r' place i hplace hgranted hgranted' hrecent =>
    exact outcome_eq_of_content? he.2 he'.2 rfl rfl hfailure

/-- Calls that ask the same do the same. -/
theorem InStep.twins (hs : InStep c h h' l l') (hasks : Asks c h h' e.call e'.call)
    (he : l.Explains c e) (he' : l'.Explains c e') : Twins c e e' := by
  have hfailure := hs.failure?_answer_eq hasks he he'
  obtain ⟨call, answer⟩ := e
  obtain ⟨call', answer'⟩ := e'
  change Asks c h h' call call' at hasks
  cases hasks with
  | get type key => exact .idle rfl rfl
  | list type => exact .idle rfl rfl
  | post content => exact twins_of_content? he.2 he'.2 rfl rfl hfailure
  | delete type key => exact twins_of_delete he.2 he'.2 hfailure
  | refused content r r' hrefused => exact twins_of_content? he.2 he'.2 rfl rfl hfailure
  | put content r r' place i hplace hgranted hgranted' hrecent =>
    exact twins_of_content? he.2 he'.2 rfl rfl hfailure

/-- Runs in step stay in step over calls that ask the same. -/
theorem InStep.append (hs : InStep c h h' l l') (hasks : Asks c h h' e.call e'.call)
    (he : l.Explains c e) (he' : l'.Explains c e') {before after before' after' : String → UInt64}
    (hdated : Dated c h before) (hticks : Ticks c before after e)
    (hdated' : Dated c h' before') (hticks' : Ticks c before' after' e') :
    InStep c (h ++ [e]) (h' ++ [e']) (l.record c e) (l'.record c e') where
  outcomes := by
    rw [List.map_append, List.map_append, hs.outcomes, List.map_singleton, List.map_singleton,
      hs.outcome_eq hasks he he']
  writes := by
    rw [List.map_append, List.map_append, hs.writes, List.map_singleton, List.map_singleton,
      hasks.isWrite_eq]
  matched place := by
    have hother : e.changed? c ≠ some place → e'.changed? c ≠ some place →
        Matched c (h ++ [e]) (h' ++ [e']) place (l.record c e place) (l'.record c e' place) := by
      intro hne hne'
      rw [Ledger.record_of_ne hne, Ledger.record_of_ne hne']
      exact (hs.matched place).append hne hne'
    cases hs.twins hasks he he' with
    | idle hidle hidle' =>
      refine hother ?_ ?_
      · rw [hidle]
        exact nofun
      · rw [hidle']
        exact nofun
    | wrote place' content r r' hwrites hwrites' =>
      by_cases hplace : place' = place
      · subst hplace
        have hsole := hdated.sole hticks hwrites.changed? hwrites.granted?
        have hsole' := hdated'.sole hticks' hwrites'.changed? hwrites'.granted?
        rw [← hs.length_eq] at hsole'
        rw [hwrites.record_self, hwrites'.record_self]
        exact .held h.length content r r' hsole hsole'
      · have hne : some place' ≠ some place := fun heq => hplace (Option.some.inj heq)
        exact hother (hwrites.changed? ▸ hne) (hwrites'.changed? ▸ hne)
    | removed type key heq heq' =>
      subst heq' heq
      by_cases hplace : (type, key) = place
      · subst hplace
        have hgone : ∀ l : Ledger, l.record c ⟨.delete type key, .deleted (.ok ())⟩ (type, key) =
            none := fun l => Function.update_self _ _ l
        rw [hgone, hgone]
        exact .absent
      · have hne : some (type, key) ≠ some place := fun heq => hplace (Option.some.inj heq)
        exact hother hne hne

end Step

/-! ### Whole runs -/

namespace Federation

/-- The maps and the counters that two runs side by side have come to. -/
structure Together (c : Catalog) (u : Federation Memory) (m : Memory) (calls calls' : List Call)
    (l l' : Ledger) : Prop where
  inStep : InStep c (history u calls) (history m calls') l l'
  catalog : (afterCalls u calls).catalog = c
  shows : (afterCalls u calls).Shows l
  dated : Dated c (history u calls) (afterCalls u calls).clock
  catalog' : (afterCalls m calls').catalog = c
  shows' : (afterCalls m calls').Shows l'
  dated' : Dated c (history m calls') fun _ => (afterCalls m calls').writes

theorem Together.append {c : Catalog} {u : Federation Memory} {m : Memory}
    {calls calls' : List Call} {l l' : Ledger} (hc : c.IsSound)
    (ht : Together c u m calls calls' l l') {call call' : Call}
    (hasks : Asks c (history u calls) (history m calls') call call') :
    ∃ l l', Together c u m (calls ++ [call]) (calls' ++ [call']) l l' := by
  obtain ⟨hstep, hcatalog, hshows, hdated, hcatalog', hshows', hdated'⟩ := ht
  have hsound : (afterCalls u calls).catalog.IsSound := hcatalog ▸ hc
  obtain ⟨hexplains, hnext⟩ := perform_explained hsound hshows call
  obtain ⟨hexplains', hnext'⟩ := Memory.perform_explained hshows' call'
  have hticks := ticks_perform hsound call
  have hticks' := Memory.ticks_perform (afterCalls m calls') call'
  have hkept := catalog_perform hsound call
  have hkept' := Memory.catalog_perform (afterCalls m calls') call'
  rw [hcatalog] at hexplains hnext hticks hkept
  rw [hcatalog'] at hexplains' hnext' hticks' hkept'
  refine ⟨l.record c ⟨call, (call.perform (afterCalls u calls)).1⟩,
    l'.record c ⟨call', (call'.perform (afterCalls m calls')).1⟩, ?_⟩
  constructor
  · rw [history_append, history_append]
    exact hstep.append hasks hexplains hexplains' hdated hticks hdated' hticks'
  · rw [afterCalls_append]
    exact hkept
  · rw [afterCalls_append]
    exact hnext
  · rw [history_append, afterCalls_append]
    exact hdated.append hticks
  · rw [afterCalls_append]
    exact hkept'
  · rw [afterCalls_append]
    exact hnext'
  · rw [history_append, afterCalls_append]
    exact hdated'.append hticks'

theorem exists_together {c : Catalog} {u : Federation Memory} {m : Memory} (hc : c.IsSound)
    (hstart : Together c u m [] [] Ledger.empty Ledger.empty) {calls calls' : List Call}
    (halong : Alongside c u m calls calls') : ∃ l l', Together c u m calls calls' l l' := by
  induction halong with
  | nil => exact ⟨Ledger.empty, Ledger.empty, hstart⟩
  | snoc calls calls' call call' _ hasks ih =>
    obtain ⟨l, l', ht⟩ := ih
    exact ht.append hc hasks

theorem catalog_members (catalogs : List Catalog) :
    catalog (⟨catalogs.map Memory.new⟩ : Federation Memory) = catalogs.flatten := by
  have hcatalog : (Store.catalog ∘ Memory.new : Catalog → Catalog) = id := rfl
  rw [catalog, List.flatMap_map, ← Function.comp_def, hcatalog, List.flatMap_id]

theorem get_new (catalogs : List Catalog) (type key : String) :
    get (⟨catalogs.map Memory.new⟩ : Federation Memory) type key = none := by
  rw [get, Option.bind_eq_none_iff]
  intro m hm
  obtain ⟨i, -, hi⟩ := Option.bind_eq_some_iff.mp hm
  obtain ⟨c, -, rfl⟩ := List.mem_map.mp (List.mem_of_getElem? hi)
  rfl

/-- New stores for the parts of a catalog, put together, answer every call as one new store for
the whole of it, apart from revisions. -/
theorem outcomes_eq_of_alongside (catalogs : List Catalog)
    (hvalid : Catalog.validate catalogs.flatten = []) :
    let u : Federation Memory := ⟨catalogs.map Memory.new⟩
    let m := Memory.new catalogs.flatten
    new (catalogs.map Memory.new) = .ok u ∧
      ∀ calls calls', Alongside catalogs.flatten u m calls calls' →
        (history u calls).map (·.answer.outcome) =
          (history m calls').map (·.answer.outcome) := by
  intro u m
  have hc : Catalog.IsSound catalogs.flatten := Catalog.isSound_of_validate hvalid
  have hcatalog : u.catalog = catalogs.flatten := catalog_members catalogs
  have hsound : u.catalog.IsSound := hcatalog ▸ hc
  refine ⟨new_of_isSound hsound, ?_⟩
  intro calls calls' halong
  have hstart : Together catalogs.flatten u m [] [] Ledger.empty Ledger.empty :=
    ⟨inStep_empty _, hcatalog, get_new catalogs, dated_nil _ _, rfl, fun _ _ => rfl,
      dated_nil _ _⟩
  obtain ⟨l, l', ht⟩ := exists_together hc hstart halong
  exact ht.inStep.outcomes

/-- Tasks in one part; notes, and logs that nobody writes, in another. -/
def parts : List Catalog :=
  [[⟨"task", "tasks", "test.Task", false, fun _ => .ok "a", fun _ => .ok []⟩],
    [⟨"note", "notes", "test.Note", false, fun _ => .ok "a", fun _ => .ok []⟩,
      ⟨"log", "logs", "test.Log", true, fun _ => .ok "a", fun _ => .ok []⟩]]

/-- A note is replaced after a task was written, then replaced by a client that has not seen it;
the revisions that both clients name are those of the first note. -/
def noteCalls (first : Revision) : List Call :=
  [.post ⟨"test.Task", .int 1⟩, .post ⟨"test.Note", .int 1⟩, .put ⟨"test.Note", .int 2⟩ first,
    .put ⟨"test.Note", .int 3⟩ first, .post ⟨"test.Log", .int 1⟩, .list "note"]

/-- The first note has revision 1 in a store for notes and revision 2 in a store for all. -/
theorem outcomes_of_noteCalls :
    Catalog.validate parts.flatten = [] ∧
      (history (⟨parts.map Memory.new⟩ : Federation Memory) (noteCalls "1")).map
          (·.answer.outcome) =
        (history (Memory.new parts.flatten) (noteCalls "2")).map (·.answer.outcome) ∧
      (history (Memory.new parts.flatten) (noteCalls "2")).map (·.answer.outcome) =
        [.written, .written, .written, .failed .revisionMismatch, .failed .unknownType,
          .listed [("a", ⟨"test.Note", .int 2⟩)]] := by
  have hvalid : Catalog.validate parts.flatten = [] := by decide
  let u : Federation Memory := ⟨parts.map Memory.new⟩
  let m := Memory.new parts.flatten
  let before (n : Nat) := (noteCalls "1").take n
  let before' (n : Nat) := (noteCalls "2").take n
  have hposted : Alongside parts.flatten u m (before 2) (before' 2) :=
    .snoc (before 1) (before' 1) _ _ (.snoc [] [] _ _ .nil (.post _)) (.post _)
  -- both replacements name what the first note was answered with, on either side
  have hreplaced : Alongside parts.flatten u m (before 3) (before' 3) :=
    .snoc (before 2) (before' 2) _ _ hposted
      (.put _ _ _ ("note", "a") 1 rfl ⟨_, rfl, rfl, rfl⟩ ⟨_, rfl, rfl, by decide⟩ (by decide))
  have hrefused : Alongside parts.flatten u m (before 4) (before' 4) :=
    .snoc (before 3) (before' 3) _ _ hreplaced
      (.put _ _ _ ("note", "a") 1 rfl ⟨_, rfl, rfl, rfl⟩ ⟨_, rfl, rfl, by decide⟩ (by decide))
  have halong : Alongside parts.flatten u m (noteCalls "1") (noteCalls "2") :=
    .snoc (before 5) (before' 5) _ _ (.snoc (before 4) (before' 4) _ _ hrefused (.post _))
      (.list "note")
  exact ⟨hvalid, (outcomes_eq_of_alongside parts hvalid).2 _ _ halong, rfl⟩

end Federation

end MeshControl.Config
