import MeshControl.Config.Store

/-!
Calls to a store and what they are answered. Calls of several clients reach a store one at a
time, so whatever their order was, they make one list; a history is such a list with the answers.
-/
namespace MeshControl.Config

inductive Call where
  | get (type key : String)
  | list (type : String)
  | post (content : Message)
  | put (content : Message) (revision : Revision)
  | delete (type key : String)

inductive Answer where
  | found (entry : Option (Message × Revision))
  | listed (records : Except StoreError (List Record))
  | written (revision : Except StoreError Revision)
  | deleted (result : Except StoreError Unit)

structure Exchange where
  call : Call
  answer : Answer

variable {σ : Type} [Store σ]

namespace Call

def isWrite : Call → Bool
  | post _ | put _ _ => true
  | get _ _ | list _ | delete _ _ => false

/-- The answer of a store to a call, and the store after it. -/
def perform (s : σ) : Call → Answer × σ
  | get type key => (.found (Store.get s type key), s)
  | list type => ((.listed (Store.list s type).1), (Store.list s type).2)
  | post content => (.written (Store.post s content).1, (Store.post s content).2)
  | put content revision =>
    (.written (Store.put s content revision).1, (Store.put s content revision).2)
  | delete type key => (.deleted (Store.delete s type key).1, (Store.delete s type key).2)

end Call

namespace Answer

def failure? : Answer → Option StoreError
  | found _ => none
  | listed (.error e) | written (.error e) | deleted (.error e) => some e
  | listed (.ok _) | written (.ok _) | deleted (.ok _) => none

end Answer

/-- The store after a list of calls. -/
def afterCalls (s : σ) (calls : List Call) : σ :=
  calls.foldl (fun s call => (call.perform s).2) s

def history (s : σ) : List Call → List Exchange
  | [] => []
  | call :: calls => ⟨call, (call.perform s).1⟩ :: history (call.perform s).2 calls

theorem afterCalls_cons (s : σ) (call : Call) (calls : List Call) :
    afterCalls s (call :: calls) = afterCalls (call.perform s).2 calls := rfl

theorem afterCalls_append (s : σ) (calls more : List Call) :
    afterCalls s (calls ++ more) = afterCalls (afterCalls s calls) more :=
  List.foldl_append

theorem history_append (s : σ) (calls more : List Call) :
    history s (calls ++ more) = history s calls ++ history (afterCalls s calls) more := by
  induction calls generalizing s with
  | nil => rfl
  | cons call calls ih => simp only [List.cons_append, history, afterCalls_cons, ih]

/-- Wherever a history is cut, the part before the cut is the history of some first calls and
the exchange at the cut is the next call on the store they leave. -/
theorem history_eq_append_cons {s : σ} {calls : List Call} {before after : List Exchange}
    {e : Exchange} (h : history s calls = before ++ e :: after) :
    ∃ first rest, calls = first ++ e.call :: rest ∧ before = history s first ∧
      e.answer = (e.call.perform (afterCalls s first)).1 := by
  induction before generalizing s calls with
  | nil =>
    cases calls with
    | nil => simp [history] at h
    | cons call calls =>
      rw [history, List.nil_append, List.cons.injEq] at h
      obtain ⟨rfl, -⟩ := h
      exact ⟨[], calls, rfl, rfl, rfl⟩
  | cons b before ih =>
    cases calls with
    | nil => simp [history] at h
    | cons call calls =>
      rw [history, List.cons_append, List.cons.injEq] at h
      obtain ⟨rfl, htail⟩ := h
      obtain ⟨first, rest, rfl, rfl, hanswer⟩ := ih htail
      exact ⟨call :: first, rest, rfl, rfl, hanswer⟩

end MeshControl.Config
