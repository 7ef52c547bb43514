import MeshControl.Agent.Clock
import MeshControl.Json.Basic

/-!
What an agent did in a span of time: the epochs that it started, those that it aborted and
cleaned up after, and how its work ended if it did.
-/
namespace MeshControl.Agent

/-- The start of an epoch. -/
structure Start (γ : Type) where
  time : Nat
  epoch : Nat
  config : γ

structure Report (γ : Type) where
  starts : List (Start γ)
  /-- In ascending order, as are the epochs cleaned up after. -/
  aborted : List Nat
  cleaned : List Nat
  outcome : Option Outcome

namespace Entry

variable {γ : Type}

def start? (e : Entry γ) : Option (Start γ) :=
  match e.action with
  | .start epoch config => some ⟨e.time, epoch, config⟩
  | _ => none

def aborted? (e : Entry γ) : Option Nat :=
  match e.action with
  | .abort epoch => some epoch
  | _ => none

def cleaned? (e : Entry γ) : Option Nat :=
  match e.action with
  | .cleanUp epoch => some epoch
  | _ => none

def outcome? (e : Entry γ) : Option Outcome :=
  match e.action with
  | .finish outcome => some outcome
  | _ => none

end Entry

namespace Report

variable {γ : Type}

def ofEntries (entries : List (Entry γ)) : Report γ where
  starts := entries.filterMap Entry.start?
  aborted := (entries.filterMap Entry.aborted?).mergeSort (· ≤ ·)
  cleaned := (entries.filterMap Entry.cleaned?).mergeSort (· ≤ ·)
  outcome := entries.findSome? Entry.outcome?

end Report

/-- An outcome that is a failure is told by its text. -/
def Outcome.json (o : Outcome) : Json :=
  match o.failure? with
  | none => .obj [("ok", .null)]
  | some text => .obj [("error", .str "Fatal"), ("message", .str text)]

/-- A report, with the fields that tell of a start. -/
def Report.json {γ : Type} (start : Start γ → List (String × Json)) (r : Report γ) : Json :=
  .obj [
    ("runs", .arr (r.starts.map fun s => .obj (("epoch", .nat s.epoch) :: start s))),
    ("aborted", .arr (r.aborted.map .nat)),
    ("cleaned", .arr (r.cleaned.map .nat)),
    ("done", (r.outcome.map Outcome.json).getD .null)]

end MeshControl.Agent
