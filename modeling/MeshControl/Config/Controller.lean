import MeshControl.Config.Outage
import MeshControl.Config.Sweep

/-!
A controller keeps a snapshot of a store. It lists every type when it starts, at every tick of
its resync period and after every write made through it, and tells handlers the differences.
Time is a number of milliseconds that is given to it.

The controller moves in turns. A turn begins a pass, lists one type, or ends a pass; between
turns anything may happen to the store. A list that fails because the store is unavailable is
tried again after a rest, four times in all; a type that cannot be listed keeps its snapshot.
-/
namespace MeshControl.Config

/-- A pass over the types: the next tick, the types still to list, how often the first of them
has failed, and whether all before it were listed. -/
structure Pass where
  tick : Nat
  rest : List String
  failures : Nat
  complete : Bool
deriving DecidableEq, Repr

inductive Phase where
  | idle
  | waiting (tick : Nat)
  | listing (pass : Pass)
  | resting (wake : Nat) (pass : Pass)
deriving DecidableEq, Repr

structure Controller (σ : Type) where
  store : σ
  resync : Nat
  snapshot : Table (List Record)
  /-- The handlers of each type in the order of their registration. -/
  handlers : Table (List Nat)
  synced : Bool
  /-- Whether a write asks for another pass. -/
  relist : Bool
  phase : Phase

/-- One event as one handler sees it. -/
structure Notice where
  handler : Nat
  event : Event
  record : Record
  time : Nat

def Notice.json (n : Notice) : Json :=
  .obj [
    ("handler", .nat n.handler), ("type", .str n.record.type), ("key", .str n.record.key),
    ("event", .str n.event.text), ("revision", .str n.record.revision), ("at", .nat n.time)]

namespace Controller

variable {σ : Type}

def attempts : Nat := 4

def firstRest : Nat := 10

/-- How late a tick may come and still count as on time. -/
def tickTolerance : Nat := 5

def new (store : σ) (resync : Nat) : Controller σ :=
  ⟨store, resync, Table.empty, Table.empty, false, false, .idle⟩

/-! ### Reading -/

/-- Halves the range `base` to `base + size` until one candidate for the key is left: the last
record that is not greater. -/
def narrow (l : List Record) (key : String) : Nat → Nat → Nat → Nat
  | 0, base, _ => base
  | fuel + 1, base, size =>
    if size ≤ 1 then base
    else
      let half := size / 2
      let mid := base + half
      let greater := match l[mid]? with
        | some r => textLt key r.key
        | none => true
      narrow l key fuel (if greater then base else mid) (size - half)

/-- Finds a record by its key in a sorted list. -/
def search (l : List Record) (key : String) : Option Record :=
  (l[narrow l key l.length 0 l.length]?).filter (·.key == key)

def known (c : Controller σ) (type : String) : List Record := (c.snapshot.find? type).getD []

def get (c : Controller σ) (type key : String) : Option (Message × Revision) :=
  (search (c.known type) key).map fun r => (r.content, r.revision)

/-! ### Handlers -/

def handlersOf (c : Controller σ) (type : String) : List Nat := (c.handlers.find? type).getD []

def register (c : Controller σ) (type : String) (handler : Nat) : Controller σ :=
  { c with handlers := c.handlers.insert type (c.handlersOf type ++ [handler]) }

def notices (c : Controller σ) (type : String) (now : Nat) (events : List (Record × Event)) :
    List Notice :=
  events.flatMap fun (r, e) => (c.handlersOf type).map fun h => ⟨h, e, r, now⟩

/-! ### Turns -/

variable [Store σ]

/-- The tick after one that was due at `tick` and is taken at `now`. -/
def nextTick (c : Controller σ) (tick now : Nat) : Nat :=
  if tick + tickTolerance < now then now + c.resync else tick + c.resync

def beginPass (c : Controller σ) (tick : Nat) : Controller σ :=
  { c with phase := .listing ⟨tick, (Store.catalog c.store).types, 0, true⟩ }

def restAfter (c : Controller σ) (failures : Nat) : Nat :=
  min (firstRest * Nat.pow 2 failures) c.resync

/-- Replaces the snapshot of a type by what was listed and reports the differences. -/
def refresh (c : Controller σ) (type : String) (now : Nat) (listed : List Record) :
    Controller σ × List Notice :=
  let new := Fragile.sortByKey listed
  let events := sweep (c.known type) new
  ({ c with snapshot := c.snapshot.insert type new }, c.notices type now events)

def listType (c : Controller σ) (now : Nat) (pass : Pass) (type : String)
    (rest : List String) : Controller σ × List Notice :=
  let (result, store) := Store.list c.store type
  let c := { c with store }
  match result with
  | .ok listed =>
    let (c, notices) := c.refresh type now listed
    ({ c with phase := .listing ⟨pass.tick, rest, 0, pass.complete⟩ }, notices)
  | .error (.unavailable _) =>
    if pass.failures + 1 < attempts then
      let again := { pass with failures := pass.failures + 1 }
      ({ c with phase := .resting (now + c.restAfter pass.failures) again }, [])
    else ({ c with phase := .listing ⟨pass.tick, rest, 0, false⟩ }, [])
  | .error _ => ({ c with phase := .listing ⟨pass.tick, rest, 0, false⟩ }, [])

/-- One turn, or none when there is nothing to do yet. -/
def turn (c : Controller σ) (now : Nat) : Option (Controller σ × List Notice) :=
  match c.phase with
  | .idle => none
  | .waiting tick =>
    if c.relist then some (beginPass { c with relist := false } tick, [])
    else if tick ≤ now then some (c.beginPass (c.nextTick tick now), [])
    else none
  | .listing pass =>
    match pass.rest with
    | [] => some ({ c with synced := c.synced || pass.complete, phase := .waiting pass.tick }, [])
    | type :: rest => some (c.listType now pass type rest)
  | .resting wake pass => if wake ≤ now then some ({ c with phase := .listing pass }, []) else none

/-- When the next turn falls due if nothing happens before. -/
def due? (c : Controller σ) : Option Nat :=
  match c.phase with
  | .waiting tick => some tick
  | .resting wake _ => some wake
  | _ => none

def turns : Nat → Nat → Controller σ → Controller σ × List Notice
  | 0, _, c => (c, [])
  | fuel + 1, now, c =>
    match c.turn now with
    | none => (c, [])
    | some (c, notices) =>
      let (c, more) := turns fuel now c
      (c, notices ++ more)

/-- Takes turns until the controller waits. At one moment it makes at most one pass for a write
and one for each of the few ticks that count as on time. -/
def settle (c : Controller σ) (now : Nat) : Controller σ × List Notice :=
  turns (((Store.catalog c.store).length + 2) * (tickTolerance + 4)) now c

/-- Moves the clock from `now` to `target`, taking every turn when it falls due. -/
def advanceWith : Nat → Nat → Nat → Controller σ → Controller σ × List Notice
  | 0, now, _, c => c.settle now
  | fuel + 1, now, target, c =>
    let (c, notices) := c.settle now
    match c.due? with
    | none => (c, notices)
    | some time =>
      if now < time ∧ time ≤ target then
        let (c, more) := advanceWith fuel time target c
        (c, notices ++ more)
      else (c, notices)

def advance (c : Controller σ) (now target : Nat) : Controller σ × List Notice :=
  advanceWith (target - now) now target c

def start (c : Controller σ) (now : Nat) : Controller σ :=
  match c.phase with
  | .idle => { c with phase := .waiting now }
  | _ => c

/-- Ends a pass that has begun. Rests are slept through, so the clock moves on. -/
def finishPass : Nat → Nat → Controller σ → Controller σ × List Notice × Nat
  | 0, now, c => (c, [], now)
  | fuel + 1, now, c =>
    match c.phase with
    | .idle | .waiting _ => (c, [], now)
    | .resting wake pass => finishPass fuel (max now wake) { c with phase := .listing pass }
    | .listing _ =>
      match c.turn now with
      | none => (c, [], now)
      | some (c, notices) =>
        let (c, more, now) := finishPass fuel now c
        (c, notices ++ more, now)

/-- Stops after the pass that is under way. The result holds the time when it has stopped. -/
def stop (c : Controller σ) (now : Nat) : Controller σ × List Notice × Nat :=
  let turns := 2 * attempts * ((Store.catalog c.store).length + 1)
  let (c, notices, now) := finishPass turns now c
  ({ c with phase := .idle }, notices, now)

/-! ### Writing -/

/-- Carries a write to the store and asks for another pass if it succeeded. -/
def write {α : Type} (c : Controller σ) (act : σ → Except StoreError α × σ) :
    Except StoreError α × Controller σ :=
  let (result, store) := act c.store
  (result, { c with store, relist := c.relist || result.isOk })

instance : Store (Controller σ) where
  catalog c := Store.catalog c.store
  get := Controller.get
  list c type := (.ok (c.known type), c)
  post c content := c.write fun s => Store.post s content
  put c content revision := c.write fun s => Store.put s content revision
  delete c type key := c.write fun s => Store.delete s type key

end Controller

end MeshControl.Config
