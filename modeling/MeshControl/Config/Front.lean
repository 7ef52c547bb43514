import MeshControl.Config.Controller

/-!
A store as the services of a process see it: the store itself, or a running controller that
keeps it in step. A clock tells the controller when to act.
-/
namespace MeshControl.Config

structure Front (σ : Type) where
  controller : Controller σ
  /-- Whether the controller runs and is asked in place of the store. -/
  live : Bool
  now : Nat

namespace Front

variable {σ : Type} [Store σ]

/-- Lets the controller do what is due, and counts what it reports. -/
def settle (f : Front σ) : Front σ × Nat :=
  let (controller, notices) := f.controller.settle f.now
  ({ f with controller }, notices.length)

/-- A front that has been told to report changes of some types. -/
def new (store : σ) (resync : Nat) (types : List String) (live : Bool) : Front σ :=
  let controller := types.foldl (fun c type => c.register type 0) (Controller.new store resync)
  ⟨if live then controller.start 0 else controller, live, 0⟩

/-- Lets time pass, and counts what is reported meanwhile. -/
def advance (f : Front σ) (time : Nat) : Front σ × Nat :=
  let (controller, notices) := f.controller.advance f.now (f.now + time)
  ({ f with controller, now := f.now + time }, notices.length)

def setStore (f : Front σ) (store : σ) : Front σ :=
  { f with controller := { f.controller with store } }

/-- Carries a call to the controller or to the store. -/
def call {α : Type} (f : Front σ) (through : Controller σ → α × Controller σ)
    (direct : σ → α × σ) : α × Front σ :=
  if f.live then
    let (a, controller) := through f.controller
    (a, { f with controller })
  else
    let (a, store) := direct f.controller.store
    (a, f.setStore store)

instance : Store (Front σ) where
  catalog f := Store.catalog f.controller.store
  get f type key :=
    if f.live then Store.get f.controller type key else Store.get f.controller.store type key
  list f type := f.call (Store.list · type) (Store.list · type)
  post f content := f.call (Store.post · content) (Store.post · content)
  put f content revision := f.call (Store.put · content revision) (Store.put · content revision)
  delete f type key := f.call (Store.delete · type key) (Store.delete · type key)

end Front

end MeshControl.Config
