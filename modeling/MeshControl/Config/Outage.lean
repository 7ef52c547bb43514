import MeshControl.Config.Store

/-!
A store that other hands reach too and that is not always up. Records laid over the store are
found before its own and were never checked. Outages make calls fail, each a number of times or
for good.
-/
namespace MeshControl.Config

inductive Method where
  | list
  | post
  | put
  | delete
deriving DecidableEq, Repr

structure Outage where
  method : Method
  /-- The type whose calls fail; none for any. -/
  type : Option String
  /-- How many calls are still to fail; none for all. -/
  remaining : Option Nat
  error : StoreError

structure Fragile (σ : Type) where
  store : σ
  overlay : List Record
  outages : List Outage
  /-- Whether lists are sorted by key after the overlay has been added. -/
  sorted : Bool

namespace Outage

def hits (o : Outage) (method : Method) (type : Option String) : Bool :=
  o.method == method && (o.type.isNone || o.type == type) && o.remaining != some 0

def spend (o : Outage) : Outage := { o with remaining := o.remaining.map (· - 1) }

/-- Takes one failure from the first outage that applies. -/
def strike (method : Method) (type : Option String) :
    List Outage → Option StoreError × List Outage
  | [] => (none, [])
  | o :: os =>
    if o.hits method type then (some o.error, o.spend :: os)
    else
      let (e, os) := strike method type os
      (e, o :: os)

end Outage

namespace Fragile

variable {σ : Type} [Store σ]

def get (f : Fragile σ) (type key : String) : Option (Message × Revision) :=
  match f.overlay.find? (fun r => r.type == type && r.key == key) with
  | some r => some (r.content, r.revision)
  | none => Store.get f.store type key

def sortByKey (l : List Record) : List Record := l.mergeSort fun a b => !textLt b.key a.key

/-- Fails the call if an outage applies, and carries it to the store otherwise. -/
def call {α : Type} (f : Fragile σ) (method : Method) (type : Option String)
    (act : σ → Except StoreError α × σ) : Except StoreError α × Fragile σ :=
  match Outage.strike method type f.outages with
  | (some e, outages) => (.error e, { f with outages })
  | (none, _) =>
    let (result, store) := act f.store
    (result, { f with store })

def list (f : Fragile σ) (type : String) : Except StoreError (List Record) × Fragile σ :=
  let (result, g) := f.call .list (some type) fun s => Store.list s type
  let laid := f.overlay.filter (·.type == type)
  (result.map fun own => if f.sorted then sortByKey (own ++ laid) else own ++ laid, g)

instance : Store (Fragile σ) where
  catalog f := Store.catalog f.store
  get := Fragile.get
  list := Fragile.list
  post f content := f.call .post none fun s => Store.post s content
  put f content revision := f.call .put none fun s => Store.put s content revision
  delete f type key := f.call .delete (some type) fun s => Store.delete s type key

end Fragile

end MeshControl.Config
