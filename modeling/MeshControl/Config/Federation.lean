import MeshControl.Config.Store

/-!
A federation of stores. Each type belongs to the one store that knows it, and every call
goes there unchanged.
-/
namespace MeshControl.Config

structure Federation (σ : Type) where
  members : List σ

namespace Federation

variable {σ : Type} [Store σ]

/-- The first type that stands in a list a second time. -/
def repeated? (seen : List String) : List String → Option String
  | [] => none
  | t :: ts => if seen.contains t then some t else repeated? (t :: seen) ts

def catalog (u : Federation σ) : Catalog := u.members.flatMap Store.catalog

/-- Fails if two stores know the same type. -/
def new (members : List σ) : Except StoreError (Federation σ) :=
  let u : Federation σ := ⟨members⟩
  match repeated? [] u.catalog.types with
  | some type => .error (.conflict type)
  | none => .ok u

/-- The position of the store that knows a type. -/
def owner? (u : Federation σ) (type : String) : Option Nat :=
  u.members.findIdx? fun m => (Store.catalog m).types.contains type

def member? (u : Federation σ) (i : Nat) : Option σ := u.members[i]?

def setMember (u : Federation σ) (i : Nat) (s : σ) : Federation σ := ⟨u.members.set i s⟩

/-- Carries a call to one member, if it exists. -/
def at? {α : Type} (u : Federation σ) (i : Nat) (call : σ → α × σ) :
    Option (α × Federation σ) :=
  (u.member? i).map fun s =>
    let (a, s) := call s
    (a, u.setMember i s)

def forType {α : Type} (u : Federation σ) (type : String) (none : α) (call : σ → α × σ) :
    α × Federation σ :=
  ((u.owner? type).bind fun i => u.at? i call).getD (none, u)

def forMessage (u : Federation σ) (content : Message)
    (call : σ → Except StoreError Revision × σ) : Except StoreError Revision × Federation σ :=
  match u.catalog.byMessage? content.name with
  | none => (.error (.unknownType content.name), u)
  | some schema => u.forType schema.type (.error (.unknownType schema.type)) call

def get (u : Federation σ) (type key : String) : Option (Message × Revision) :=
  ((u.owner? type).bind u.member?).bind fun s => Store.get s type key

instance : Store (Federation σ) where
  catalog := Federation.catalog
  get := Federation.get
  list u type := u.forType type (.ok []) fun s => Store.list s type
  post u content := u.forMessage content fun s => Store.post s content
  put u content revision := u.forMessage content fun s => Store.put s content revision
  delete u type key := u.forType type (.error (.unknownType type)) fun s => Store.delete s type key

end Federation

end MeshControl.Config
