import MeshControl.Config.Store
import MeshControl.Failure
import MeshControl.Yaml.Source

/-!
Documents that are stored when a process starts. Every document names a type and gives the body
of one message; empty documents are passed over. The first document that cannot be stored ends
the task, and what was stored before it stays.
-/
namespace MeshControl.Config

structure Seed where
  type : String
  body : Json

/-- Why the document with the given number was not stored. -/
inductive SeedError where
  | notYaml (document : Nat)
  | malformed (document : Nat)
  | unknownType (document : Nat) (type : String)
  | refused (document : Nat) (cause : StoreError)
deriving Inhabited

namespace SeedError

def text : SeedError → String
  | notYaml i => s!"document {i} is not valid YAML"
  | malformed i => s!"invalid document {i}"
  | unknownType i type => s!"document {i} has unknown type {Text.quote type}"
  | refused i _ => s!"failed to store document {i}"

def failure (e : SeedError) : Failure :=
  match e with
  | notYaml _ | malformed _ => .told [e.text, Failure.unreadableDocument]
  | unknownType _ _ => .told [e.text]
  | refused _ cause => cause.failure.within e.text

end SeedError

namespace Seed

def decode (v : Yaml.Value) : Decoded Seed := do
  let r ← Decode.record ["type", "spec"] v
  let type ← r.required "type" Decode.text
  let body ← r.required "spec" fun v => Decode.ofOption v.json?
  return ⟨type, body⟩

variable {σ : Type} [Store σ]

/-- Stores the documents from number `i` on, `count` having been stored before. -/
def storeFrom (s : σ) (i count : Nat) : List (Option Yaml.Node) → Except SeedError Nat × σ
  | [] => (.ok count, s)
  | n :: rest =>
    match n.bind Yaml.Value.ofNode? with
    | none => (.error (.notYaml i), s)
    | some v =>
      if v.isNull then storeFrom s (i + 1) count rest
      else match decode v with
        | .error _ => (.error (.malformed i), s)
        | .ok seed =>
          match (Store.catalog s).get? seed.type with
          | none => (.error (.unknownType i seed.type), s)
          | some schema =>
            match Store.post s ⟨schema.messageName, seed.body⟩ with
            | (.error e, s) => (.error (.refused i e), s)
            | (.ok _, s) => storeFrom s (i + 1) (count + 1) rest

/-- Stores the documents of a text. Gives how many there were. -/
def store (s : σ) (text : String) : Except SeedError Nat × σ :=
  storeFrom s 0 0 (Yaml.documents text)

end Seed

end MeshControl.Config
