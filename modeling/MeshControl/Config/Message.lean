import MeshControl.Json.Source
import MeshControl.Validation

/-!
Configuration content and the records that stores keep of it.
-/
namespace MeshControl.Config

/-- The name of a kind of message with the body of one. -/
structure Message where
  name : String
  value : Json
deriving Inhabited

instance : BEq Message := ⟨fun a b => a.name == b.name && a.value == b.value⟩

/-- A token that a store assigns on every write. Only equality has a meaning. -/
abbrev Revision := String

structure Record where
  type : String
  key : String
  revision : Revision
  content : Message
deriving Inhabited

instance : BEq Record := ⟨fun a b =>
  a.type == b.type && a.key == b.key && a.revision == b.revision && a.content == b.content⟩

/-- A record with all that is known of it. -/
def Record.json (r : Record) : Json :=
  .obj [("type", .str r.type), ("key", .str r.key), ("revision", .str r.revision),
    ("name", .str r.content.name), ("value", r.content.value)]

inductive Event where
  | added
  | updated
  | deleted
deriving DecidableEq, Repr, Inhabited

def Event.text : Event → String
  | .added => "add"
  | .updated => "update"
  | .deleted => "delete"

/-- Content that can be stored: named, keyed and checked. -/
class Spec (α : Type) where
  messageName : String
  decode : Json → Decoded α
  encode : α → Json
  key : α → String
  validate : α → Verdict

/-- What stands in a message for the reason why a body was not read. -/
def unreadableText : String := "<json>"

def mismatchText (expected actual : String) : String :=
  s!"expected a {expected} message, got {actual}"

variable {α : Type} [Spec α]

def Message.encode (a : α) : Message := ⟨Spec.messageName α, Spec.encode a⟩

/-- Reads the body of a message of the right name. -/
def Message.decode (α : Type) [Spec α] (m : Message) : Except String α :=
  if m.name = Spec.messageName α then
    match Spec.decode m.value with
    | .ok a => .ok a
    | .error _ => .error unreadableText
  else .error (mismatchText (Spec.messageName α) m.name)

def Message.decode? (α : Type) [Spec α] (m : Message) : Option α := (m.decode α).toOption

end MeshControl.Config
