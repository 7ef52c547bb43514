import MeshControl.Config.Message

/-!
Schemas: what a store knows about each type of configuration it keeps. A catalog of schemas is
sound when type and message names are well formed and none occurs twice.
-/
namespace MeshControl.Config

structure Schema where
  type : String
  plural : String
  messageName : String
  /-- Records of an internal type come from elsewhere; they are read but not written. -/
  internal : Bool
  keyOf : Message → Except String String
  verdictOn : Message → Verdict

abbrev Catalog := List Schema

namespace Schema

def of (α : Type) [Spec α] (type plural : String) : Schema where
  type := type
  plural := plural
  messageName := Spec.messageName α
  internal := false
  keyOf m := (m.decode α).map Spec.key
  verdictOn m :=
    match m.decode α with
    | .ok a => Spec.validate a
    | .error text => .ok [text]

def json (s : Schema) : Json :=
  .obj [("ty", .str s.type), ("plural", .str s.plural), ("messageName", .str s.messageName),
    ("internal", .bool s.internal)]

def mismatchedText (s : Schema) (m : Message) : String :=
  s!"mismatched message type {Text.quote m.name} for {s.type}"

/-- The problems of a message as content of this type. -/
def validate (s : Schema) (m : Message) : Verdict :=
  if m.name ≠ s.messageName then .ok [s.mismatchedText m] else s.verdictOn m

def key (s : Schema) (m : Message) : Except Problems String :=
  match s.keyOf m with
  | .ok k => .ok k
  | .error text => .error [text]

end Schema

namespace Catalog

def types (c : Catalog) : List String := c.map (·.type)

def get? (c : Catalog) (type : String) : Option Schema := c.find? (·.type == type)

def byMessage? (c : Catalog) (name : String) : Option Schema := c.find? (·.messageName == name)

def schemaProblems (earlier : Catalog) (s : Schema) : Problems :=
  problemIf (!Validation.isLabel s.type) s!"invalid type name: {Text.quote s.type}" ++
  problemIf (!Validation.isLabel s.plural) s!"invalid plural name: {Text.quote s.plural}" ++
  problemIf (!Validation.isMessageName s.messageName)
    s!"invalid message name: {Text.quote s.messageName}" ++
  problemIf (earlier.any (·.type == s.type)) s!"duplicate type: {Text.quote s.type}" ++
  problemIf (earlier.any (·.messageName == s.messageName))
    s!"duplicate message name: {Text.quote s.messageName}"

def validateFrom (earlier : Catalog) : Catalog → Problems
  | [] => []
  | s :: rest => schemaProblems earlier s ++ validateFrom (earlier ++ [s]) rest

def validate (c : Catalog) : Problems := validateFrom [] c

end Catalog

end MeshControl.Config
