/-!
What a YAML text is made of. Indentation has become explicit: blocks have a token where they
start and one where they end.
-/
namespace MeshControl.Yaml

/-- How a scalar is written. -/
inductive Style where
  | plain
  | quoted
  | literal
  | folded
deriving DecidableEq, Repr, Inhabited

inductive Token where
  | version (major minor : Nat)
  | tagHandle (handle expansion : String)
  | documentStart
  | documentEnd
  | blockSequence
  | blockMapping
  | blockEnd
  | flowSequence
  | flowSequenceEnd
  | flowMapping
  | flowMappingEnd
  | blockEntry
  | flowEntry
  | key
  | value
  | alias (name : String)
  | anchor (name : String)
  | tag (handle suffix : String)
  | scalar (style : Style) (text : String)
  /-- The text cannot be read on from here. -/
  | fault
deriving DecidableEq, Repr, Inhabited

namespace Token

def isDirective : Token → Bool
  | version _ _ | tagHandle _ _ => true
  | _ => false

end Token

end MeshControl.Yaml
