import MeshControl.Validation

/-!
Why a store or a registry refuses a call.
-/
namespace MeshControl

inductive StoreError where
  | unknownType (type : String)
  | invalid (type : String) (problems : Problems)
  | notFound (type key : String)
  | alreadyExists (type key : String)
  | revisionMismatch (type key expected actual : String)
  | unavailable (reason : String)
  | conflict (type : String)
  | internal (reason : String)
  /-- The check of an object came to no end. Its caller does not go on either. -/
  | overflow
deriving DecidableEq, Repr, Inhabited

/-- The causes without their details. -/
inductive StoreError.Kind where
  | unknownType
  | invalid
  | notFound
  | alreadyExists
  | revisionMismatch
  | unavailable
  | conflict
  | internal
  | overflow
deriving DecidableEq, Repr, Inhabited

namespace StoreError

def kind : StoreError → Kind
  | unknownType _ => .unknownType
  | invalid _ _ => .invalid
  | notFound _ _ => .notFound
  | alreadyExists _ _ => .alreadyExists
  | revisionMismatch _ _ _ _ => .revisionMismatch
  | unavailable _ => .unavailable
  | conflict _ => .conflict
  | internal _ => .internal
  | overflow => .overflow

def Kind.name : Kind → String
  | .unknownType => "UnknownType"
  | .invalid => "ValidationFailed"
  | .notFound => "NotFound"
  | .alreadyExists => "AlreadyExists"
  | .revisionMismatch => "RevisionMismatch"
  | .unavailable => "Unavailable"
  | .conflict => "Conflict"
  | .internal => "Internal"
  | .overflow => "Overflow"

def text : StoreError → String
  | unknownType type => s!"unknown type {Text.quote type}"
  | invalid type problems => s!"invalid {type}: {problems.text}"
  | notFound type key => s!"{type} {Text.quote key} not found"
  | alreadyExists type key => s!"{type} {Text.quote key} already exists"
  | revisionMismatch type key expected actual =>
    s!"{type} {Text.quote key} has revision {Text.quote actual}, not {Text.quote expected}"
  | unavailable reason => s!"back-end unavailable: {reason}"
  | conflict type => s!"type {Text.quote type} is provided by more than one store"
  | internal reason => s!"internal error: {reason}"
  | overflow => "attempt to add with overflow"

end StoreError

end MeshControl
