import MeshControl.Tags

/-!
Conditions on requests: where they come from and what their headers hold. Two header names are
special: one stands for the path, the other for the host a request is meant for.
-/
namespace MeshControl

def Header.path : String := "uri"

def Header.authority : String := "authority"

inductive TextMatch where
  | exactly (s : String)
  | startingWith (s : String)
  | matching (pattern : String)
deriving DecidableEq, Repr, Inhabited

namespace TextMatch

def kind : TextMatch → String
  | exactly _ => "exact"
  | startingWith _ => "prefix"
  | matching _ => "regex"

def text : TextMatch → String
  | exactly s | startingWith s | matching s => s

def json (m : TextMatch) : Json := .obj [(m.kind, .str m.text)]

def ofKind? (kind s : String) : Option TextMatch :=
  if kind = "exact" then some (exactly s)
  else if kind = "prefix" then some (startingWith s)
  else if kind = "regex" then some (matching s)
  else none

def decode {δ : Type} [Source δ] (d : δ) : Decoded TextMatch :=
  match Source.choice? d with
  | some (kind, some payload) => do
    let s ← Decode.text payload
    Decode.ofOption (ofKind? kind s)
  | _ => Decode.malformed

theorem ofKind?_kind (m : TextMatch) : ofKind? m.kind m.text = some m := by
  cases m <;> rfl

end TextMatch

/-- What headers must hold, by their names. -/
abbrev HeaderMatches := Table TextMatch

namespace HeaderMatches

def json (h : HeaderMatches) : Json := .obj (h.toList.map fun (k, m) => (k, m.json))

def pathProblem : TextMatch → Problems
  | .exactly p | .startingWith p =>
    problemIf (!Text.startsWith '/' p) s!"uri match {Text.quote p} must start with '/'"
  | .matching _ => []

def validate (h : HeaderMatches) : Problems :=
  h.toList.flatMap fun (name, m) =>
    problemIf name.isEmpty "header name must not be empty" ++
      if name = Header.path then pathProblem m else []

def decode {δ : Type} [Source δ] (d : δ) : Decoded HeaderMatches :=
  Decode.table TextMatch.decode d

end HeaderMatches

structure MatchCondition where
  /-- The hostname of the calling service. -/
  source : Option String
  /-- Tags that the calling instance must carry. -/
  sourceTags : Tags
  headers : HeaderMatches
deriving DecidableEq, Inhabited

namespace MatchCondition

def validate (m : MatchCondition) : Problems :=
  (match m.source with
    | some source => Validation.fqdn source
    | none => []) ++
  m.sourceTags.validate ++ m.headers.validate

def json (m : MatchCondition) : Json :=
  Json.object [
    Json.optional "source" (m.source.map .str),
    Json.onlyIf (!m.sourceTags.isEmpty) "sourceTags" m.sourceTags.json,
    Json.onlyIf (!m.headers.isEmpty) "httpHeaders" m.headers.json]

def decode {δ : Type} [Source δ] (d : δ) : Decoded MatchCondition := do
  let r ← Decode.record ["source", "sourceTags", "httpHeaders"] d
  let source ← r.optional "source" Decode.text
  let sourceTags ← r.withDefault "sourceTags" Tags.empty Tags.decode
  let headers ← r.withDefault "httpHeaders" Table.empty HeaderMatches.decode
  return ⟨source, sourceTags, headers⟩

end MatchCondition

end MeshControl
