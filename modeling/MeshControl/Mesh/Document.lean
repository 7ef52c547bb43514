import MeshControl.Failure
import MeshControl.Mesh
import MeshControl.Yaml.Source

/-!
Settings of the mesh written as YAML. They stand in the document itself, or in a text under the
key `mesh`.
-/
namespace MeshControl.Mesh

inductive DocumentError where
  | unreadable (e : DecodeError)
  | invalid (problems : Problems)
deriving DecidableEq, Inhabited

namespace DocumentError

def text : DocumentError → String
  | unreadable _ => s!"failed to parse mesh config: {Failure.unreadableDocument}"
  | invalid problems => s!"invalid mesh config: {problems.text}"

def failure (e : DocumentError) : Failure :=
  match e with
  | unreadable .durationRange => .durationRange
  | unreadable .malformed => .told [e.text, Failure.unreadableDocument]
  | invalid problems => .told [e.text, problems.text]

end DocumentError

/-- Reads settings that are a document of their own. -/
def ofDocument (s : String) : Decoded Mesh :=
  match Yaml.document? s with
  | some n => decode n
  | none => .error .malformed

/-- Reads settings that are data, or a document inside of the data. -/
def ofValue (v : Yaml.Value) : Decoded Mesh :=
  match (v.get? "mesh").bind Yaml.Value.asText? with
  | some inner => ofDocument inner
  | none => if v.isNull then .ok default else decode v

def unchecked (s : String) : Decoded Mesh :=
  match (Yaml.document? s).bind Yaml.Value.ofNode? with
  | some v => ofValue v
  | none => .error .malformed

def ofYaml (s : String) : Except DocumentError Mesh :=
  match unchecked s with
  | .error e => .error (.unreadable e)
  | .ok m => if m.validate.isEmpty then .ok m else .error (.invalid m.validate)

/-- Reads the file with the settings. If there is no file they are the defaults. -/
def load (path : String) (file : FileContent) : Except Failure Mesh :=
  if file = .missing then .ok default
  else do
    let s ← Failure.context s!"failed to read mesh config {path}" file.read
    Failure.context s!"invalid mesh config {path}" ((ofYaml s).mapError DocumentError.failure)

end MeshControl.Mesh
