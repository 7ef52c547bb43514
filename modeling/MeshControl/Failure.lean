import MeshControl.Config.Error

/-!
Failures of whole tasks. A failure is told from the outside in: first what was attempted, then
the reasons below it.
-/
namespace MeshControl

inductive Failure where
  /-- The texts, the outermost first. -/
  | told (texts : List String)
  /-- A duration does not fit, and nothing more is told. -/
  | durationRange
  /-- A sum overflows, and nothing more is told. -/
  | overflow
deriving DecidableEq, Repr, Inhabited

namespace Failure

/-- Says what was being done when something failed. -/
def within (text : String) : Failure → Failure
  | told texts => told (text :: texts)
  | durationRange => durationRange
  | overflow => overflow

def context {α : Type} (text : String) (r : Except Failure α) : Except Failure α :=
  r.mapError (within text)

/-- What stands in a failure for the reason why a document was not read. -/
def unreadableDocument : String := "<yaml>"

end Failure

/-- An error with its reason below it. -/
def StoreError.failure (e : StoreError) : Failure :=
  match e with
  | .invalid _ problems => .told [e.text, problems.text]
  | .overflow => .overflow
  | _ => .told [e.text]

/-- What a process finds where it looks for a file. -/
inductive FileContent where
  | missing
  | directory
  | octets (bytes : List UInt8)
deriving DecidableEq, Repr, Inhabited

namespace FileContent

/-- A file that holds a text. -/
def text (s : String) : FileContent := .octets s.toUTF8.data.toList

/-- The text of a file, or why there is none to read. -/
def read : FileContent → Except Failure String
  | missing => .error (.told ["No such file or directory (os error 2)"])
  | directory => .error (.told ["Is a directory (os error 21)"])
  | octets bytes =>
    match String.fromUTF8? ⟨bytes.toArray⟩ with
    | some s => .ok s
    | none => .error (.told ["stream did not contain valid UTF-8"])

theorem read_text (s : String) : (text s).read = .ok s := by
  have hbytes : (⟨s.toUTF8.data.toList.toArray⟩ : ByteArray) = s.toByteArray := by simp
  have htext : String.fromUTF8? s.toByteArray = some s := dif_pos s.isValidUTF8
  simp only [text, read, hbytes, htext]

end FileContent

end MeshControl
