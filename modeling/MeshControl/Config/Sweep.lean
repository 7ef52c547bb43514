import MeshControl.Config.Message

/-!
The differences between two lists of records sorted by key, found in one merged pass. A record
only in the old list was deleted, one only in the new list was added, and one in both that
differs was updated.
-/
namespace MeshControl.Config

def sweep : List Record → List Record → List (Record × Event)
  | [], new => new.map fun n => (n, .added)
  | old, [] => old.map fun o => (o, .deleted)
  | o :: old, n :: new =>
    if o.key = n.key then
      if o == n then sweep old new else (n, .updated) :: sweep old new
    else if o.key < n.key then (o, .deleted) :: sweep old (n :: new)
    else (n, .added) :: sweep (o :: old) new
termination_by old new => old.length + new.length

end MeshControl.Config
