import MeshControl.Table
import MeshControl.Text.Split

/-!
Counters of the discovery service and the text in which they are read out: for each metric two
lines of description, then its samples.
-/
namespace MeshControl.Discovery

structure Metrics where
  hits : Table Nat
  misses : Table Nat
  errors : Table Nat
  clears : Nat
  entries : Nat
deriving DecidableEq, Inhabited

namespace Metrics

def zero : Metrics := ⟨Table.empty, Table.empty, Table.empty, 0, 0⟩

def count (t : Table Nat) (label : String) : Nat := (t.find? label).getD 0

def increment (t : Table Nat) (label : String) : Table Nat :=
  t.insert label (count t label + 1)

def hit (m : Metrics) (label : String) : Metrics := { m with hits := increment m.hits label }

def miss (m : Metrics) (label : String) : Metrics :=
  { m with misses := increment m.misses label }

def error (m : Metrics) (label : String) : Metrics :=
  { m with errors := increment m.errors label }

def cleared (m : Metrics) : Metrics := { m with clears := m.clears + 1, entries := 0 }

def setEntries (m : Metrics) (n : Nat) : Metrics := { m with entries := n }

/-! ### Text -/

/-- What the names of all metrics begin with. -/
def family : String := "discovery_"

def description (name help kind : String) : List String :=
  [s!"# HELP {family}{name} {help}.", s!"# TYPE {family}{name} {kind}"]

def labelled (name : String) (t : Table Nat) : List String :=
  t.toList.map fun (label, n) =>
    s!"{family}{name}_total\x7bendpoint=\"{label}\"\x7d {n}"

def lines (m : Metrics) : List String :=
  description "cache_hits" "Total number of discovery responses served from the cache"
    "counter" ++ labelled "cache_hits" m.hits ++
  description "cache_misses" "Total number of discovery responses computed" "counter" ++
    labelled "cache_misses" m.misses ++
  description "translation_errors"
    "Total number of discovery requests that failed to translate" "counter" ++
    labelled "translation_errors" m.errors ++
  description "cache_clears" "Total number of times the discovery cache was invalidated"
    "counter" ++ [s!"{family}cache_clears_total {m.clears}"] ++
  description "cache_entries" "Number of discovery responses in the cache" "gauge" ++
    [s!"{family}cache_entries {m.entries}"]

def text (m : Metrics) : String :=
  String.join ((m.lines ++ ["# EOF"]).map (· ++ "\n"))

end Metrics

end MeshControl.Discovery
