import MeshControl.Discovery.Service
import MeshControl.Proofs.Table

/-!
What the discovery service counts: hits and misses of each path beside the answers that it keeps,
and hits and misses of each endpoint among its metrics. A count of an endpoint can be compared with
the sum over its paths, and both change by one with each answer.
-/
namespace MeshControl.Discovery

def labelOf? (path : String) : Option String := (Endpoint.ofPath? path).map Endpoint.label

theorem labelOf?_of_ofPath? {path : String} {endpoint : Endpoint}
    (h : Endpoint.ofPath? path = some endpoint) : labelOf? path = some endpoint.label := by
  rw [labelOf?, h]
  rfl

namespace Cache

/-- A count of the paths of an endpoint, summed up. -/
def total (c : Cache) (part : Stat → Nat) (label : String) : Nat :=
  c.stats.total fun path s => if labelOf? path = some label then part s else 0

/-- What the cache has after a count of a path is changed. -/
def setStat (c : Cache) (path : String) (s : Stat) : Cache :=
  { c with stats := c.stats.insert path s }

theorem stat_setStat (c : Cache) (path : String) (s : Stat) (path' : String) :
    (c.setStat path s).stat path' = if path' = path then s else c.stat path' := by
  unfold stat setStat
  rw [Table.find?_insert]
  split <;> rfl

/-- The counts of an endpoint change by the count of one of its paths. -/
theorem total_setStat (c : Cache) {path label : String} (hlabel : labelOf? path = some label)
    (s : Stat) (part : Stat → Nat) (hzero : part ⟨0, 0⟩ = 0) (label' : String) :
    (c.setStat path s).total part label' + (if label' = label then part (c.stat path) else 0) =
      c.total part label' + if label' = label then part s else 0 := by
  have hinsert := c.stats.total_insert
    (fun path s => if labelOf? path = some label' then part s else 0) path s
  by_cases hsame : label' = label
  · subst hsame
    have hold : ((c.stats.find? path).map part).getD 0 = part (c.stat path) := by
      rw [stat]
      cases c.stats.find? path with
      | none => exact hzero.symm
      | some s => rfl
    simp only [hlabel, if_true, hold] at hinsert
    rw [if_pos rfl, if_pos rfl]
    exact hinsert
  · have hother : ¬ some label = some label' := fun heq => hsame (Option.some.inj heq).symm
    have hold : ((c.stats.find? path).map fun _ => 0).getD 0 = 0 := by
      cases c.stats.find? path <;> rfl
    simp only [hlabel, if_neg hother, hold] at hinsert
    rw [if_neg hsame, if_neg hsame]
    exact hinsert

/-- What is added to a count of a path is added to that of its endpoint. -/
theorem total_setStat_add (c : Cache) {path label : String} (hlabel : labelOf? path = some label)
    (s : Stat) (part : Stat → Nat) (hzero : part ⟨0, 0⟩ = 0) (n : Nat)
    (hadd : part s = part (c.stat path) + n) (label' : String) :
    (c.setStat path s).total part label' =
      c.total part label' + if label' = label then n else 0 := by
  have hset := c.total_setStat hlabel s part hzero label'
  by_cases hsame : label' = label
  · rw [if_pos hsame, if_pos hsame, hadd] at hset
    rw [if_pos hsame]
    omega
  · rw [if_neg hsame, if_neg hsame] at hset
    rw [if_neg hsame]
    exact hset

/-- How often a path was counted, for a hit or for a miss. -/
def answers (c : Cache) (path : String) : Nat := (c.stat path).hit + (c.stat path).miss

theorem answers_setStat (c : Cache) {path : String} {s : Stat}
    (hadd : s.hit + s.miss = c.answers path + 1) (path' : String) :
    (c.setStat path s).answers path' = c.answers path' + if path == path' then 1 else 0 := by
  unfold answers at hadd ⊢
  rw [stat_setStat]
  by_cases hsame : path' = path
  · subst hsame
    rw [if_pos rfl, if_pos (beq_self_eq_true path')]
    exact hadd
  · rw [if_neg hsame, if_neg (by simpa using Ne.symm hsame)]
    rfl

theorem answers_countHit (c : Cache) (path path' : String) :
    (c.countHit path).answers path' = c.answers path' + if path == path' then 1 else 0 :=
  c.answers_setStat (Nat.add_right_comm _ _ _) path'

theorem answers_countMiss (c : Cache) (path path' : String) :
    (c.countMiss path).answers path' = c.answers path' + if path == path' then 1 else 0 :=
  c.answers_setStat (Nat.add_assoc _ _ _).symm path'

section Labelled

variable (c : Cache) {path label : String} (hlabel : labelOf? path = some label) (label' : String)

include hlabel

theorem hits_countHit : (c.countHit path).total Stat.hit label' =
    c.total Stat.hit label' + if label' = label then 1 else 0 :=
  c.total_setStat_add hlabel _ Stat.hit rfl 1 rfl label'

theorem misses_countMiss : (c.countMiss path).total Stat.miss label' =
    c.total Stat.miss label' + if label' = label then 1 else 0 :=
  c.total_setStat_add hlabel _ Stat.miss rfl 1 rfl label'

theorem misses_countHit : (c.countHit path).total Stat.miss label' = c.total Stat.miss label' := by
  have hset := c.total_setStat_add hlabel { c.stat path with hit := (c.stat path).hit + 1 }
    Stat.miss rfl 0 rfl label'
  rw [ite_self, Nat.add_zero] at hset
  exact hset

theorem hits_countMiss : (c.countMiss path).total Stat.hit label' = c.total Stat.hit label' := by
  have hset := c.total_setStat_add hlabel { c.stat path with miss := (c.stat path).miss + 1 }
    Stat.hit rfl 0 rfl label'
  rw [ite_self, Nat.add_zero] at hset
  exact hset

end Labelled

end Cache

theorem Metrics.count_increment (t : Table Nat) (label label' : String) :
    count (increment t label) label' = count t label' + if label' = label then 1 else 0 := by
  rw [count, increment, Table.find?_insert]
  split
  · next hsame =>
    subst hsame
    rfl
  · rfl

namespace Service

/-- A computed answer counts for its endpoint as soon as it is there. -/
def countAnswer (s : Service) (label : String) : Service :=
  { s with metrics := s.metrics.miss label }

/-- Then it is counted for its path, and kept if it may be. -/
def settle (s : Service) (path body : String) (generation : UInt64) : Service :=
  if s.caching then s.keep path body generation else s

theorem record_ok (s : Service) (path label : String) (generation : UInt64) (j : Json) :
    s.record path label generation (.ok j) =
      (jsonText j.pretty, (s.countAnswer label).settle path j.pretty generation) := rfl

/-- A path that has to wait changes nothing. -/
theorem eq_of_lookup_pending {s s' : Service} {path label : String} {generation : UInt64}
    (h : s.lookup path label = (.pending generation, s')) : s' = s := by
  rw [lookup] at h
  split at h
  · cases h
  · exact (Prod.mk.inj h).2.symm

/-- Whether it is kept or not, an answer is counted for its path as one that was computed. -/
theorem keep_eq (s : Service) (path body : String) (generation : UInt64) :
    ∃ responses entries,
      s.keep path body generation =
        { s with
          cache := { s.cache.countMiss path with responses }
          metrics := s.metrics.setEntries entries } ∧
      (responses = s.cache.responses ∧ entries = s.metrics.entries ∨ entries = responses.size) := by
  rw [keep]
  dsimp only
  split
  · exact ⟨_, _, rfl, .inr rfl⟩
  · exact ⟨_, _, rfl, .inl ⟨rfl, rfl⟩⟩

/-- A service that has kept and counted the same as another. Failures are counted apart. -/
structure SameAccounts (s s' : Service) : Prop where
  caching : s'.caching = s.caching
  cache : s'.cache = s.cache
  hits : s'.metrics.hits = s.metrics.hits
  misses : s'.metrics.misses = s.metrics.misses
  entries : s'.metrics.entries = s.metrics.entries

theorem SameAccounts.refl (s : Service) : s.SameAccounts s := ⟨rfl, rfl, rfl, rfl, rfl⟩

theorem sameAccounts_of_error (s : Service) (path label : String) (generation : UInt64)
    (e : RequestError) : s.SameAccounts (s.record path label generation (.error e)).2 := by
  rw [record]
  dsimp only
  split
  · exact ⟨rfl, rfl, rfl, rfl, rfl⟩
  · exact .refl s

end Service

end MeshControl.Discovery
