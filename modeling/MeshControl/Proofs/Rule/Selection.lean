import MeshControl.Proofs.Config.Accepted
import MeshControl.Proofs.Table

/-!
Typed selection from a store in memory. Whatever the store holds was accepted, so nothing is
passed over: there is one object for each record, in the order of the keys. A policy that is looked
up by its key is therefore the one that a search through all policies finds, and since a policy
that has no problems names no tags twice, it has one version for them at most.
-/
namespace MeshControl

namespace DestinationPolicy

/-- Versions without problems have tags of their own. -/
theorem nodup_tags_of_validateVersions {seen : List Tags} {versions : List VersionPolicy}
    (h : validateVersions seen versions = []) :
    (∀ v ∈ versions, v.tags ∉ seen) ∧ (versions.map (·.tags)).Nodup := by
  induction versions generalizing seen with
  | nil => exact ⟨nofun, .nil⟩
  | cons v versions ih =>
    simp only [validateVersions, List.append_eq_nil_iff, problemIf_eq_nil] at h
    obtain ⟨⟨⟨-, hnew⟩, -⟩, hrest⟩ := h
    obtain ⟨hunseen, hnodup⟩ := ih hrest
    constructor
    · intro w hw
      rcases List.mem_cons.mp hw with rfl | hw
      · simpa using hnew
      · exact fun hseen => hunseen w hw (List.mem_cons_of_mem _ hseen)
    · rw [List.map_cons, List.nodup_cons]
      refine ⟨fun hmem => ?_, hnodup⟩
      obtain ⟨w, hw, htags⟩ := List.mem_map.mp hmem
      exact hunseen w hw (htags ▸ List.mem_cons_self)

theorem nodup_tags_of_validate {p : DestinationPolicy} (h : p.validate = []) :
    (p.versions.map (·.tags)).Nodup :=
  (nodup_tags_of_validateVersions (List.append_eq_nil_iff.mp h).2).2

end DestinationPolicy

namespace Rule

open Config

variable {α : Type} [Spec α]

/-- What is picked for a record: its content is read as an object that has no problems, and whose
key is the record's. -/
structure Conveys (r : Record) (a : α) : Prop where
  read : r.content.decode? α = some a
  valid : Spec.validate a = .ok []
  key : Spec.key a = r.key

/-- Where every element gives something, all of it is there, in its order. -/
theorem forall₂_filterMap {β γ ε : Type} {R : γ → ε → Prop} {f : β → Option ε} {g : β → γ}
    {l : List β} (h : ∀ b ∈ l, ∃ e, f b = some e ∧ R (g b) e) :
    List.Forall₂ R (l.map g) (l.filterMap f) := by
  induction l with
  | nil => exact .nil
  | cons b l ih =>
    obtain ⟨e, he, hR⟩ := h b List.mem_cons_self
    rw [List.map_cons, List.filterMap_cons, he]
    exact .cons hR (ih fun c hc => h c (List.mem_cons_of_mem _ hc))

section Stored

variable {type plural : String} (htype : Schema.of α type plural ∈ catalog) {m : Memory}
  (hcatalog : m.catalog = catalog) (h : m.AllAccepted)

include htype hcatalog h

theorem conveys_listOf : List.Forall₂ Conveys (m.list type) (listOf α type m).1 := by
  rw [listOf_memory]
  apply forall₂_filterMap
  rintro ⟨key, e⟩ hmem
  have he : m.held? type key = some e := ((m.ofType type).mem_toList_iff key e).mp hmem
  obtain ⟨a, hread, hvalid⟩ := Schema.of_validate (accepted_of_held? htype hcatalog h he).1
  exact ⟨a, hread, hread, hvalid, key_of_held? htype hcatalog h he hread⟩

theorem nodup_key_listOf : ((listOf α type m).1.map Spec.key).Nodup :=
  List.pairwise_map.mpr
    ((pairwise_key_listOf htype hcatalog h).imp fun hlt => String.ne_of_lt hlt)

/-- The object of a key is the same, read from the record there or found among all. -/
theorem find?_listOf (key : String) :
    (listOf α type m).1.find? (Spec.key · == key) =
      (m.held? type key).bind fun e => e.content.decode? α := by
  apply Option.ext
  intro a
  rw [find?_eq_some_iff_of_nodup (nodup_key_listOf htype hcatalog h), Option.bind_eq_some_iff]
  constructor
  · rintro ⟨hmem, rfl⟩
    obtain ⟨key, e, he, hread⟩ := mem_listOf hmem
    rw [key_of_held? htype hcatalog h he hread]
    exact ⟨e, he, hread⟩
  · rintro ⟨e, he, hread⟩
    refine ⟨?_, key_of_held? htype hcatalog h he hread⟩
    rw [listOf_memory]
    exact List.mem_filterMap.mpr ⟨(key, e), ((m.ofType type).mem_toList_iff key e).mpr he, hread⟩

end Stored

theorem destinationPolicy_mem_catalog :
    Schema.of DestinationPolicy destinationPolicyType "destination-policies" ∈ catalog :=
  List.mem_cons_of_mem _ (List.mem_cons_of_mem _ List.mem_cons_self)

/-- A version is looked up among the policies that are listed. -/
theorem versionPolicy?_eq {m : Memory} (hcatalog : m.catalog = catalog) (h : m.AllAccepted)
    (destination : String) (tags : Tags) :
    versionPolicy? m destination tags =
      ((destinationPolicies m).1.find? (·.destination == destination)).bind (·.version? tags) := by
  have hfind : (destinationPolicies m).1.find? (·.destination == destination) = _ :=
    find?_listOf destinationPolicy_mem_catalog hcatalog h destination
  rw [hfind]
  change ((m.held? destinationPolicyType destination).map fun e => (e.content, e.revision)).bind
    _ = _
  cases m.held? destinationPolicyType destination <;> rfl

/-- What is picked from a store in memory is one object for each record of the type, by key. The
policy for a destination and for tags is the only version with these tags of the only policy that
is listed for the destination, and there is none only if no policy has such a version. -/
theorem selection_agrees_with_store (calls : List Call) :
    let m := afterCalls (Memory.new catalog) calls
    let policies := (destinationPolicies m).1
    List.Forall₂ Conveys (m.list routeRuleType) (routeRules m).1 ∧
    List.Forall₂ Conveys (m.list ingressRuleType) (ingressRules m).1 ∧
    List.Forall₂ Conveys (m.list destinationPolicyType) policies ∧
    (∀ type, (m.list type).Pairwise fun r s => r.key < s.key) ∧
    ∀ destination tags,
      (∀ version, versionPolicy? m destination tags = some version ↔
        ∃ policy, policies.filter (·.destination == destination) = [policy] ∧
          policy.versions.filter (·.tags == tags) = [version]) ∧
      (versionPolicy? m destination tags = none ↔
        ∀ policy ∈ policies, policy.destination = destination →
          ∀ version ∈ policy.versions, version.tags ≠ tags) := by
  intro m policies
  have hcatalog : m.catalog = catalog := Memory.catalog_afterCalls _ calls
  have haccepted : m.AllAccepted := Memory.allAccepted_afterCalls catalog calls
  refine ⟨conveys_listOf List.mem_cons_self hcatalog haccepted,
    conveys_listOf (List.mem_cons_of_mem _ List.mem_cons_self) hcatalog haccepted,
    conveys_listOf destinationPolicy_mem_catalog hcatalog haccepted, fun type => ?_,
    fun destination tags => ?_⟩
  · exact List.pairwise_map.mpr (m.ofType type).sorted
  have hdestinations : (policies.map (·.destination)).Nodup :=
    nodup_key_listOf destinationPolicy_mem_catalog hcatalog haccepted
  have htags : ∀ policy ∈ policies, (policy.versions.map (·.tags)).Nodup := fun policy hpolicy =>
    DestinationPolicy.nodup_tags_of_validate (Except.ok.inj
      (validate_of_mem_listOf destinationPolicy_mem_catalog hcatalog haccepted hpolicy))
  rw [versionPolicy?_eq hcatalog haccepted]
  constructor
  · intro version
    rw [Option.bind_eq_some_iff]
    refine exists_congr fun policy => ?_
    rw [find?_eq_some_iff_filter_of_nodup hdestinations]
    refine and_congr_right fun hfound => ?_
    have hpolicy : policy ∈ policies := List.mem_of_mem_filter (hfound ▸ List.mem_cons_self)
    exact find?_eq_some_iff_filter_of_nodup (htags policy hpolicy)
  · rw [Option.bind_eq_none_iff]
    refine forall_congr' fun policy => ?_
    rw [find?_eq_some_iff_of_nodup hdestinations, and_imp]
    simp [DestinationPolicy.version?]

end Rule

end MeshControl
