import MeshControl.Proofs.Discovery.Registration

/-!
What the name of an outbound cluster tells. The name and the discovery key are two writings of the
same part of a service: its hostname, the name of its port and its tags. Both can be read back, so
clusters with one name are found under one key and the other way round.
-/
namespace MeshControl

namespace Proxy.Subset

variable {s t : Subset}

/-- The key of a part tells the service, the name of the port and the tags. -/
theorem key_inj (hs : s.IsChecked) (ht : t.IsChecked) :
    s.key = t.key ↔ s.hostname = t.hostname ∧ s.port.name = t.port.name ∧ s.tags = t.tags := by
  constructor
  · intro h
    have hparse := congrArg ServiceKey.parse h
    rw [parse_key hs, parse_key ht, ServiceKey.mk.injEq] at hparse
    obtain ⟨hhost, hport, htags⟩ := hparse
    refine ⟨hhost, List.singleton_inj.mp hport, ?_⟩
    by_cases hempty : s.tags = Tags.empty <;> by_cases hempty' : t.tags = Tags.empty
    · rw [hempty, hempty']
    · rw [if_pos hempty, if_neg hempty'] at htags
      cases htags
    · rw [if_neg hempty, if_pos hempty'] at htags
      cases htags
    · rw [if_neg hempty, if_neg hempty'] at htags
      exact List.singleton_inj.mp htags
  · rintro ⟨hhost, hport, htags⟩
    rw [key, key, hhost, hport, htags]

end Proxy.Subset

namespace Build

open Proxy

/-- Two clusters of checked parts of services have one name if and only if they are found under one
key, and if and only if service, port name and tags are the same. -/
theorem outbound_names_faithful {s t : Subset} (hs : s.IsChecked) (ht : t.IsChecked)
    (mesh mesh' : Mesh) :
    let c := outboundCluster mesh s.hostname s.port s.tags
    let d := outboundCluster mesh' t.hostname t.port t.tags
    (c.name = d.name ↔ c.serviceName = d.serviceName) ∧
      (c.name = d.name ↔
        s.hostname = t.hostname ∧ s.port.name = t.port.name ∧ s.tags = t.tags) := by
  intro c d
  have hnames : c.name = d.name ↔
      s.hostname = t.hostname ∧ s.port.name = t.port.name ∧ s.tags = t.tags :=
    outboundName_inj hs ht
  have hkeys : c.serviceName = d.serviceName ↔
      s.hostname = t.hostname ∧ s.port.name = t.port.name ∧ s.tags = t.tags := by
    change some s.key = some t.key ↔ _
    rw [Option.some.injEq, Subset.key_inj hs ht]
  exact ⟨hnames.trans hkeys.symm, hnames⟩

/-- A port without a name, and a tag without a value. -/
def canaryTags : Subset := ⟨"reviews.local", ⟨"", 80, .http⟩, Tags.ofList [("canary", "")]⟩

/-- A port with the name of that tag, and no tags. -/
def canaryPort : Subset := ⟨"reviews.local", ⟨"canary", 80, .http⟩, Tags.empty⟩

theorem outbound_names_of_canary :
    let c := outboundCluster .default canaryTags.hostname canaryTags.port canaryTags.tags
    let d := outboundCluster .default canaryPort.hostname canaryPort.port canaryPort.tags
    (canaryTags.IsChecked ∧ canaryPort.IsChecked) ∧
      c.name ≠ d.name ∧ c.serviceName ≠ d.serviceName := by
  intro c d
  have htags : canaryTags.IsChecked := ⟨by decide +kernel, .inl rfl, by decide +kernel⟩
  have hport : canaryPort.IsChecked := ⟨by decide +kernel, .inr (by decide +kernel), rfl⟩
  obtain ⟨hkeys, hparts⟩ := outbound_names_faithful htags hport .default .default
  have hname : c.name ≠ d.name := by
    intro h
    exact absurd (hparts.mp h).2.1 (by decide)
  exact ⟨⟨htags, hport⟩, hname, fun h => hname (hkeys.mpr h)⟩

end Build

end MeshControl
