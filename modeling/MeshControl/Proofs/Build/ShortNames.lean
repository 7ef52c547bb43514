import MeshControl.Proofs.Build.HostNames
import MeshControl.Proofs.Build.SharedSuffix

/-!
Short names. A proxy finds a service under the beginnings of its hostname from which only labels
are missing that the services beside the proxy all share, so that its resolver can complete them:
from the shortest on, the hostname last, and then under the address of the service.
-/
namespace MeshControl.Build

/-- What a short name leaves out of the hostname are labels that the domain ends in. -/
theorem drop_suffix_of_shared {suffix all : List String} {k : Nat}
    (h : all.length ≤ k + sharedAtEnd suffix all) : all.drop k <:+ suffix := by
  obtain ⟨extra, rfl⟩ : ∃ extra, k = all.length - sharedAtEnd suffix all + extra :=
    Nat.exists_eq_add_of_le (by omega)
  rw [← List.drop_drop, ← drop_sharedAtEnd]
  exact (List.drop_suffix _ _).trans (List.drop_suffix _ _)

/-- The domains of a service, where `s` is the number of labels at the end of its hostname in which
all hostnames beside the proxy end too. -/
theorem short_names_resolve (hostnames : List String) (service : Service) (port : Port)
    (routes : List Proxy.HttpRoute) (h : Validation.fqdn service.hostname = []) :
    let all := labels service.hostname
    let suffix := sharedSuffix hostnames
    let s := sharedAtEnd suffix all
    let shortest := max 1 (all.length - s)
    let names := (List.range' shortest (all.length + 1 - shortest)).map
      fun k => Text.join "." (all.take k)
    (∀ t, t <:+ suffix ↔
      t = [] ∨ hostnames ≠ [] ∧ ∀ name ∈ hostnames, t <:+ labels name) ∧
    IsGreatest {n | ∃ t : List String, t.length = n ∧ t <:+ suffix ∧ t <:+ all} s ∧
    (virtualHost service port suffix routes).domains =
      (names ++ service.address.toList).flatMap (fun name =>
        s!"{name}:{port.number}" :: if port.number = 80 then [name] else []) ∧
    (∀ name ∈ names, ∃ rest, rest <:+ suffix ∧
      Text.join "." (name :: rest) = service.hostname) ∧
    service.hostname ∈ names := by
  intro all suffix s shortest names
  have hnames : hostNames service.hostname suffix = names := hostNames_eq h suffix
  refine ⟨fun _ => suffix_sharedSuffix_iff, isGreatest_sharedAtEnd suffix all, ?_, ?_, ?_⟩
  · have hported : ∀ name : String, withPort port.number name =
        s!"{name}:{port.number}" :: if port.number = 80 then [name] else [] := by
      intro name
      unfold withPort
      split <;> rfl
    rw [virtualHost, domains, hnames]
    exact List.flatMap_congr fun name _ => hported name
  · intro name hname
    obtain ⟨k, hpos, hleast, hle, rfl⟩ := (mem_hostNames h).mp (hnames ▸ hname)
    refine ⟨all.drop k, drop_suffix_of_shared hleast, ?_⟩
    have hfront : all.take k ≠ [] := by
      intro hnil
      have hlength := congrArg List.length hnil
      rw [List.length_take_of_le hle, List.length_nil] at hlength
      omega
    rw [← Text.join_append "." hfront, List.take_append_drop]
    exact join_labels service.hostname
  · rw [← hnames]
    exact hostname_mem_hostNames h suffix

/-- A service whose neighbours share three of its four labels. -/
def shopReviews : Service :=
  ⟨"reviews.shop.mesh.local", some "10.0.0.1", [⟨"http", 80, .http⟩], none⟩

theorem short_names_of_reviews :
    let neighbours := ["ratings.shop.mesh.local", "cart.v2.shop.mesh.local"]
    Validation.fqdn shopReviews.hostname = [] ∧
    sharedSuffix neighbours = ["shop", "mesh", "local"] ∧
    (virtualHost shopReviews ⟨"http", 80, .http⟩ (sharedSuffix neighbours) []).domains =
      ["reviews:80", "reviews", "reviews.shop:80", "reviews.shop", "reviews.shop.mesh:80",
        "reviews.shop.mesh", "reviews.shop.mesh.local:80", "reviews.shop.mesh.local",
        "10.0.0.1:80", "10.0.0.1"] := by
  intro neighbours
  have hname : Validation.fqdn shopReviews.hostname = [] := by decide +kernel
  obtain ⟨-, -, hdomains, -⟩ :=
    short_names_resolve neighbours shopReviews ⟨"http", 80, .http⟩ [] hname
  refine ⟨hname, by decide +kernel, hdomains.trans ?_⟩
  decide +kernel

end MeshControl.Build
