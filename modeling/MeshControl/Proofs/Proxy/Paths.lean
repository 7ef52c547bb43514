import MeshControl.Proofs.Build.FirstMatch
import MeshControl.Proofs.Sorting

/-!
Which path a proxy prefers. Routes are sorted by their paths, and the first that covers a path
takes the request. What the order puts first is the most specific: the path itself, or else the
longest text that the path starts with. For this the order has to be one: it compares kinds, then
lengths, then texts.
-/
namespace MeshControl.Proxy

namespace PathMatch

/-! ### The order of paths -/

def text : PathMatch → String
  | exactly p => p
  | startingWith p => p

/-- Whether a path is one to start with. -/
def isOpen : PathMatch → Bool
  | exactly _ => false
  | startingWith _ => true

/-- How much of a path is asked for; a path that is asked for as a whole counts as nothing. -/
def openSize : PathMatch → Nat
  | exactly _ => 0
  | startingWith p => p.utf8ByteSize

theorem compare_eq : compare = compareLex (compareLex (compareOn isOpen)
    fun a b => compareOn openSize b a) (compareOn text) := by
  funext a b
  cases a with
  | exactly p =>
    cases b with
    | exactly q => rfl
    | startingWith q => rfl
  | startingWith p =>
    cases b with
    | exactly q => rfl
    | startingWith q => rfl

instance : Std.TransCmp compare := by
  rw [compare_eq]
  have : Std.TransCmp fun a b : PathMatch => compareOn openSize b a := Std.TransCmp.opposite
  infer_instance

/-- Nothing but a path itself stands before it. -/
theorem exists_exactly_of_isLE {a : PathMatch} {p : String}
    (h : (a.compare (exactly p)).isLE = true) : ∃ q, a = exactly q := by
  cases a with
  | exactly q => exact ⟨q, rfl⟩
  | startingWith q => cases h

theorem size_le_of_isLE {p q : String}
    (h : ((startingWith p).compare (startingWith q)).isLE = true) :
    q.utf8ByteSize ≤ p.utf8ByteSize := by
  rw [compare, Ordering.isLE_then_iff_and] at h
  exact Nat.isLE_compare.mp h.1

/-! ### Paths that are covered -/

theorem eq_of_covers_exactly {p path : String} (h : (exactly p).covers path = true) :
    p = path := by
  rw [covers, beq_iff_eq] at h
  exact h.symm

theorem prefix_of_covers {p path : String} (h : (startingWith p).covers path = true) :
    p.toList <+: path.toList := List.isPrefixOf_iff_prefix.mp h

/-- Of two texts that a path starts with, the one with more bytes has the more letters too. -/
theorem length_le_of_covers {p q path : String} (hp : (startingWith p).covers path = true)
    (hq : (startingWith q).covers path = true) (hsize : q.utf8ByteSize ≤ p.utf8ByteSize) :
    q.length ≤ p.length := by
  rcases List.prefix_or_prefix_of_prefix (prefix_of_covers hp) (prefix_of_covers hq) with
    ⟨rest, hrest⟩ | hprefix
  · have happend : p ++ String.ofList rest = q := by
      apply String.toList_inj.mp
      rw [String.toList_append, String.toList_ofList, hrest]
    have hbytes := congrArg String.utf8ByteSize happend
    rw [String.utf8ByteSize_append] at hbytes
    have hempty : String.ofList rest = "" := by
      apply String.utf8ByteSize_eq_zero_iff.mp
      omega
    have hsame : q = p := by rw [← happend, hempty, String.append_empty]
    exact Nat.le_of_eq (congrArg String.length hsame)
  · simpa only [String.length_toList] using hprefix.length_le

end PathMatch

/-! ### The first route -/

/-- Whether a route takes the requests of a path, given the conditions on headers that are met. -/
def HttpRoute.takes (r : HttpRoute) (path : String) (meets : Header → Bool) : Bool :=
  r.path.covers path && r.headers.all meets

theorem HttpRoute.takes_eq_covers {r : HttpRoute} (h : r.headers = []) (path : String)
    (meets : Header → Bool) : r.takes path meets = r.path.covers path := by
  rw [takes, h, List.all_nil, Bool.and_true]

/-- A route of the most specific kind for a path: one for exactly this path if there is one, and
otherwise one for the longest text that the path starts with. -/
structure HttpRoute.IsMostSpecific (routes : List HttpRoute) (path : String) (r : HttpRoute) :
    Prop where
  exact : (∃ q ∈ routes, q.path = .exactly path) → r.path = .exactly path
  longest : (¬ ∃ q ∈ routes, q.path = .exactly path) → ∃ p, r.path = .startingWith p ∧
    ∀ q ∈ routes, ∀ p', q.path = .startingWith p' → q.path.covers path = true →
      p'.length ≤ p.length

/-- What stands before all that cover a path is the most specific of them. -/
theorem HttpRoute.isMostSpecific_of_isLE {routes : List HttpRoute} {path : String} {r : HttpRoute}
    (hmem : r ∈ routes) (hcovers : r.path.covers path = true)
    (hfirst : ∀ q ∈ routes, q.path.covers path = true → (r.path.compare q.path).isLE = true) :
    IsMostSpecific routes path r := by
  constructor
  case exact =>
    rintro ⟨q, hq, hpath⟩
    have hself : q.path.covers path = true := by simp [hpath, PathMatch.covers]
    have hle := hfirst q hq hself
    rw [hpath] at hle
    obtain ⟨p, hp⟩ := PathMatch.exists_exactly_of_isLE hle
    rw [hp] at hcovers
    rw [hp, PathMatch.eq_of_covers_exactly hcovers]
  case longest =>
    intro hnone
    cases hr : r.path with
    | exactly p =>
      rw [hr] at hcovers
      rw [PathMatch.eq_of_covers_exactly hcovers] at hr
      exact absurd ⟨r, hmem, hr⟩ hnone
    | startingWith p =>
      refine ⟨p, rfl, fun q hq p' hp' hq' => ?_⟩
      have hle := hfirst q hq hq'
      rw [hr] at hcovers hle
      rw [hp'] at hq' hle
      exact PathMatch.length_le_of_covers hcovers hq' (PathMatch.size_le_of_isLE hle)

end MeshControl.Proxy
