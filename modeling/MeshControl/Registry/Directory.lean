import MeshControl.Config.Error
import MeshControl.Service

/-!
What can be asked of a registry of services, and several registries asked as one. Answers of
several registries are joined in their order. A question fails only if every registry fails.
-/
namespace MeshControl.Registry

class Directory (ρ : Type) where
  services : ρ → Except StoreError (List Service)
  service? : ρ → (hostname : String) → Except StoreError (Option Service)
  /-- The instances of a service that serve one of the named ports and carry one of the tag
  sets. An empty list of either is no condition. -/
  instances : ρ → (hostname : String) → (ports : List String) → TagsList →
    Except StoreError (List Instance)
  /-- The instances that run on one of the addresses. -/
  hostInstances : ρ → (addresses : List String) → Except StoreError (List Instance)
  /-- The ports for health checks of the workload at an address. -/
  managementPorts : ρ → (address : String) → Option (List Port)
  /-- The identities of the workloads that serve one of the named ports, sorted, each once. -/
  accounts : ρ → (hostname : String) → (ports : List String) → List String

/-- A sorted list without its repetitions. -/
def dropRepeats : List String → List String
  | [] => []
  | [a] => [a]
  | a :: b :: l => if a = b then dropRepeats (b :: l) else a :: dropRepeats (b :: l)

def sortedSet (l : List String) : List String := dropRepeats (Tags.sortTexts l)

@[simp] theorem mem_dropRepeats {a : String} {l : List String} : a ∈ dropRepeats l ↔ a ∈ l := by
  fun_induction dropRepeats l with
  | case1 => rfl
  | case2 => rfl
  | case3 b l ih => simp [ih]
  | case4 b c l _ ih => rw [List.mem_cons, ih, ← List.mem_cons]

theorem pairwise_dropRepeats {l : List String} (h : l.Pairwise (· ≤ ·)) :
    (dropRepeats l).Pairwise (· < ·) := by
  fun_induction dropRepeats l with
  | case1 => exact .nil
  | case2 a => exact List.pairwise_singleton _ a
  | case3 b l ih => exact ih (List.pairwise_cons.mp h).2
  | case4 a b l hne ih =>
    obtain ⟨hhead, htail⟩ := List.pairwise_cons.mp h
    refine List.pairwise_cons.mpr ⟨fun c hc => ?_, ih htail⟩
    have hlt : a < b := text_lt_of_le_of_ne (hhead b List.mem_cons_self) hne
    rcases List.mem_cons.mp (mem_dropRepeats.mp hc) with rfl | hrest
    · exact hlt
    · have hle : b ≤ c := (List.pairwise_cons.mp htail).1 c hrest
      exact Decidable.byContradiction fun hnot =>
        String.not_lt.mpr (String.le_trans hle (String.not_lt.mp hnot)) hlt

@[simp] theorem mem_sortedSet {a : String} {l : List String} : a ∈ sortedSet l ↔ a ∈ l := by
  rw [sortedSet, mem_dropRepeats, Tags.sortTexts, List.mem_mergeSort]

theorem pairwise_sortedSet (l : List String) : (sortedSet l).Pairwise (· < ·) :=
  pairwise_dropRepeats (pairwise_mergeSort_text (fun s => s) l)

/-! ### Several registries as one -/

structure Panel (ρ : Type) where
  members : List ρ

namespace Panel

variable {ρ α : Type}

/-- The answers of some members joined: `answered` says whether one before them succeeded,
`failed` holds the last failure. -/
def joinFrom (ask : ρ → Except StoreError (List α)) (answered : Bool)
    (failed : Option StoreError) : List ρ → Except StoreError (List α)
  | [] =>
    match failed with
    | some e => if answered then .ok [] else .error e
    | none => .ok []
  | r :: rs =>
    match ask r with
    | .ok found => (joinFrom ask true failed rs).map (found ++ ·)
    | .error e => joinFrom ask answered (some e) rs

def join (p : Panel ρ) (ask : ρ → Except StoreError (List α)) : Except StoreError (List α) :=
  joinFrom ask false none p.members

/-- The first answer found. Fails if all members fail, with the failure of the last one. -/
def firstFrom (ask : ρ → Except StoreError (Option α)) (answered : Bool)
    (failed : Option StoreError) : List ρ → Except StoreError (Option α)
  | [] =>
    match failed with
    | some e => if answered then .ok none else .error e
    | none => .ok none
  | r :: rs =>
    match ask r with
    | .ok (some a) => .ok (some a)
    | .ok none => firstFrom ask true failed rs
    | .error e => firstFrom ask answered (some e) rs

def first (p : Panel ρ) (ask : ρ → Except StoreError (Option α)) :
    Except StoreError (Option α) :=
  firstFrom ask false none p.members

instance [Directory ρ] : Directory (Panel ρ) where
  services p := p.join Directory.services
  service? p hostname := p.first fun r => Directory.service? r hostname
  instances p hostname ports tags := p.join fun r => Directory.instances r hostname ports tags
  hostInstances p addresses := p.join fun r => Directory.hostInstances r addresses
  managementPorts p address := p.members.findSome? fun r => Directory.managementPorts r address
  accounts p hostname ports :=
    sortedSet (p.members.flatMap fun r => Directory.accounts r hostname ports)

end Panel

/-! ### A registry that may be out of reach -/

structure Remote (ρ : Type) where
  registry : ρ
  reachable : Bool

namespace Remote

variable {ρ α : Type}

def down : StoreError := .unavailable "down"

def ask (r : Remote ρ) (question : ρ → Except StoreError α) : Except StoreError α :=
  if r.reachable then question r.registry else .error down

instance [Directory ρ] : Directory (Remote ρ) where
  services r := r.ask Directory.services
  service? r hostname := r.ask fun d => Directory.service? d hostname
  instances r hostname ports tags := r.ask fun d => Directory.instances d hostname ports tags
  hostInstances r addresses := r.ask fun d => Directory.hostInstances d addresses
  managementPorts r address :=
    if r.reachable then Directory.managementPorts r.registry address else none
  accounts r hostname ports :=
    if r.reachable then Directory.accounts r.registry hostname ports else []

end Remote

end MeshControl.Registry
