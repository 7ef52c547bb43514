import MeshControl.Registry.Directory

/-!
Several registries asked as one, some of which may fail. Lists are joined in one loop and the first
hit is sought in another, but what they make of failures is one rule on the outcomes of the
members: failures do not count as long as there is another outcome, and if there is none the last
failure stands for all.
-/
namespace MeshControl.Registry

variable {ρ α : Type}

/-! ### Outcomes pooled -/

def answersOf (outcomes : List (Except StoreError α)) : List α :=
  outcomes.filterMap Except.toOption

/-- What comes of some outcomes: the answers merged, or the last failure if nobody answered. -/
def pooled (merge : List α → α) (outcomes : List (Except StoreError α)) : Except StoreError α :=
  match answersOf outcomes, outcomes.getLast? with
  | [], some failure => failure
  | answers, _ => .ok (merge answers)

@[simp] theorem answersOf_cons_ok (a : α) (outcomes : List (Except StoreError α)) :
    answersOf (.ok a :: outcomes) = a :: answersOf outcomes := rfl

@[simp] theorem answersOf_cons_error (e : StoreError) (outcomes : List (Except StoreError α)) :
    answersOf (.error e :: outcomes) = answersOf outcomes := rfl

theorem answersOf_eq_nil_iff {outcomes : List (Except StoreError α)} :
    answersOf outcomes = [] ↔ ∀ o ∈ outcomes, o.isOk = false := by
  rw [answersOf, List.filterMap_eq_nil_iff]
  refine forall₂_congr fun o _ => ?_
  cases o with
  | ok a => exact ⟨nofun, nofun⟩
  | error e => exact ⟨fun _ => rfl, fun _ => rfl⟩

theorem pooled_of_answers {outcomes : List (Except StoreError α)}
    (h : outcomes = [] ∨ answersOf outcomes ≠ []) (merge : List α → α) :
    pooled merge outcomes = .ok (merge (answersOf outcomes)) := by
  rcases h with rfl | h
  · rfl
  · unfold pooled
    split
    · next hnone _ => exact absurd hnone h
    · rfl

theorem pooled_of_failures {outcomes : List (Except StoreError α)} {failure : Except StoreError α}
    (hlast : outcomes.getLast? = some failure) (h : answersOf outcomes = [])
    (merge : List α → α) : pooled merge outcomes = failure := by
  rw [pooled, h, hlast]

/-- A failure before other outcomes does not count. -/
theorem pooled_after_failure (failed : Option StoreError) {outcomes : List (Except StoreError α)}
    (h : outcomes ≠ []) (merge : List α → α) :
    pooled merge ((failed.map .error).toList ++ outcomes) = pooled merge outcomes := by
  obtain ⟨o, rest, rfl⟩ := List.exists_cons_of_ne_nil h
  cases failed <;> rfl

namespace Panel

/-- What some members find, the first of it. -/
def firstHit (found : List (Option α)) : Option α := found.findSome? id

theorem joinFrom_of_answered (ask : ρ → Except StoreError (List α)) (failed : Option StoreError)
    (members : List ρ) :
    joinFrom ask true failed members = .ok (answersOf (members.map ask)).flatten := by
  induction members generalizing failed with
  | nil => cases failed <;> rfl
  | cons r members ih =>
    rw [joinFrom, List.map_cons]
    cases ask r with
    | ok found => simp [ih, Except.map]
    | error e => simp [ih]

/-- The loop over lists pools the failure that it holds with the outcomes to come. -/
theorem joinFrom_eq (ask : ρ → Except StoreError (List α)) (failed : Option StoreError)
    (members : List ρ) :
    joinFrom ask false failed members =
      pooled List.flatten ((failed.map .error).toList ++ members.map ask) := by
  induction members generalizing failed with
  | nil => cases failed <;> rfl
  | cons r members ih =>
    rw [joinFrom, List.map_cons, pooled_after_failure failed (List.cons_ne_nil _ _)]
    cases ask r with
    | ok found =>
      rw [pooled_of_answers (.inr (by simp))]
      simp [joinFrom_of_answered, Except.map]
    | error e => simp [ih]

theorem firstFrom_of_answered (ask : ρ → Except StoreError (Option α))
    (failed : Option StoreError) (members : List ρ) :
    firstFrom ask true failed members = .ok (firstHit (answersOf (members.map ask))) := by
  induction members generalizing failed with
  | nil => cases failed <;> rfl
  | cons r members ih =>
    rw [firstFrom, List.map_cons]
    cases ask r with
    | ok found => cases found <;> simp [ih, firstHit]
    | error e => simp [ih]

/-- The loop for the first hit pools outcomes in the same way, though it ends at the hit. -/
theorem firstFrom_eq (ask : ρ → Except StoreError (Option α)) (failed : Option StoreError)
    (members : List ρ) :
    firstFrom ask false failed members =
      pooled firstHit ((failed.map .error).toList ++ members.map ask) := by
  induction members generalizing failed with
  | nil => cases failed <;> rfl
  | cons r members ih =>
    rw [firstFrom, List.map_cons, pooled_after_failure failed (List.cons_ne_nil _ _)]
    cases ask r with
    | ok found =>
      rw [pooled_of_answers (.inr (by simp))]
      cases found <;> simp [firstFrom_of_answered, firstHit]
    | error e => simp [ih]

theorem join_eq (p : Panel ρ) (ask : ρ → Except StoreError (List α)) :
    p.join ask = pooled List.flatten (p.members.map ask) := joinFrom_eq ask none p.members

theorem first_eq (p : Panel ρ) (ask : ρ → Except StoreError (Option α)) :
    p.first ask = pooled firstHit (p.members.map ask) := firstFrom_eq ask none p.members

/-! ### Members that fail -/

/-- The panel of the members that answer a question. -/
def answering (p : Panel ρ) (ask : ρ → Except StoreError α) : Panel ρ :=
  ⟨p.members.filter fun r => (ask r).isOk⟩

/-- A question to the whole panel goes by the members that answer it, whose answers are merged in
their order. If there are members and all of them fail, it fails as the last one does. -/
structure Tolerates (p : Panel ρ) (ask : ρ → Except StoreError α)
    (whole : Panel ρ → Except StoreError α) (merge : List α → α) : Prop where
  answered : (p.members = [] ∨ ∃ r ∈ p.members, (ask r).isOk = true) →
    whole p = whole (p.answering ask) ∧
      whole p = .ok (merge (p.members.filterMap fun r => (ask r).toOption))
  failed : ∀ last e, p.members.getLast? = some last → ask last = .error e →
    (∀ r ∈ p.members, (ask r).isOk = false) → whole p = .error e

theorem answersOf_map (ask : ρ → Except StoreError α) (members : List ρ) :
    answersOf (members.map ask) = members.filterMap fun r => (ask r).toOption := by
  rw [answersOf, List.filterMap_map]
  rfl

theorem answersOf_answering (p : Panel ρ) (ask : ρ → Except StoreError α) :
    answersOf ((p.answering ask).members.map ask) = answersOf (p.members.map ask) := by
  rw [answersOf_map, answersOf_map, answering, List.filterMap_filter]
  congr 1
  funext r
  cases ask r <;> rfl

/-- A question whose outcomes are pooled tolerates failures. -/
theorem tolerates_of_pooled {ask : ρ → Except StoreError α}
    {whole : Panel ρ → Except StoreError α} {merge : List α → α}
    (h : ∀ p : Panel ρ, whole p = pooled merge (p.members.map ask)) (p : Panel ρ) :
    p.Tolerates ask whole merge := by
  constructor
  · intro hanswered
    have hpool : p.members.map ask = [] ∨ answersOf (p.members.map ask) ≠ [] := by
      rcases hanswered with hnobody | ⟨r, hr, hok⟩
      · exact .inl (List.map_eq_nil_iff.mpr hnobody)
      · right
        intro hnone
        have hfails := answersOf_eq_nil_iff.mp hnone (ask r) (List.mem_map_of_mem hr)
        rw [hok] at hfails
        cases hfails
    have hpool' : (p.answering ask).members.map ask = [] ∨
        answersOf ((p.answering ask).members.map ask) ≠ [] := by
      rcases hpool with hnobody | hsome
      · left
        rw [answering, List.map_eq_nil_iff.mp hnobody]
        rfl
      · exact .inr (p.answersOf_answering ask ▸ hsome)
    rw [h, h, pooled_of_answers hpool, pooled_of_answers hpool', p.answersOf_answering ask,
      answersOf_map]
    exact ⟨rfl, rfl⟩
  · intro last e hlast he hfail
    rw [h]
    apply pooled_of_failures
    · rw [List.getLast?_map, hlast, Option.map_some, he]
    · rw [answersOf_eq_nil_iff]
      intro o ho
      obtain ⟨r, hr, rfl⟩ := List.mem_map.mp ho
      exact hfail r hr

variable [Directory ρ]

/-- Members that fail do not show in what a panel answers. -/
theorem failing_members_are_transparent (p : Panel ρ) :
    p.Tolerates Directory.services Directory.services List.flatten ∧
    (∀ hostname, p.Tolerates (fun r => Directory.service? r hostname)
      (fun q => Directory.service? q hostname) firstHit) ∧
    (∀ hostname ports tags, p.Tolerates (fun r => Directory.instances r hostname ports tags)
      (fun q => Directory.instances q hostname ports tags) List.flatten) ∧
    (∀ addresses, p.Tolerates (fun r => Directory.hostInstances r addresses)
      (fun q => Directory.hostInstances q addresses) List.flatten) ∧
    ∀ hostname ports,
      (Directory.accounts p hostname ports).Pairwise (· < ·) ∧
      ∀ account, account ∈ Directory.accounts p hostname ports ↔
        ∃ r ∈ p.members, account ∈ Directory.accounts r hostname ports := by
  refine ⟨tolerates_of_pooled (fun q => q.join_eq _) p,
    fun hostname => tolerates_of_pooled (fun q => q.first_eq _) p,
    fun hostname ports tags => tolerates_of_pooled (fun q => q.join_eq _) p,
    fun addresses => tolerates_of_pooled (fun q => q.join_eq _) p, fun hostname ports => ?_⟩
  refine ⟨pairwise_sortedSet _, fun account => ?_⟩
  change account ∈ sortedSet _ ↔ _
  rw [mem_sortedSet, List.mem_flatMap]

end Panel

end MeshControl.Registry
