import MeshControl.Proofs.Config.Ledger

/-!
Everything that one call can do to a store in memory. Few calls change a record, and then only the
record of one place; the answer tells which place it was and which revisions were returned or
named. Whatever a store keeps over a call is shown for these effects alone.
-/
namespace MeshControl.Config

namespace Exchange

/-- The revision that a write returned. -/
def granted? : Exchange → Option Revision
  | ⟨_, .written (.ok r)⟩ => some r
  | _ => none

/-- The revision that a replacement named, if it succeeded. -/
def consumed? : Exchange → Option Revision
  | ⟨.put _ r, .written (.ok _)⟩ => some r
  | _ => none

/-- The place whose record was written or deleted. -/
def changed? (c : Catalog) : Exchange → Option Place
  | ⟨.post m, .written (.ok _)⟩ | ⟨.put m _, .written (.ok _)⟩ => c.place? m
  | ⟨.delete type key, .deleted (.ok _)⟩ => some (type, key)
  | _ => none

/-- An exchange that changed no record. -/
def Idle (c : Catalog) (e : Exchange) : Prop :=
  e.granted? = none ∧ e.consumed? = none ∧ e.changed? c = none

/-- An exchange that names no revision but that of the record at a place. -/
def NamesOnly (m : Memory) (type key : String) (e : Exchange) : Prop :=
  ∀ r, e.consumed? = some r → ∃ current, m.held? type key = some current ∧ current.revision = r

end Exchange

namespace Memory

/-- The store that a call leaves, with what its answer tells of it. -/
inductive Effect (m : Memory) (e : Exchange) : Memory → Prop
  | kept (hidle : e.Idle m.catalog) : Effect m e m
  | drew (hwrite : e.call.isWrite = true) (hidle : e.Idle m.catalog) : Effect m e m.draw
  | wrote (s : Schema) (key : String) (content : Message) (hwrite : e.call.isWrite = true)
      (haccept : m.accept content = .ok (s, key))
      (hplace : e.changed? m.catalog = some (s.type, key))
      (hgrant : e.granted? = some (revisionAt m.draw.writes))
      (hnamed : e.NamesOnly m s.type key) :
      Effect m e (m.draw.write s.type key ⟨content, revisionAt m.draw.writes⟩)
  | removed (type key : String) (hplace : e.changed? m.catalog = some (type, key))
      (hgrant : e.granted? = none) (hnamed : e.consumed? = none) :
      Effect m e (m.remove type key)

theorem effect_post (m : Memory) (content : Message) :
    Effect m ⟨.post content, .written (m.post content).1⟩ (m.post content).2 := by
  cases haccept : m.accept content with
  | error e =>
    rw [post_of_refused haccept]
    exact .kept ⟨rfl, rfl, rfl⟩
  | ok place =>
    obtain ⟨-, -, -, hplace⟩ := place?_of_accepted haccept
    rw [post_of_accepted haccept]
    split
    · exact .drew rfl ⟨rfl, rfl, rfl⟩
    · exact .wrote _ _ content rfl haccept hplace rfl (fun r hr => by cases hr)

theorem effect_put (m : Memory) (content : Message) (r : Revision) :
    Effect m ⟨.put content r, .written (m.put content r).1⟩ (m.put content r).2 := by
  cases haccept : m.accept content with
  | error e =>
    rw [put_of_refused haccept]
    exact .kept ⟨rfl, rfl, rfl⟩
  | ok place =>
    obtain ⟨-, -, -, hplace⟩ := place?_of_accepted haccept
    cases hentry : m.held? place.1.type place.2 with
    | none =>
      rw [put_of_absent haccept hentry]
      exact .drew rfl ⟨rfl, rfl, rfl⟩
    | some current =>
      rw [put_of_present haccept hentry]
      split
      · exact .drew rfl ⟨rfl, rfl, rfl⟩
      · next hsame =>
        refine .wrote _ _ content rfl haccept hplace rfl ?_
        intro r' hr'
        cases hr'
        exact ⟨current, hentry, not_not.mp hsame⟩

theorem effect_delete (m : Memory) (type key : String) :
    Effect m ⟨.delete type key, .deleted (m.delete type key).1⟩ (m.delete type key).2 := by
  cases hwritable : (m.catalog.get? type).any (!·.internal) with
  | false =>
    rw [delete_of_unwritable key hwritable]
    exact .kept ⟨rfl, rfl, rfl⟩
  | true =>
    rw [delete_of_writable key hwritable]
    split
    · exact .kept ⟨rfl, rfl, rfl⟩
    · exact .removed type key rfl rfl rfl

theorem effect_perform (m : Memory) (call : Call) :
    Effect m ⟨call, (call.perform m).1⟩ (call.perform m).2 := by
  cases call with
  | get type key => exact .kept ⟨rfl, rfl, rfl⟩
  | list type => exact .kept ⟨rfl, rfl, rfl⟩
  | post content => exact effect_post m content
  | put content r => exact effect_put m content r
  | delete type key => exact effect_delete m type key

end Memory

end MeshControl.Config
