import MeshControl.Proofs.Config.Ownership
import MeshControl.Proofs.Config.Revisions

/-!
The counters that revisions come from. A type of a federation takes its revisions from the counter
of one member, a single store takes them all from its own. Either way a counter moves by one for
the write that it numbers and by at most one for any other, so a revision that was returned less
than 2⁶⁴ writes ago is not returned again for its type.
-/
namespace MeshControl.Config

/-- Step `i` of a history wrote the record at a place and was answered with this revision. -/
def Granted (c : Catalog) (h : List Exchange) (i : Nat) (place : Place) (r : Revision) : Prop :=
  ∃ e, h[i]? = some e ∧ e.changed? c = some place ∧ e.granted? = some r

/-- How many writes a history holds after step `i`. -/
def writesSince (h : List Exchange) (i : Nat) : Nat := (h.drop (i + 1)).countP (·.call.isWrite)

/-- No counter can have come round since step `i`. -/
def Recent (h : List Exchange) (i : Nat) : Prop := writesSince h i < UInt64.size

instance (h : List Exchange) (i : Nat) : Decidable (Recent h i) :=
  inferInstanceAs (Decidable (writesSince h i < UInt64.size))

section History

variable {c : Catalog} {h : List Exchange} {e : Exchange} {i : Nat} {place : Place} {r : Revision}

theorem Granted.lt_length (hg : Granted c h i place r) : i < h.length := by
  obtain ⟨e, he, -, -⟩ := hg
  exact (List.getElem?_eq_some_iff.mp he).1

theorem granted_append_iff : Granted c (h ++ [e]) i place r ↔
    Granted c h i place r ∨
      i = h.length ∧ e.changed? c = some place ∧ e.granted? = some r := by
  constructor
  · rintro ⟨w, hw, hplace, hgrant⟩
    by_cases hi : i < h.length
    · rw [List.getElem?_append_left hi] at hw
      exact .inl ⟨w, hw, hplace, hgrant⟩
    · have hlast : i = h.length := by
        have hlt := (List.getElem?_eq_some_iff.mp hw).1
        rw [List.length_append, List.length_singleton] at hlt
        omega
      rw [hlast, List.getElem?_concat_length, Option.some.injEq] at hw
      subst hw
      exact .inr ⟨hlast, hplace, hgrant⟩
  · rintro (hold | ⟨rfl, hplace, hgrant⟩)
    · obtain ⟨w, hw, hplace, hgrant⟩ := hold
      have hi : i < h.length := (List.getElem?_eq_some_iff.mp hw).1
      exact ⟨w, by rwa [List.getElem?_append_left hi], hplace, hgrant⟩
    · exact ⟨e, List.getElem?_concat_length, hplace, hgrant⟩

theorem Granted.append (hg : Granted c h i place r) (e : Exchange) :
    Granted c (h ++ [e]) i place r := granted_append_iff.mpr (.inl hg)

theorem Granted.of_last (hplace : e.changed? c = some place) (hgrant : e.granted? = some r)
    (h : List Exchange) : Granted c (h ++ [e]) h.length place r :=
  granted_append_iff.mpr (.inr ⟨rfl, hplace, hgrant⟩)

theorem Granted.revision_eq {place' : Place} {r' : Revision} (hg : Granted c h i place r)
    (hg' : Granted c h i place' r') : r = r' := by
  obtain ⟨e, he, -, hgrant⟩ := hg
  obtain ⟨e', he', -, hgrant'⟩ := hg'
  rw [he, Option.some.injEq] at he'
  rw [← he', hgrant] at hgrant'
  exact Option.some.inj hgrant'

theorem writesSince_append (hi : i < h.length) (e : Exchange) :
    writesSince (h ++ [e]) i = writesSince h i + if e.call.isWrite then 1 else 0 := by
  have hdrop : i + 1 ≤ h.length := hi
  rw [writesSince, List.drop_append_of_le_length hdrop, List.countP_append, List.countP_singleton]
  rfl

theorem Recent.of_append (hi : i < h.length) (hrecent : Recent (h ++ [e]) i) : Recent h i := by
  rw [Recent, writesSince_append hi] at hrecent
  exact Nat.lt_of_le_of_lt (Nat.le_add_right _ _) hrecent

/-- The steps of two histories that write at the same steps are recent together. -/
theorem Recent.congr {h' : List Exchange}
    (hwrites : h.map (·.call.isWrite) = h'.map (·.call.isWrite)) (hrecent : Recent h i) :
    Recent h' i := by
  have hcount : ∀ l : List Exchange,
      writesSince l i = ((l.map (·.call.isWrite)).drop (i + 1)).countP id := by
    intro l
    rw [writesSince, ← List.map_drop, List.countP_map]
    rfl
  rw [Recent, hcount, ← hwrites, ← hcount]
  exact hrecent

end History

/-! ### Counters over one call -/

/-- How the counters of all types move over a call, and that a revision it returns is the number
at which the counter of its type arrives. -/
structure Ticks (c : Catalog) (before after : String → UInt64) (e : Exchange) : Prop where
  moved : ∀ type, ∃ d ≤ if e.call.isWrite then 1 else 0,
    after type = before type + UInt64.ofNat d
  stamped : ∀ place r, e.changed? c = some place → e.granted? = some r →
    e.call.isWrite = true ∧ after place.1 = before place.1 + 1 ∧
      r = Memory.revisionAt (after place.1)

theorem Memory.ticks_perform (m : Memory) (call : Call) :
    Ticks m.catalog (fun _ => m.writes) (fun _ => (call.perform m).2.writes)
      ⟨call, (call.perform m).1⟩ := by
  have heffect := effect_perform m call
  generalize (call.perform m).2 = m' at heffect ⊢
  cases heffect with
  | kept hidle =>
    refine ⟨fun _ => ⟨0, Nat.zero_le _, (UInt64.add_zero _).symm⟩, ?_⟩
    intro place r hplace hgrant
    rw [hidle.1] at hgrant
    cases hgrant
  | drew hwrite hidle =>
    refine ⟨fun _ => ⟨1, by rw [if_pos hwrite], rfl⟩, ?_⟩
    intro place r hplace hgrant
    rw [hidle.1] at hgrant
    cases hgrant
  | wrote s key content hwrite haccept hplace hgrant hnamed =>
    refine ⟨fun _ => ⟨1, by rw [if_pos hwrite], rfl⟩, ?_⟩
    intro place' r _ hr
    rw [hgrant, Option.some.injEq] at hr
    exact ⟨hwrite, rfl, hr.symm⟩
  | removed type key hplace hgrant hnamed =>
    refine ⟨fun _ => ⟨0, Nat.zero_le _, (UInt64.add_zero _).symm⟩, ?_⟩
    intro place r _ hr
    rw [hgrant] at hr
    cases hr

namespace Federation

/-- The counter from which the revisions of a type come. -/
def clock (u : Federation Memory) (type : String) : UInt64 := (u.holder? type).elim 0 (·.writes)

theorem clock_of_member {u : Federation Memory} {i : Nat} {m : Memory} (h : u.catalog.IsSound)
    (hm : u.members[i]? = some m) {type : String} (htype : type ∈ m.catalog.types) :
    u.clock type = m.writes := by
  rw [clock, holder?_of_member h.types hm htype]
  rfl

theorem ticks_perform {u : Federation Memory} (h : u.catalog.IsSound) (call : Call) :
    Ticks u.catalog u.clock (call.perform u).2.clock ⟨call, (call.perform u).1⟩ := by
  by_cases hcall : u.catalog.Concerns call
  · obtain ⟨i, m, hm, hconcerns⟩ := exists_member_of_concerns hcall
    have hsame := h.sameFor_of_concerns (sublist_catalog hm) hconcerns
    obtain ⟨hmoved, hstamped⟩ := Memory.ticks_perform m call
    have hnext : ∀ type, (u.setMember i (call.perform m).2).clock type =
        if type ∈ m.catalog.types then (call.perform m).2.writes else u.clock type := by
      intro type
      rw [clock, holder?_setMember h.types hm (Memory.catalog_perform m call)]
      split
      · next htype => exact (if_pos htype).symm
      · next htype => exact (if_neg htype).symm
    rw [perform_of_member h hm hconcerns]
    refine ⟨fun type => ?_, fun place r hplace hgrant => ?_⟩
    · rw [hnext]
      by_cases htype : type ∈ m.catalog.types
      · rw [if_pos htype, clock_of_member h hm htype]
        exact hmoved type
      · rw [if_neg htype]
        exact ⟨0, Nat.zero_le _, (UInt64.add_zero _).symm⟩
    · rw [← Exchange.changed?_congr (e := ⟨call, (call.perform m).1⟩) hsame] at hplace
      have htype : place.1 ∈ m.catalog.types :=
        mem_types_of_type? hconcerns (Call.type?_of_changed? hplace)
      rw [hnext, if_pos htype, clock_of_member h hm htype]
      exact hstamped place r hplace hgrant
  · have hgrant : Exchange.granted? ⟨call, (call.perform (Memory.new [])).1⟩ = none := by
      cases call <;> rfl
    rw [perform_of_unknown hcall]
    refine ⟨fun _ => ⟨0, Nat.zero_le _, (UInt64.add_zero _).symm⟩, ?_⟩
    intro place r _ hr
    rw [hgrant] at hr
    cases hr

end Federation

/-! ### Counters over a history -/

/-- Every revision that a history returned is as many numbers behind the counter of its type as
the counter has moved since, and that is no more than there were writes. -/
def Dated (c : Catalog) (h : List Exchange) (clock : String → UInt64) : Prop :=
  ∀ i place r, Granted c h i place r → ∃ (v : UInt64) (d : Nat),
    d ≤ writesSince h i ∧ r = Memory.revisionAt v ∧ clock place.1 = v + UInt64.ofNat d

theorem dated_nil (c : Catalog) (clock : String → UInt64) : Dated c [] clock := by
  rintro i place r ⟨e, he, -, -⟩
  cases he

section Dated

variable {c : Catalog} {h : List Exchange} {e : Exchange} {before after : String → UInt64}

theorem Dated.append (hd : Dated c h before) (ht : Ticks c before after e) :
    Dated c (h ++ [e]) after := by
  intro i place r hg
  rcases granted_append_iff.mp hg with hold | ⟨rfl, hplace, hgrant⟩
  · obtain ⟨v, d, hle, hr, hclock⟩ := hd i place r hold
    obtain ⟨d', hle', hmoved⟩ := ht.moved place.1
    refine ⟨v, d + d', ?_, hr, ?_⟩
    · rw [writesSince_append hold.lt_length]
      omega
    · rw [hmoved, hclock, UInt64.ofNat_add, UInt64.add_assoc]
  · obtain ⟨-, -, hr⟩ := ht.stamped place r hplace hgrant
    exact ⟨after place.1, 0, Nat.zero_le _, hr, (UInt64.add_zero _).symm⟩

/-- A counter that has moved, and not all the way round, gives another revision. -/
theorem revisionAt_add_ne {v : UInt64} {d : Nat} (hpos : 0 < d) (hlt : d < UInt64.size) :
    Memory.revisionAt v ≠ Memory.revisionAt (v + UInt64.ofNat d) := by
  intro heq
  have hsame : v.toNat = (v + UInt64.ofNat d).toNat := Decimal.toString_nat_inj.mp heq
  have hv : v.toNat < 2 ^ 64 := v.toNat_lt
  rw [UInt64.size] at hlt
  rw [UInt64.toNat_add, UInt64.toNat_ofNat'] at hsame
  omega

/-- A write is not answered with a revision that was returned recently for the same type. -/
theorem Dated.ne_of_recent (hd : Dated c h before) (ht : Ticks c before after e) {i : Nat}
    {place : Place} {r r' : Revision} (hplace : e.changed? c = some place)
    (hgrant : e.granted? = some r) (hg : Granted c h i place r') (hrecent : Recent (h ++ [e]) i) :
    r' ≠ r := by
  obtain ⟨v, d, hle, rfl, hclock⟩ := hd i place r' hg
  obtain ⟨hwrite, hnext, rfl⟩ := ht.stamped place r hplace hgrant
  rw [Recent, writesSince_append hg.lt_length, if_pos hwrite] at hrecent
  have hmoved : after place.1 = v + UInt64.ofNat (d + 1) := by
    rw [hnext, hclock, UInt64.ofNat_add, UInt64.add_assoc]
    rfl
  rw [hmoved]
  exact revisionAt_add_ne (Nat.succ_pos d) (by omega)

/-- Step `k` was answered with this revision, and no other recent write at the place was. -/
structure Sole (c : Catalog) (h : List Exchange) (place : Place) (k : Nat) (r : Revision) :
    Prop where
  granted : Granted c h k place r
  eq_of_granted : ∀ i, Granted c h i place r → Recent h i → i = k

theorem Sole.append {place : Place} {k : Nat} {r : Revision} (hs : Sole c h place k r)
    (he : e.changed? c ≠ some place) : Sole c (h ++ [e]) place k r where
  granted := hs.granted.append e
  eq_of_granted i hg hrecent := by
    rcases granted_append_iff.mp hg with hold | ⟨-, hplace, -⟩
    · exact hs.eq_of_granted i hold (hrecent.of_append hold.lt_length)
    · exact absurd hplace he

theorem Dated.sole (hd : Dated c h before) (ht : Ticks c before after e) {place : Place}
    {r : Revision} (hplace : e.changed? c = some place) (hgrant : e.granted? = some r) :
    Sole c (h ++ [e]) place h.length r where
  granted := .of_last hplace hgrant h
  eq_of_granted i hg hrecent := by
    rcases granted_append_iff.mp hg with hold | ⟨hlast, -, -⟩
    · exact absurd rfl (hd.ne_of_recent ht hplace hgrant hold hrecent)
    · exact hlast

/-- A recent write returned the revision of the record if and only if it is the write that the
record comes from. -/
theorem Sole.revision_eq_iff {place : Place} {i k : Nat} {r r' : Revision}
    (hs : Sole c h place k r) (hg : Granted c h i place r') (hrecent : Recent h i) :
    r = r' ↔ i = k := by
  constructor
  · rintro rfl
    exact hs.eq_of_granted i hg hrecent
  · rintro rfl
    exact hs.granted.revision_eq hg

end Dated

end MeshControl.Config
