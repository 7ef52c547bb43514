import MeshControl.Config.Front
import MeshControl.Proofs.Config.Equality
import MeshControl.Proofs.Config.Turns
import MeshControl.Proofs.Json.Unsigned

/-!
What is seen through a running controller. Its readers see the snapshot, and the snapshot of a type
that handlers hear of changes only when they are told, but for the signs of zeros: comparison takes
the two zeros for one.
-/
namespace MeshControl.Config

/-- A record whose content has no signs. -/
def Record.plain (r : Record) : Record :=
  { r with content := ⟨r.content.name, r.content.value.plain⟩ }

theorem Record.plain_eq_of_beq {r s : Record} (h : (r == s) = true) : r.plain = s.plain := by
  obtain ⟨htype, hkey, hrevision, hname, hvalue⟩ := (beq_iff r s).mp h
  rw [plain, plain, htype, hkey, hrevision, hname, Json.plain_eq_of_same hvalue]

/-- Where no difference is found there is none but of signs. -/
theorem map_plain_eq_of_sweep {old new : List Record} (h : sweep old new = []) :
    old.map Record.plain = new.map Record.plain := by
  induction old, new using sweep.induct with
  | case1 new =>
    rw [sweep] at h
    rw [List.map_eq_nil_iff.mp h]
  | case2 old =>
    cases old with
    | nil => rfl
    | cons o old =>
      rw [sweep] at h
      · cases h
      · exact fun hnil => by cases hnil
  | case3 o old n new hkey hsame ih =>
    rw [sweep, if_pos hkey, if_pos hsame] at h
    rw [List.map_cons, List.map_cons, Record.plain_eq_of_beq hsame, ih h]
  | case4 o old n new hkey hdiffer =>
    rw [sweep, if_pos hkey, if_neg hdiffer] at h
    cases h
  | case5 o old n new hkey hbefore =>
    rw [sweep, if_neg hkey, if_pos hbefore] at h
    cases h
  | case6 o old n new hkey hbefore =>
    rw [sweep, if_neg hkey, if_neg hbefore] at h
    cases h

namespace Controller

variable {σ : Type}

/-! ### What readers see -/

/-- What is known of a type, without signs. -/
def seen (c : Controller σ) (type : String) : List Record := (c.known type).map Record.plain

theorem narrow_map_plain (l : List Record) (key : String) (fuel base size : Nat) :
    narrow (l.map Record.plain) key fuel base size = narrow l key fuel base size := by
  induction fuel generalizing base size with
  | zero => rfl
  | succ fuel ih =>
    have hmid : ∀ i, (l.map Record.plain)[i]? = l[i]?.map Record.plain := fun _ => List.getElem?_map
    simp only [narrow, ih, hmid]
    cases l[base + size / 2]? <;> rfl

theorem search_map_plain (l : List Record) (key : String) :
    search (l.map Record.plain) key = (search l key).map Record.plain := by
  rw [search, search, narrow_map_plain, List.length_map, List.getElem?_map, Option.filter_map]
  rfl

/-! ### What is reported -/

/-- How one state of a controller follows another with a number of reports in between. -/
structure Reports (c c' : Controller σ) (count : Nat) : Prop where
  handlers : c'.handlers = c.handlers
  seen : count = 0 → ∀ type, c.handlersOf type ≠ [] → c'.seen type = c.seen type

variable {c c' d : Controller σ}

theorem Reports.trans {m n : Nat} (h : Reports c c' m) (h' : Reports c' d n) :
    Reports c d (m + n) where
  handlers := h'.handlers.trans h.handlers
  seen hcount type hheard := by
    obtain ⟨hm, hn⟩ := Nat.add_eq_zero_iff.mp hcount
    have hheard' : c'.handlersOf type ≠ [] := by rwa [handlersOf, h.handlers]
    exact (h'.seen hn type hheard').trans (h.seen hm type hheard)

/-- A type that someone hears of is listed without a report only if nothing has changed. -/
theorem eq_nil_of_notices {type : String} {now : Nat} {events : List (Record × Event)}
    (hheard : c.handlersOf type ≠ []) (h : c.notices type now events = []) : events = [] := by
  cases events with
  | nil => rfl
  | cons e events =>
    rw [notices, List.flatMap_cons] at h
    exact absurd (List.map_eq_nil_iff.mp (List.append_eq_nil_iff.mp h).1) hheard

/-- A type is heard of once it has been registered. -/
theorem handlersOf_foldl_register {types : List String} {type : String} (c : Controller σ)
    (h : type ∈ types ∨ c.handlersOf type ≠ []) :
    (types.foldl (fun c type => c.register type 0) c).handlersOf type ≠ [] := by
  induction types generalizing c with
  | nil => exact h.resolve_left List.not_mem_nil
  | cons first types ih =>
    refine ih _ ?_
    rw [handlersOf_register]
    rcases h with hmem | hheard
    · rcases List.mem_cons.mp hmem with rfl | hmem
      · exact .inr (by simp)
      · exact .inl hmem
    · exact .inr (by simp [hheard])

variable [Store σ]

theorem Turn.reports {now : Nat} {notices : List Notice} (h : Turn now c c' notices) :
    Reports c c' notices.length := by
  cases h with
  | listed pass type rest records hphase hrest hok =>
    refine ⟨rfl, fun hcount other hheard => ?_⟩
    by_cases htype : other = type
    · subst htype
      have hevents := eq_nil_of_notices hheard (List.eq_nil_of_length_eq_zero hcount)
      simp only [Controller.seen, known, Table.find?_insert_self, Option.getD_some]
      exact (map_plain_eq_of_sweep hevents).symm
    · simp only [Controller.seen, known, Table.find?_insert_ne htype]
  | relisted | ticked | rested | skipped | finished | woke => exact ⟨rfl, fun _ _ _ => rfl⟩

theorem reports_turns (fuel now : Nat) (c : Controller σ) :
    Reports c (turns fuel now c).1 (turns fuel now c).2.length := by
  induction fuel generalizing c with
  | zero => exact ⟨rfl, fun _ _ _ => rfl⟩
  | succ fuel ih =>
    rw [turns]
    cases hturn : c.turn now with
    | none => exact ⟨rfl, fun _ _ _ => rfl⟩
    | some next =>
      simp only [List.length_append]
      exact (turn_cases hturn).reports.trans (ih next.1)

theorem reports_settle (c : Controller σ) (now : Nat) :
    Reports c (c.settle now).1 (c.settle now).2.length := reports_turns _ now c

theorem reports_advanceWith (fuel now target : Nat) (c : Controller σ) :
    Reports c (advanceWith fuel now target c).1 (advanceWith fuel now target c).2.length := by
  induction fuel generalizing now c with
  | zero => exact c.reports_settle now
  | succ fuel ih =>
    have hsettle := c.reports_settle now
    rw [advanceWith]
    cases hdue : (c.settle now).1.due? with
    | none => simpa only [hdue] using hsettle
    | some time =>
      simp only [hdue]
      split
      · simp only [List.length_append]
        exact hsettle.trans (ih time (c.settle now).1)
      · exact hsettle

/-- A call leaves what is seen to the next pass. -/
theorem reports_perform (c : Controller σ) (call : Call) : Reports c (call.perform c).2 0 := by
  obtain ⟨store, hcall⟩ := c.perform_eq call
  rw [hcall]
  exact ⟨rfl, fun _ _ _ => rfl⟩

end Controller

/-! ### Through a front -/

namespace Front

variable {σ : Type}

/-- A front whose controller runs and tells someone of every type in a list. -/
structure Mirrors (f : Front σ) (types : List String) : Prop where
  live : f.live = true
  heard : ∀ type ∈ types, f.controller.handlersOf type ≠ []

/-- How one state of a front follows another with a number of reports in between. -/
structure Reports (f f' : Front σ) (count : Nat) : Prop where
  live : f'.live = f.live
  controller : f.controller.Reports f'.controller count

theorem reports_setStore (f : Front σ) (store : σ) : f.Reports (f.setStore store) 0 :=
  ⟨rfl, ⟨rfl, fun _ _ _ => rfl⟩⟩

theorem Reports.mirrors {f f' : Front σ} {count : Nat} {types : List String}
    (h : f.Reports f' count) (hf : f.Mirrors types) : f'.Mirrors types where
  live := h.live.trans hf.live
  heard type htype := by
    rw [Controller.handlersOf, h.controller.handlers]
    exact hf.heard type htype

/-- A front hears of the types that it was told to report. -/
theorem mirrors_new (store : σ) (resync : Nat) (types : List String) :
    (new store resync types true).Mirrors types := by
  refine ⟨rfl, fun type htype => ?_⟩
  have hstart : ∀ c : Controller σ, (c.start 0).handlers = c.handlers := by
    intro c
    rw [Controller.start]
    split <;> rfl
  change (Controller.start _ 0).handlersOf type ≠ []
  rw [Controller.handlersOf, hstart]
  exact Controller.handlersOf_foldl_register _ (.inl htype)

variable [Store σ]

theorem reports_settle (f : Front σ) : f.Reports f.settle.1 f.settle.2 :=
  ⟨rfl, f.controller.reports_settle f.now⟩

theorem reports_advance (f : Front σ) (time : Nat) :
    f.Reports (f.advance time).1 (f.advance time).2 :=
  ⟨rfl, f.controller.reports_advanceWith ..⟩

theorem reports_perform {f : Front σ} (hlive : f.live = true) (call : Call) :
    f.Reports (call.perform f).2 0 := by
  have hthrough : (call.perform f).2 = { f with controller := (call.perform f.controller).2 } := by
    cases call with
    | get type key => rfl
    | _ => simp [Call.perform, Store.list, Store.post, Store.put, Store.delete, Front.call, hlive]
  rw [hthrough]
  exact ⟨rfl, f.controller.reports_perform call⟩

end Front

end MeshControl.Config
