import MeshControl.Config.Message
import MeshControl.Proofs.Json.Unsigned

/-!
What the comparison of records tells. Values are compared by what they are, except that the two
zeros among the doubles are equal and that what is not a number is unequal to itself. Two records
that are the same for this comparison, or the same outright, are alike.
-/
namespace MeshControl

namespace Json

mutual
theorem same_trans {i j k : Json} (hij : same i j = true) (hjk : same j k = true) :
    same i k = true := by
  -- Values of different kinds are never the same.
  cases i <;> cases j <;> try exact absurd hij Bool.false_ne_true
  all_goals cases k <;> try exact absurd hjk Bool.false_ne_true
  case null.null.null => rfl
  case bool.bool.bool | int.int.int | str.str.str => simp_all [same]
  case float.float.float x y z => exact BEq.trans hij hjk
  case arr.arr.arr a b c => exact sameItems_trans hij hjk
  case obj.obj.obj a b c => exact sameFields_trans hij hjk
termination_by sizeOf i

theorem sameItems_trans {a b c : List Json} (hab : sameItems a b = true)
    (hbc : sameItems b c = true) : sameItems a c = true := by
  match a, b, c with
  | [], [], [] => rfl
  | [], _ :: _, _ | _ :: _, [], _ => exact absurd hab Bool.false_ne_true
  | [], [], _ :: _ | _ :: _, _ :: _, [] => exact absurd hbc Bool.false_ne_true
  | i :: a, j :: b, k :: c =>
    simp only [sameItems, Bool.and_eq_true] at hab hbc ⊢
    exact ⟨same_trans hab.1 hbc.1, sameItems_trans hab.2 hbc.2⟩
termination_by sizeOf a

theorem sameFields_trans {a b c : List (String × Json)} (hab : sameFields a b = true)
    (hbc : sameFields b c = true) : sameFields a c = true := by
  match a, b, c with
  | [], [], [] => rfl
  | [], _ :: _, _ | _ :: _, [], _ => exact absurd hab Bool.false_ne_true
  | [], [], _ :: _ | _ :: _, _ :: _, [] => exact absurd hbc Bool.false_ne_true
  | (_, i) :: a, (_, j) :: b, (_, k) :: c =>
    simp only [sameFields, Bool.and_eq_true, beq_iff_eq] at hab hbc ⊢
    exact ⟨⟨hab.1.1.trans hbc.1.1, same_trans hab.1.2 hbc.1.2⟩, sameFields_trans hab.2 hbc.2⟩
termination_by sizeOf a
end

end Json

namespace Config.Record

/-- Records that the comparison cannot tell apart. It takes the two zeros for one, and a record
that holds what is not a number is like itself only. -/
def Alike (r s : Record) : Prop := r = s ∨ (r == s) = true

theorem Alike.refl (r : Record) : r.Alike r := .inl rfl

theorem beq_iff (r s : Record) :
    (r == s) = true ↔ r.type = s.type ∧ r.key = s.key ∧ r.revision = s.revision ∧
      r.content.name = s.content.name ∧ Json.same r.content.value s.content.value = true := by
  change (_ && _ && _ && (_ && _)) = true ↔ _
  simp only [Bool.and_eq_true, beq_iff_eq, and_assoc]
  rfl

theorem Alike.trans_beq {r s t : Record} (h : r.Alike s) (hst : (s == t) = true) : r.Alike t := by
  rcases h with rfl | h
  · exact .inr hst
  · obtain ⟨htype, hkey, hrevision, hname, hvalue⟩ := (beq_iff r s).mp h
    obtain ⟨htype', hkey', hrevision', hname', hvalue'⟩ := (beq_iff s t).mp hst
    exact .inr ((beq_iff r t).mpr ⟨htype.trans htype', hkey.trans hkey',
      hrevision.trans hrevision', hname.trans hname', Json.same_trans hvalue hvalue'⟩)

end Config.Record

end MeshControl
