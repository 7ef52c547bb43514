import MeshControl.Node
import MeshControl.Proofs.Address.RoundTrip
import MeshControl.Proofs.Table

/-!
Identities of proxies and their texts. A text is read if it is an address, or if it is cut at its
tildes into a role, an address and two more parts. The text of an identity is of the second form, so
it is read back unless one of the free parts has a tilde of its own; what has been read never does.
-/
namespace MeshControl

theorem Role.ofText?_eq_some_iff {s : String} {role : Role} :
    ofText? s = some role ↔ s = role.text := by
  have hkeys : (all.map text).Nodup := by decide
  have hall : role ∈ all := by cases role <;> decide
  simp [ofText?, find?_eq_some_iff_of_nodup hkeys, hall, eq_comm]

theorem Role.tilde_notMem_text (role : Role) : '~' ∉ role.text.toList := by
  cases role <;> decide

theorem Address.tilde_notMem_of_ofText? {s : String} {a : Address} (h : ofText? s = some a) :
    '~' ∉ s.toList :=
  fun hmem => absurd ((ofText?_cases h).2 '~' hmem) (by decide)

namespace Node

theorem readRole_eq_ok_iff {s : String} {role : Role} :
    readRole s = .ok role ↔ s = role.text := by
  rw [← Role.ofText?_eq_some_iff, readRole]
  cases Role.ofText? s <;> simp

theorem readAddress_eq_ok_iff {s : String} {a : Address} :
    readAddress s = .ok a ↔ Address.ofText? s = some a := by
  rw [readAddress]
  cases Address.ofText? s <;> simp

theorem ofText_of_pieces {s role address id domain : String}
    (hs : Text.split '~' s = [role, address, id, domain]) (n : Node) :
    ofText s = .ok n ↔
      role = n.role.text ∧ Address.ofText? address = some n.address ∧ id = n.id ∧
        domain = n.domain := by
  rw [ofText, hs]
  simp only
  constructor
  · intro h
    cases hrole : readRole role with
    | error e => rw [hrole] at h; cases h
    | ok r =>
      cases haddress : readAddress address with
      | error e => rw [hrole, haddress] at h; cases h
      | ok a =>
        rw [hrole, haddress] at h
        cases h
        exact ⟨readRole_eq_ok_iff.mp hrole, readAddress_eq_ok_iff.mp haddress, rfl, rfl⟩
  · rintro ⟨hrole, haddress, rfl, rfl⟩
    rw [readRole_eq_ok_iff.mpr hrole, readAddress_eq_ok_iff.mpr haddress]
    rfl

/-- A text of an identity is an address by itself, or a role, an address and two more parts. -/
theorem ofText_eq_ok_iff {s : String} {n : Node} :
    ofText s = .ok n ↔
      (∃ a, Address.ofText? s = some a ∧ n = ofSidecar a) ∨
        ∃ address, Text.split '~' s = [n.role.text, address, n.id, n.domain] ∧
          Address.ofText? address = some n.address := by
  have hbare : ∀ a, Address.ofText? s = some a → Text.split '~' s = [s] := fun a ha =>
    Text.split_eq_singleton_iff.mpr ⟨Address.tilde_notMem_of_ofText? ha, rfl⟩
  constructor
  · intro h
    have hpieces := h
    rw [ofText] at hpieces
    split at hpieces
    · next address hs =>
      obtain ⟨-, rfl⟩ := Text.split_eq_singleton_iff.mp hs
      cases ha : readAddress address with
      | error e => rw [ha] at hpieces; cases hpieces
      | ok a =>
        rw [ha] at hpieces
        cases hpieces
        exact .inl ⟨a, readAddress_eq_ok_iff.mp ha, rfl⟩
    · next role address id domain hs =>
      obtain ⟨rfl, ha, rfl, rfl⟩ := (ofText_of_pieces hs n).mp h
      exact .inr ⟨address, hs, ha⟩
    · cases hpieces
  · rintro (⟨a, ha, rfl⟩ | ⟨address, hs, ha⟩)
    · rw [ofText, hbare a ha]
      simp only [readAddress_eq_ok_iff.mpr ha]
      rfl
    · exact (ofText_of_pieces hs n).mpr ⟨rfl, ha, rfl, rfl⟩

/-- What has been read has an address of the protocol, and its free parts are without tildes. -/
theorem isValid_of_ofText {s : String} {n : Node} (h : ofText s = .ok n) :
    n.address.IsValid ∧ '~' ∉ n.id.toList ∧ '~' ∉ n.domain.toList := by
  rcases ofText_eq_ok_iff.mp h with ⟨a, ha, rfl⟩ | ⟨address, hs, ha⟩
  · exact ⟨(Address.ofText?_cases ha).1, List.not_mem_nil, List.not_mem_nil⟩
  · have hfree : ∀ t ∈ [n.role.text, address, n.id, n.domain], '~' ∉ t.toList :=
      fun t ht => Text.notMem_of_mem_split (hs ▸ ht)
    exact ⟨(Address.ofText?_cases ha).1, hfree n.id (by simp), hfree n.domain (by simp)⟩

theorem ofText_text {n : Node} (haddress : n.address.IsValid) (hid : '~' ∉ n.id.toList)
    (hdomain : '~' ∉ n.domain.toList) : ofText n.text = .ok n := by
  have haddress' := Address.ofText?_text haddress
  have hs : Text.split '~' n.text = [n.role.text, n.address.text, n.id, n.domain] := by
    refine Text.split_join (by rfl) (by simp) ?_
    simp only [List.forall_mem_cons, List.not_mem_nil, false_implies, implies_true, and_true]
    exact ⟨n.role.tilde_notMem_text, Address.tilde_notMem_of_ofText? haddress', hid, hdomain⟩
  exact ofText_eq_ok_iff.mpr (.inr ⟨n.address.text, hs, haddress'⟩)

/-- Texts and identities agree. The identity read from a text is read again from its own text, which
is thus written as it is read; of all identities those are read back from their texts whose address
is one of the protocol and whose free parts are without tildes. And a text is read exactly if it is
an address, or is cut at its tildes into four parts of which the first is the name of a role and the
second is an address. -/
theorem text_reads_back (s : String) (n : Node) :
    (ofText s = .ok n → ofText n.text = .ok n ∧ (ofText n.text).map text = .ok n.text) ∧
    (ofText n.text = .ok n ↔
      n.address.IsValid ∧ '~' ∉ n.id.toList ∧ '~' ∉ n.domain.toList) ∧
    ((∃ m, ofText s = .ok m) ↔
      (∃ a, Address.ofText? s = some a) ∨
        ∃ role address id domain, Text.split '~' s = [Role.text role, address, id, domain] ∧
          ∃ a, Address.ofText? address = some a) := by
  have hback : ofText n.text = .ok n ↔
      n.address.IsValid ∧ '~' ∉ n.id.toList ∧ '~' ∉ n.domain.toList :=
    ⟨isValid_of_ofText, fun ⟨ha, hid, hdomain⟩ => ofText_text ha hid hdomain⟩
  refine ⟨fun h => ?_, hback, ?_⟩
  · have hsame := hback.mpr (isValid_of_ofText h)
    exact ⟨hsame, by rw [hsame]; rfl⟩
  · constructor
    · rintro ⟨m, hm⟩
      rcases ofText_eq_ok_iff.mp hm with ⟨a, ha, -⟩ | ⟨address, hs, ha⟩
      · exact .inl ⟨a, ha⟩
      · exact .inr ⟨m.role, address, m.id, m.domain, hs, m.address, ha⟩
    · rintro (⟨a, ha⟩ | ⟨role, address, id, domain, hs, a, ha⟩)
      · exact ⟨ofSidecar a, ofText_eq_ok_iff.mpr (.inl ⟨a, ha, rfl⟩)⟩
      · exact ⟨⟨role, a, id, domain⟩, ofText_eq_ok_iff.mpr (.inr ⟨address, hs, ha⟩)⟩

/-- An address with zeros left out, behind the role of a gateway. -/
theorem text_reads_back_of_gateway :
    ofText "ingress~2001:DB8:0:0::1~edge.default~default.svc" =
        .ok ⟨.ingress, .v6 [0x2001, 0xdb8, 0, 0, 0, 0, 0, 1], "edge.default", "default.svc"⟩ ∧
      ofText "ingress~2001:db8::1~edge.default~default.svc" =
        .ok ⟨.ingress, .v6 [0x2001, 0xdb8, 0, 0, 0, 0, 0, 1], "edge.default", "default.svc"⟩ := by
  have hread : ofText "ingress~2001:DB8:0:0::1~edge.default~default.svc" =
      .ok ⟨.ingress, .v6 [0x2001, 0xdb8, 0, 0, 0, 0, 0, 1], "edge.default", "default.svc"⟩ := by
    decide +kernel
  have htext : text ⟨.ingress, .v6 [0x2001, 0xdb8, 0, 0, 0, 0, 0, 1], "edge.default",
      "default.svc"⟩ = "ingress~2001:db8::1~edge.default~default.svc" := by
    decide +kernel
  exact ⟨hread, htext ▸ ((text_reads_back _ _).1 hread).1⟩

end Node

end MeshControl
