import MeshControl.Proofs.Rule.RoundTrip

/-!
Rules and policies come through messages unchanged. What a message says is a value, and the message
made of the value says the same: the value is decoded from it again, and neither the key nor the
problems of the content tell the two messages apart.
-/
namespace MeshControl.Config

open Decode

variable {α : Type} [Spec α]

theorem Message.decode_eq_ok_iff {m : Message} {a : α} :
    m.decode α = .ok a ↔ m.name = Spec.messageName α ∧ Spec.decode m.value = .ok a := by
  unfold Message.decode
  by_cases hname : m.name = Spec.messageName α
  · rw [if_pos hname]
    cases hvalue : (Spec.decode m.value : Decoded α) <;> simp [hname]
  · simp [hname]

/-- A schema looks at the value in a message and at nothing else. -/
theorem Schema.of_congr {m m' : Message} {a : α} (h : m.decode α = .ok a)
    (h' : m'.decode α = .ok a) (type plural : String) :
    (Schema.of α type plural).key m = (Schema.of α type plural).key m' ∧
      (Schema.of α type plural).validate m = (Schema.of α type plural).validate m' := by
  have hname := (Message.decode_eq_ok_iff.mp h).1
  have hname' := (Message.decode_eq_ok_iff.mp h').1
  simp [Schema.key, Schema.validate, Schema.of, h, h', hname, hname']

/-- Messages carry the values of a type. -/
structure Carries (α : Type) [Spec α] (IsWritable : α → Prop) : Prop where
  /-- A value is decoded from the message that it is encoded as. -/
  decode_encode : ∀ a : α, IsWritable a → (Message.encode a).decode α = .ok a
  /-- A value that is decoded from some message is decoded from its own message as well, and both
  messages have one key and the same problems. -/
  reencode : ∀ (m : Message) (a : α), m.value.isFinite = true → m.decode α = .ok a →
    (Message.encode a).decode α = .ok a ∧ ∀ type plural,
      (Schema.of α type plural).key (Message.encode a) = (Schema.of α type plural).key m ∧
        (Schema.of α type plural).validate (Message.encode a) =
          (Schema.of α type plural).validate m

/-- A type is carried by messages if its reader inverts its writer. -/
theorem Carries.of_inverts {write : α → Json} {IsWritable : α → Prop}
    (h : Inverts (Spec.decode : Json → Decoded α) write IsWritable)
    (hencode : ∀ a : α, Spec.encode a = (write a).normalize) : Carries α IsWritable := by
  have hback : ∀ a, IsWritable a → (Message.encode a).decode α = .ok a := by
    intro a ha
    refine Message.decode_eq_ok_iff.mpr ⟨rfl, ?_⟩
    rw [Message.encode, hencode]
    exact h.read_write a ha
  refine ⟨hback, ?_⟩
  intro m a hfinite hdecode
  have hwritable := h.yields m.value hfinite a (Message.decode_eq_ok_iff.mp hdecode).2
  exact ⟨hback a hwritable, Schema.of_congr (hback a hwritable) hdecode⟩

/-- Messages carry route rules, ingress rules and destination policies whose numbers fit into their
fields. -/
theorem messages_carry_rules :
    Carries RouteRule RouteRule.IsWritable ∧ Carries IngressRule IngressRule.IsWritable ∧
      Carries DestinationPolicy DestinationPolicy.IsWritable :=
  ⟨.of_inverts RouteRule.inverts fun _ => rfl, .of_inverts IngressRule.inverts fun _ => rfl,
    .of_inverts DestinationPolicy.inverts fun _ => rfl⟩

/-- An ingress rule with all parts that a rule can have. -/
def elaborateRule : IngressRule where
  rule := {
    name := "canary"
    destination := "reviews.local"
    precedence := -1
    condition := some ⟨some "productpage.local", .ofList [("version", "v1")],
      .ofList [("uri", .startingWith "/api"), ("cookie", .matching "user=.*")]⟩
    routes := [⟨none, .ofList [("version", "v2")], 75⟩, ⟨some "ratings.local", .empty, 25⟩]
    timeout := some ⟨some 1.5⟩
    retries := some ⟨some ⟨3, 0.0⟩⟩
    requestFault := some ⟨some ⟨12.5, 0.25⟩, some ⟨0.0, 503⟩, .ofList [("cookie", .exactly "a")]⟩
    connectionFault := some ⟨some ⟨5.5, 1000, 0⟩, some ⟨100.0, 2.0⟩⟩ }
  portName := none
  portNumber := some 8080
  secret := some "ingress-cert"

/-- A policy in a short form: a list instead of an object, and a whole number of seconds. -/
def terseMessage : Message where
  name := "pilot.v1.DestinationPolicy"
  value := .arr [.str "reviews.local", .arr [.obj [
    ("circuitBreaker", .obj [("simpleCb", .obj [("sleepWindowSeconds", .int 5)])])]]]

def tersePolicy : DestinationPolicy where
  destination := "reviews.local"
  versions := [
    ⟨.empty, none, some ⟨some { CircuitLimits.none with sleepWindowSeconds := 5.0 }⟩⟩]

theorem elaborate_rule_comes_through :
    elaborateRule.IsWritable ∧
      (Message.encode elaborateRule).decode IngressRule = .ok elaborateRule ∧
      terseMessage.decode DestinationPolicy = .ok tersePolicy ∧
      (Message.encode tersePolicy).decode DestinationPolicy = .ok tersePolicy := by
  have hwritable : elaborateRule.IsWritable := by
    refine ⟨⟨by decide, ?_, ?_, ?_, ?_, ?_⟩, ?_⟩
    · have hfirst : IsInt32 75 := by decide
      have hsecond : IsInt32 25 := by decide
      exact List.forall_mem_cons.mpr ⟨hfirst, List.forall_mem_singleton.mpr hsecond⟩
    · rintro _ ⟨⟩ _ ⟨⟩
      decide
    · rintro _ ⟨⟩ _ ⟨⟩
      exact ⟨by decide, by decide⟩
    · rintro _ ⟨⟩
      constructor <;> rintro _ ⟨⟩ <;> exact ⟨by decide, by decide⟩
    · rintro _ ⟨⟩
      constructor <;> rintro _ ⟨⟩
      · exact ⟨by decide, by decide, by decide⟩
      · exact ⟨by decide, by decide⟩
    · rintro _ ⟨⟩
      decide
  have hdecode : terseMessage.decode DestinationPolicy = .ok tersePolicy := by
    rfl
  exact ⟨hwritable, messages_carry_rules.2.1.decode_encode _ hwritable, hdecode,
    (messages_carry_rules.2.2.reencode _ _ rfl hdecode).1⟩

end MeshControl.Config
