import Mathlib.Data.Nat.Digits.Defs
import MeshControl.Address

/-!
Numbers in the texts of addresses. An octet is read as far as its decimal digits go and a group as
far as its hexadecimal ones, so each reads back from its text where no further digit follows, and
nothing that addresses do not have is passed over.
-/
namespace MeshControl

/-- Digits that are followed by none are all that is taken of at most `k` characters. -/
theorem takeWhile_take_append {p : Char → Bool} {ds rest : List Char} {k : Nat}
    (hds : ∀ c ∈ ds, p c = true) (hlength : ds.length ≤ k)
    (hrest : ∀ c ∈ rest.head?, p c = false) : ((ds ++ rest).take k).takeWhile p = ds := by
  have hnone : (rest.take (k - ds.length)).takeWhile p = [] := by
    cases rest with
    | nil => rw [List.take_nil, List.takeWhile_nil]
    | cons c rest =>
      cases k - ds.length with
      | zero => rfl
      | succ m =>
        rw [List.take_succ_cons, List.takeWhile_cons_of_neg]
        rw [hrest c rfl]
        exact Bool.false_ne_true
  rw [List.take_append, List.take_of_length_le hlength, List.takeWhile_append_of_pos hds, hnone,
    List.append_nil]

/-- What is not taken stays. -/
theorem mem_drop_takeWhile {p : Char → Bool} {x : Char} {cs : List Char} (hx : p x = false)
    (h : x ∈ cs) (k : Nat) : x ∈ cs.drop ((cs.take k).takeWhile p).length := by
  have hprefix : (cs.take k).takeWhile p <+: cs :=
    (List.takeWhile_prefix p).trans (List.take_prefix k cs)
  have htaken := List.prefix_iff_eq_take.mp hprefix
  rw [← List.take_append_drop ((cs.take k).takeWhile p).length cs, List.mem_append, ← htaken] at h
  refine h.resolve_left fun hmem => ?_
  rw [List.all_eq_true.mp List.all_takeWhile x hmem] at hx
  cases hx

namespace Address

/-- Octets have 8 bits, and there are eight groups of 16 bits. -/
def IsValid : Address → Prop
  | v4 a b c d => a < 256 ∧ b < 256 ∧ c < 256 ∧ d < 256
  | v6 groups => groups.length = 8 ∧ ∀ g ∈ groups, g < 65536

/-! ### Characters of addresses -/

def isAddressChar (c : Char) : Bool := isHexDigit c || c == '.' || c == ':'

/-- Nothing is passed over that addresses do not have. -/
def Keeps (cs rest : List Char) : Prop := ∀ c, isAddressChar c = false → c ∈ cs → c ∈ rest

theorem Keeps.refl (cs : List Char) : Keeps cs cs := fun _ _ hc => hc

theorem Keeps.trans {cs rest last : List Char} (h : Keeps cs rest) (h' : Keeps rest last) :
    Keeps cs last := fun c hc hmem => h' c hc (h c hc hmem)

theorem keeps_cons {c : Char} (hc : isAddressChar c = true) (cs : List Char) :
    Keeps (c :: cs) cs := by
  intro x hx hmem
  refine (List.mem_cons.mp hmem).resolve_left ?_
  rintro rfl
  cases hc.symm.trans hx

theorem keeps_drop_takeWhile {p : Char → Bool} (hp : ∀ c, p c = true → isHexDigit c = true)
    (cs : List Char) (k : Nat) : Keeps cs (cs.drop ((cs.take k).takeWhile p).length) := by
  intro c hc hmem
  refine mem_drop_takeWhile (Bool.eq_false_iff.mpr fun hdigit => ?_) hmem k
  rw [isAddressChar, hp c hdigit] at hc
  cases hc

/-! ### Octets -/

/-- A number does not begin with a zero unless it is zero. -/
theorem head?_toDigits_ne {b n : Nat} (hb : 1 < b) (hn : 0 < n) :
    (Nat.toDigits b n).head? ≠ some '0' := by
  induction n using Nat.strongRecOn with
  | _ n ih =>
    rw [Nat.toDigits_eq_if hb]
    split
    · rw [List.head?_singleton, ne_eq, Option.some.injEq, Nat.digitChar_eq_zero]
      exact Nat.ne_of_gt hn
    · next hle =>
      have hdiv : 0 < n / b := Nat.div_pos (Nat.le_of_not_lt hle) (by omega)
      rw [List.head?_append, List.head?_eq_some_head Nat.toDigits_ne_nil, Option.some_or,
        ← List.head?_eq_some_head Nat.toDigits_ne_nil]
      exact ih (n / b) (Nat.div_lt_self hn hb) hdiv

theorem readOctet_append {n : Nat} (hn : n < 256) {rest : List Char}
    (hrest : ∀ c ∈ rest.head?, c.isDigit = false) :
    readOctet (Nat.toDigits 10 n ++ rest) = some (n, rest) := by
  have hdigits : ∀ c ∈ Nat.toDigits 10 n, c.isDigit = true :=
    fun c hc => Nat.isDigit_of_mem_toDigits (by decide) (by decide) hc
  have hlength : (Nat.toDigits 10 n).length ≤ 3 :=
    (Nat.length_toDigits_le_iff (by decide) (by decide)).mpr (by omega)
  have hvalue : Decimal.digitsValue (Nat.toDigits 10 n) = n := Nat.ofDigitChars_ten_toDigits
  have hplain : ¬ (Nat.toDigits 10 n = [] ∨ 255 < n ∨
      (1 < (Nat.toDigits 10 n).length ∧ (Nat.toDigits 10 n).head? = some '0')) := by
    rintro (hnil | hbig | ⟨hlong, hzero⟩)
    · exact Nat.toDigits_ne_nil hnil
    · omega
    · rcases Nat.eq_zero_or_pos n with rfl | hpos
      · exact absurd hlong (by decide)
      · exact head?_toDigits_ne (by decide) hpos hzero
  simp only [readOctet, takeWhile_take_append hdigits hlength hrest, hvalue, if_neg hplain,
    List.drop_left]

theorem readOctet_cases {cs rest : List Char} {n : Nat} (h : readOctet cs = some (n, rest)) :
    n < 256 ∧ rest = cs.drop ((cs.take 3).takeWhile Char.isDigit).length := by
  simp only [readOctet] at h
  split at h
  · cases h
  · next hplain =>
    obtain ⟨rfl, rfl⟩ := Prod.mk.inj (Option.some.inj h)
    exact ⟨by omega, rfl⟩

theorem keeps_readOctet {cs rest : List Char} {n : Nat} (h : readOctet cs = some (n, rest)) :
    Keeps cs rest := by
  rw [(readOctet_cases h).2]
  exact keeps_drop_takeWhile (fun c hc => by simp [isHexDigit, hc]) cs 3

theorem readDot_eq_some_iff {cs rest : List Char} : readDot cs = some rest ↔ cs = '.' :: rest := by
  rw [readDot.eq_def]
  split
  · simp
  · next hdot =>
    constructor
    · intro h
      cases h
    · rintro rfl
      exact absurd rfl (hdot rest)

/-! ### Version 4 -/

theorem toList_quadText (a b c d : Nat) :
    (quadText a b c d).toList = Nat.toDigits 10 a ++ '.' :: (Nat.toDigits 10 b ++
      '.' :: (Nat.toDigits 10 c ++ '.' :: Nat.toDigits 10 d)) := by
  simp [quadText, ToString.toString]

theorem readQuad_quadText {a b c d : Nat} (h : IsValid (v4 a b c d)) :
    readQuad (quadText a b c d).toList = some ((a, b, c, d), []) := by
  obtain ⟨ha, hb, hc, hd⟩ := h
  have hdot : ∀ (cs : List Char), ∀ x ∈ ('.' :: cs).head?, x.isDigit = false := by
    rintro cs x ⟨⟩
    rfl
  have hlast : readOctet (Nat.toDigits 10 d ++ []) = some (d, []) :=
    readOctet_append hd fun x hx => by cases hx
  rw [List.append_nil] at hlast
  rw [toList_quadText, readQuad]
  simp only [readOctet_append ha (hdot _), readOctet_append hb (hdot _),
    readOctet_append hc (hdot _), hlast, readDot, bind, Option.bind, pure]

/-- All that reading four octets does. -/
theorem readQuad_cases {cs rest : List Char} {q : Nat × Nat × Nat × Nat}
    (h : readQuad cs = some (q, rest)) :
    ∃ r₁ r₂ r₃, readOctet cs = some (q.1, '.' :: r₁) ∧ readOctet r₁ = some (q.2.1, '.' :: r₂) ∧
      readOctet r₂ = some (q.2.2.1, '.' :: r₃) ∧ readOctet r₃ = some (q.2.2.2, rest) := by
  simp only [readQuad, Option.bind_eq_bind, Option.bind_eq_some_iff, Option.pure_def,
    Option.some.injEq, Prod.exists, Prod.mk.injEq, readDot_eq_some_iff] at h
  obtain ⟨a, _, ha, _, rfl, b, _, hb, _, rfl, c, _, hc, _, rfl, d, _, hd, rfl, rfl⟩ := h
  exact ⟨_, _, _, ha, hb, hc, hd⟩

theorem isValid_of_readQuad {cs rest : List Char} {a b c d : Nat}
    (h : readQuad cs = some ((a, b, c, d), rest)) : IsValid (v4 a b c d) := by
  obtain ⟨_, _, _, ha, hb, hc, hd⟩ := readQuad_cases h
  exact ⟨(readOctet_cases ha).1, (readOctet_cases hb).1, (readOctet_cases hc).1,
    (readOctet_cases hd).1⟩

theorem keeps_readQuad {cs rest : List Char} {q : Nat × Nat × Nat × Nat}
    (h : readQuad cs = some (q, rest)) : Keeps cs rest := by
  obtain ⟨r₁, r₂, r₃, ha, hb, hc, hd⟩ := readQuad_cases h
  have hdot : ∀ r, Keeps ('.' :: r) r := keeps_cons (by decide)
  have h₁ : Keeps cs r₁ := (keeps_readOctet ha).trans (hdot r₁)
  have h₂ : Keeps r₁ r₂ := (keeps_readOctet hb).trans (hdot r₂)
  have h₃ : Keeps r₂ r₃ := (keeps_readOctet hc).trans (hdot r₃)
  exact ((h₁.trans h₂).trans h₃).trans (keeps_readOctet hd)

/-- Four octets have dots between them. -/
theorem readQuad_eq_none {cs : List Char} (h : '.' ∉ cs) : readQuad cs = none := by
  refine Option.eq_none_iff_forall_ne_some.mpr fun q hq => h ?_
  obtain ⟨r, -, -, hfirst, -⟩ := readQuad_cases hq
  exact List.mem_of_mem_drop ((readOctet_cases hfirst).2 ▸ List.mem_cons_self)

/-! ### Groups -/

theorem isHexDigit_digitChar {d : Nat} (h : d < 16) : isHexDigit d.digitChar = true := by
  revert d
  decide

theorem hexDigitValue_digitChar {d : Nat} (h : d < 16) : hexDigitValue d.digitChar = d := by
  revert d
  decide

theorem isHexDigit_of_mem_toDigits {n : Nat} {c : Char} (h : c ∈ Nat.toDigits 16 n) :
    isHexDigit c = true := by
  induction n using Nat.strongRecOn with
  | _ n ih =>
    rw [Nat.toDigits_eq_if (by decide)] at h
    split at h
    · next hlt => exact List.mem_singleton.mp h ▸ isHexDigit_digitChar hlt
    · rcases List.mem_append.mp h with h | h
      · exact ih (n / 16) (by omega) h
      · exact List.mem_singleton.mp h ▸ isHexDigit_digitChar (Nat.mod_lt n (by decide))

/-- The number that hexadecimal digits write after those of `n`. -/
def hexValueFrom (n : Nat) (cs : List Char) : Nat :=
  cs.foldl (fun n c => 16 * n + hexDigitValue c) n

theorem hexValueFrom_toDigits (n : Nat) : hexValueFrom 0 (Nat.toDigits 16 n) = n := by
  induction n using Nat.strongRecOn with
  | _ n ih =>
    rw [Nat.toDigits_eq_if (by decide)]
    split
    · next hlt => simp [hexValueFrom, hexDigitValue_digitChar hlt]
    · have hlast := hexDigitValue_digitChar (Nat.mod_lt n (show 16 > 0 by decide))
      have hrest := ih (n / 16) (by omega)
      rw [hexValueFrom] at hrest
      rw [hexValueFrom, List.foldl_append, hrest, List.foldl_cons, List.foldl_nil, hlast]
      exact Nat.div_add_mod n 16

theorem hexDigitValue_lt {c : Char} (h : isHexDigit c = true) : hexDigitValue c < 16 := by
  have hcode : ∀ d e : Char, d ≤ e ↔ d.toNat ≤ e.toNat := fun _ _ => UInt32.le_iff_toNat_le
  have hcodes : '9'.toNat = 57 ∧ 'a'.toNat = 97 ∧ 'f'.toNat = 102 ∧ 'F'.toNat = 70 := by decide
  simp only [isHexDigit, Char.isDigit_iff_toNat, Bool.or_eq_true, Bool.and_eq_true,
    decide_eq_true_eq, hcode] at h
  simp only [hexDigitValue, Char.isDigit_iff_toNat, hcode]
  split
  · omega
  · split <;> omega

/-- Each digit makes room for a factor of 16. -/
theorem hexValueFrom_lt {cs : List Char} (h : ∀ c ∈ cs, isHexDigit c = true) (n : Nat) :
    hexValueFrom n cs < 16 ^ cs.length * (n + 1) := by
  induction cs generalizing n with
  | nil => simp [hexValueFrom]
  | cons c cs ih =>
    obtain ⟨hc, hcs⟩ := List.forall_mem_cons.mp h
    have hdigit := hexDigitValue_lt hc
    calc hexValueFrom (16 * n + hexDigitValue c) cs
        < 16 ^ cs.length * (16 * n + hexDigitValue c + 1) := ih hcs _
      _ ≤ 16 ^ cs.length * (16 * (n + 1)) := Nat.mul_le_mul_left _ (by omega)
      _ = 16 ^ (c :: cs).length * (n + 1) := by rw [List.length_cons, Nat.pow_succ, Nat.mul_assoc]

theorem readGroup_append {g : Nat} (hg : g < 65536) {rest : List Char}
    (hrest : ∀ c ∈ rest.head?, isHexDigit c = false) :
    readGroup (Nat.toDigits 16 g ++ rest) = some (g, rest) := by
  have hlength : (Nat.toDigits 16 g).length ≤ 4 :=
    (Nat.length_toDigits_le_iff (by decide) (by decide)).mpr (by omega)
  have hvalue := hexValueFrom_toDigits g
  rw [hexValueFrom] at hvalue
  simp only [readGroup, takeWhile_take_append (fun c => isHexDigit_of_mem_toDigits) hlength hrest,
    if_neg Nat.toDigits_ne_nil, hvalue, List.drop_left]

theorem readGroup_cases {cs rest : List Char} {g : Nat} (h : readGroup cs = some (g, rest)) :
    g < 65536 ∧ rest = cs.drop ((cs.take 4).takeWhile isHexDigit).length := by
  simp only [readGroup] at h
  split at h
  · cases h
  · obtain ⟨rfl, rfl⟩ := Prod.mk.inj (Option.some.inj h)
    have hdigits : ∀ c ∈ (cs.take 4).takeWhile isHexDigit, isHexDigit c = true :=
      List.all_eq_true.mp List.all_takeWhile
    have hbound := hexValueFrom_lt hdigits 0
    rw [Nat.zero_add, Nat.mul_one] at hbound
    have hlength : ((cs.take 4).takeWhile isHexDigit).length ≤ 4 :=
      (List.takeWhile_prefix _).length_le.trans (by simp)
    exact ⟨hbound.trans_le (Nat.pow_le_pow_right (by decide) hlength), rfl⟩

theorem keeps_readGroup {cs rest : List Char} {g : Nat} (h : readGroup cs = some (g, rest)) :
    Keeps cs rest := by
  rw [(readGroup_cases h).2]
  exact keeps_drop_takeWhile (fun _ hc => hc) cs 4

end Address

end MeshControl
