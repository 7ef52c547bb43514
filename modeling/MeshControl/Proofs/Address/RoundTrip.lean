import MeshControl.Proofs.Address.Numbers

/-!
Addresses and their texts. Every address reads back from its text, also where the text leaves zeros
out or shows groups as octets. What is read is an address, and no text that is read has a character
that addresses do not have.
-/
namespace MeshControl.Address

/-! ### Groups in a row -/

/-- Groups in the text of an address, each but the first behind a colon. -/
def groupChars (first : Bool) : List Nat → List Char
  | [] => []
  | g :: gs => (if first then [] else [':']) ++ Nat.toDigits 16 g ++ groupChars false gs

theorem toList_groupsText (groups : List Nat) :
    (groupsText groups).toList = groupChars true groups := by
  have hcons : ∀ g gs,
      (groupsText (g :: gs)).toList = Nat.toDigits 16 g ++ groupChars false gs := by
    intro g gs
    induction gs generalizing g with
    | nil => simp [groupsText, Text.join, hexText, groupChars]
    | cons g' gs ih =>
      have hrest := ih g'
      simp only [groupsText, List.map_cons] at hrest ⊢
      rw [Text.join, String.toList_append, String.toList_append, hrest]
      simp [groupChars, hexText]
  cases groups with
  | nil => rfl
  | cons g gs => exact hcons g gs

theorem mem_groupChars {first : Bool} {groups : List Nat} {c : Char}
    (h : c ∈ groupChars first groups) : c = ':' ∨ isHexDigit c = true := by
  induction groups generalizing first with
  | nil => cases h
  | cons g gs ih =>
    rw [groupChars, List.mem_append, List.mem_append] at h
    rcases h with (hsep | hdigit) | hrest
    · left
      cases first with
      | true => cases hsep
      | false => exact List.mem_singleton.mp hsep
    · exact .inr (isHexDigit_of_mem_toDigits hdigit)
    · exact ih hrest

theorem dot_notMem_groupChars (first : Bool) (groups : List Nat) :
    '.' ∉ groupChars first groups := by
  intro h
  rcases mem_groupChars h with heq | hdigit
  · exact absurd heq (by decide)
  · exact absurd hdigit (by decide)

/-- Groups end with the text, or at the two colons that stand for the zeros left out. -/
inductive EndsGroups : List Char → Prop
  | all : EndsGroups []
  | zeros (back : List Nat) : EndsGroups (':' :: ':' :: groupChars true back)

theorem EndsGroups.dot_notMem {rest : List Char} (h : EndsGroups rest) : '.' ∉ rest := by
  cases h with
  | all => exact List.not_mem_nil
  | zeros back => simp [dot_notMem_groupChars]

/-- After a group comes no further digit of it. -/
theorem EndsGroups.head?_append {rest : List Char} (h : EndsGroups rest) (groups : List Nat) :
    ∀ c ∈ (groupChars false groups ++ rest).head?, isHexDigit c = false := by
  have hcolon : isHexDigit ':' = false := by decide
  intro c hc
  cases groups with
  | nil =>
    cases h with
    | all => cases hc
    | zeros back =>
      cases hc
      exact hcolon
  | cons g gs =>
    cases hc
    exact hcolon

theorem afterColon_groupChars (first : Bool) (g : Nat) (gs : List Nat) (rest : List Char) :
    afterColon first (groupChars first (g :: gs) ++ rest) =
      some (Nat.toDigits 16 g ++ (groupChars false gs ++ rest)) := by
  cases first <;> simp [afterColon, groupChars]

theorem readGroups_groupChars (first : Bool) {room : Nat} {groups : List Nat} {rest : List Char}
    (hgroups : ∀ g ∈ groups, g < 65536) (hroom : groups.length ≤ room) (hrest : EndsGroups rest) :
    readGroups first room (groupChars first groups ++ rest) = (groups, false, rest) := by
  induction room generalizing first groups with
  | zero =>
    obtain rfl := List.eq_nil_of_length_eq_zero (Nat.le_zero.mp hroom)
    rfl
  | succ room ih =>
    cases groups with
    | nil =>
      have hquad : (afterColon first rest).bind readQuad = none := by
        cases hrest <;> cases first <;> rfl
      have hgroup : (afterColon first rest).bind readGroup = none := by
        cases hrest <;> cases first <;> rfl
      simp [groupChars, readGroups, hquad, hgroup]
    | cons g gs =>
      obtain ⟨hg, hgs⟩ := List.forall_mem_cons.mp hgroups
      have hdigits : '.' ∉ Nat.toDigits 16 g := fun h =>
        absurd (isHexDigit_of_mem_toDigits h) (by decide)
      -- A group is first tried as an octet, which would have to end at a dot.
      have hdot : '.' ∉ Nat.toDigits 16 g ++ (groupChars false gs ++ rest) := by
        simp [hdigits, dot_notMem_groupChars, hrest.dot_notMem]
      have hmore := ih false hgs (by simpa using hroom)
      rw [readGroups, afterColon_groupChars]
      simp only [Option.bind_some, readQuad_eq_none hdot, ite_self,
        readGroup_append hg (hrest.head?_append gs), hmore]

/-! ### Zeros that are left out -/

/-- A list of groups is what stands before the longest run of zeros, the run, and what stands after
it. -/
theorem exists_longestZeros (i : Nat) (groups : List Nat) :
    ∃ front back, groups = front ++ List.replicate (longestZeros i groups).2 0 ++ back ∧
      (longestZeros i groups).1 = i + front.length := by
  induction groups generalizing i with
  | nil => exact ⟨[], [], rfl, rfl⟩
  | cons g gs ih =>
    rw [longestZeros]
    split
    · have hzeros : List.replicate (zerosAhead (g :: gs)) 0 = (g :: gs).takeWhile (· == 0) := by
        refine (List.eq_replicate_of_mem fun b hb => ?_).symm
        exact beq_iff_eq.mp (List.all_eq_true.mp List.all_takeWhile b hb)
      refine ⟨[], (g :: gs).dropWhile (· == 0), ?_, rfl⟩
      rw [hzeros, List.nil_append, List.takeWhile_append_dropWhile]
    · obtain ⟨front, back, hgs, hstart⟩ := ih (i + 1)
      refine ⟨g :: front, back, ?_, ?_⟩
      · rw [List.cons_append, List.cons_append, ← hgs]
      · rw [hstart, List.length_cons]
        omega

/-- The text of groups shows all of them, or leaves at least two zeros out, or shows the last two as
octets. -/
theorem v6Text_cases (groups : List Nat) :
    (v6Text groups).toList = groupChars true groups ∨
      (∃ front back zeros, 1 < zeros ∧ groups = front ++ List.replicate zeros 0 ++ back ∧
        (v6Text groups).toList = groupChars true front ++ ':' :: ':' :: groupChars true back) ∨
      ∃ x y, groups = [0, 0, 0, 0, 0, 0xffff, x, y] ∧
        v6Text groups = "::ffff:" ++ quadText (x / 256) (x % 256) (y / 256) (y % 256) := by
  rw [v6Text.eq_def]
  split
  · next x y => exact .inr (.inr ⟨x, y, rfl, rfl⟩)
  · obtain ⟨front, back, hgroups, hstart⟩ := exists_longestZeros 0 groups
    generalize longestZeros 0 groups = run at hgroups hstart ⊢
    obtain ⟨start, zeros⟩ := run
    simp only at hgroups hstart ⊢
    rw [Nat.zero_add] at hstart
    split
    · next hzeros =>
      refine .inr (.inl ⟨front, back, zeros, hzeros, hgroups, ?_⟩)
      have hfront : groups.take start = front := by
        rw [hgroups, hstart, List.append_assoc, List.take_left]
      have hback : groups.drop (start + zeros) = back := by
        rw [hgroups, hstart]
        exact List.drop_left' (by simp)
      simp [hfront, hback, toList_groupsText]
    · exact .inl (toList_groupsText groups)

/-! ### Version 6 -/

theorem readV6_groupChars {groups : List Nat} (h : IsValid (v6 groups)) :
    readV6 (groupChars true groups) = some (groups, []) := by
  obtain ⟨hlength, hgroups⟩ := h
  have hread := readGroups_groupChars true hgroups (Nat.le_of_eq hlength) .all
  rw [List.append_nil] at hread
  simp only [readV6, hread, hlength, if_true]

/-- At least two zeros are left out, so the text has room for all other groups after them. -/
theorem readV6_shortened {front back : List Nat} {zeros : Nat}
    (h : IsValid (v6 (front ++ List.replicate zeros 0 ++ back))) (hzeros : 1 < zeros) :
    readV6 (groupChars true front ++ ':' :: ':' :: groupChars true back) =
      some (front ++ List.replicate zeros 0 ++ back, []) := by
  obtain ⟨hlength, hgroups⟩ := h
  simp only [List.length_append, List.length_replicate] at hlength
  have hfront : readGroups true 8 (groupChars true front ++ ':' :: ':' :: groupChars true back) =
      (front, false, ':' :: ':' :: groupChars true back) :=
    readGroups_groupChars true (fun g hg => hgroups g (by simp [hg])) (by omega) (.zeros back)
  have hback : readGroups true (7 - front.length) (groupChars true back ++ []) =
      (back, false, []) :=
    readGroups_groupChars true (fun g hg => hgroups g (by simp [hg])) (by omega) .all
  rw [List.append_nil] at hback
  have hshort : front.length ≠ 8 := by omega
  have hcount : 8 - front.length - back.length = zeros := by omega
  simp only [readV6, hfront, if_neg hshort, Bool.false_eq_true, if_false, hback, hcount]

theorem readV6_mapped {x y : Nat} (hx : x < 65536) (hy : y < 65536) :
    readV6 ("::ffff:" ++ quadText (x / 256) (x % 256) (y / 256) (y % 256)).toList =
      some ([0, 0, 0, 0, 0, 0xffff, x, y], []) := by
  generalize hcs : (quadText (x / 256) (x % 256) (y / 256) (y % 256)).toList = cs
  have hquad : readQuad cs = some ((x / 256, x % 256, y / 256, y % 256), []) :=
    hcs ▸ readQuad_quadText ⟨by omega, by omega, by omega, by omega⟩
  have htext : ("::ffff:" ++ quadText (x / 256) (x % 256) (y / 256) (y % 256)).toList =
      ':' :: ':' :: 'f' :: 'f' :: 'f' :: 'f' :: ':' :: cs := by
    rw [String.toList_append, hcs]
    rfl
  have hhead : ∀ r, readGroups true 8 (':' :: ':' :: r) = ([], false, ':' :: ':' :: r) :=
    fun _ => rfl
  have hlast : readGroups false 6 (':' :: cs) = ([x, y], true, []) := by
    simp only [readGroups, afterColon, Bool.false_eq_true, if_false, Option.bind_some, hquad]
    simp [Nat.div_add_mod']
  have htail : readGroups true 7 ('f' :: 'f' :: 'f' :: 'f' :: ':' :: cs) =
      (0xffff :: (readGroups false 6 (':' :: cs)).1, (readGroups false 6 (':' :: cs)).2) := rfl
  rw [hlast] at htail
  rw [htext, readV6, hhead]
  simp only [List.length_nil, Nat.sub_zero, htail]
  rfl

theorem readV6_v6Text {groups : List Nat} (h : IsValid (v6 groups)) :
    readV6 (v6Text groups).toList = some (groups, []) := by
  rcases v6Text_cases groups with hall | ⟨front, back, zeros, hzeros, rfl, hshort⟩ |
    ⟨x, y, rfl, hmapped⟩
  · rw [hall]
    exact readV6_groupChars h
  · rw [hshort]
    exact readV6_shortened h hzeros
  · rw [hmapped]
    exact readV6_mapped (h.2 x (by simp)) (h.2 y (by simp))

/-- The text of groups is not taken for four octets. -/
theorem readQuad_v6Text (groups : List Nat) : readQuad (v6Text groups).toList = none := by
  rcases v6Text_cases groups with hall | ⟨front, back, zeros, -, -, hshort⟩ | ⟨x, y, -, hmapped⟩
  · rw [hall]
    exact readQuad_eq_none (dot_notMem_groupChars true groups)
  · rw [hshort]
    exact readQuad_eq_none (by simp [dot_notMem_groupChars])
  · rw [hmapped, String.toList_append]
    rfl

/-- Every address reads back from its text. -/
theorem ofText?_text {a : Address} (h : a.IsValid) : ofText? a.text = some a := by
  cases a with
  | v4 a b c d => simp only [ofText?, text, readQuad_quadText h]
  | v6 groups => simp only [ofText?, text, readQuad_v6Text, readV6_v6Text h]

/-! ### What is read -/

theorem keeps_afterColon {first : Bool} {cs rest : List Char}
    (h : afterColon first cs = some rest) : Keeps cs rest := by
  rw [afterColon.eq_def] at h
  split at h
  · exact Option.some.inj h ▸ .refl cs
  · split at h
    · exact Option.some.inj h ▸ keeps_cons (by decide) _
    · cases h

/-- What comes of reading groups: no more than there is room for, each of 16 bits, and nothing is
passed over that addresses do not have. -/
structure GroupsRead (room : Nat) (cs : List Char) (result : List Nat × Bool × List Char) :
    Prop where
  length : result.1.length ≤ room
  bits : ∀ g ∈ result.1, g < 65536
  keeps : Keeps cs result.2.2

theorem GroupsRead.nothing (room : Nat) (cs : List Char) : GroupsRead room cs ([], false, cs) :=
  ⟨Nat.zero_le room, fun _ hg => absurd hg List.not_mem_nil, .refl cs⟩

theorem groupsRead_readGroups (first : Bool) (room : Nat) (cs : List Char) :
    GroupsRead room cs (readGroups first room cs) := by
  induction room generalizing first cs with
  | zero => exact .nothing 0 cs
  | succ room ih =>
    rw [readGroups]
    split
    · next a b c d rest hquad =>
      rw [Option.ite_none_right_eq_some, Option.bind_eq_some_iff] at hquad
      obtain ⟨hroom, r, hr, hquad⟩ := hquad
      obtain ⟨ha, hb, hc, hd⟩ := isValid_of_readQuad hquad
      refine ⟨Nat.succ_le_succ hroom, fun g hg => ?_,
        (keeps_afterColon hr).trans (keeps_readQuad hquad)⟩
      simp only [List.mem_cons, List.not_mem_nil, or_false] at hg
      omega
    · split
      · next g rest hgroup =>
        obtain ⟨r, hr, hgroup⟩ := Option.bind_eq_some_iff.mp hgroup
        obtain ⟨hlength, hbits, hkeeps⟩ := ih false rest
        exact ⟨Nat.succ_le_succ hlength,
          List.forall_mem_cons.mpr ⟨(readGroup_cases hgroup).1, hbits⟩,
          ((keeps_afterColon hr).trans (keeps_readGroup hgroup)).trans hkeeps⟩
      · exact .nothing _ cs

/-- Eight groups are read, with zeros in the place of those that are left out. -/
theorem readV6_cases {cs rest : List Char} {groups : List Nat}
    (h : readV6 cs = some (groups, rest)) : IsValid (v6 groups) ∧ Keeps cs rest := by
  have hhead := groupsRead_readGroups true 8 cs
  rw [readV6] at h
  generalize readGroups true 8 cs = result at hhead h
  obtain ⟨head, quad, after⟩ := result
  obtain ⟨hroom, hbits, hkeeps⟩ := hhead
  simp only at h hroom hbits hkeeps
  split at h
  · next hlength =>
    obtain ⟨rfl, rfl⟩ := Prod.mk.inj (Option.some.inj h)
    exact ⟨⟨hlength, hbits⟩, hkeeps⟩
  · next hlength =>
    split at h
    · cases h
    · split at h
      · next cs =>
        have htail := groupsRead_readGroups true (7 - head.length) cs
        generalize readGroups true (7 - head.length) cs = result at htail h
        obtain ⟨tail, quad', last⟩ := result
        obtain ⟨hroom', hbits', hkeeps'⟩ := htail
        simp only at hroom' hbits' hkeeps'
        obtain ⟨rfl, rfl⟩ := Prod.mk.inj (Option.some.inj h)
        have hcolon : ∀ r, Keeps (':' :: r) r := keeps_cons (by decide)
        refine ⟨⟨?_, fun g hg => ?_⟩, hkeeps.trans (((hcolon _).trans (hcolon _)).trans hkeeps')⟩
        · simp only [List.length_append, List.length_replicate]
          omega
        · rw [List.mem_append, List.mem_append] at hg
          rcases hg with (hg | hzero) | hg
          · exact hbits g hg
          · rw [List.eq_of_mem_replicate hzero]
            decide
          · exact hbits' g hg
      · cases h

/-- What is read is an address, and its text has the characters of addresses only. -/
theorem ofText?_cases {s : String} {a : Address} (h : ofText? s = some a) :
    a.IsValid ∧ ∀ c ∈ s.toList, isAddressChar c = true := by
  have hall : Keeps s.toList [] → ∀ c ∈ s.toList, isAddressChar c = true := by
    intro hkeeps c hc
    by_contra hother
    exact List.not_mem_nil (hkeeps c (Bool.eq_false_iff.mpr hother) hc)
  rw [ofText?] at h
  split at h
  · next a b c d hquad =>
    obtain rfl := Option.some.inj h
    exact ⟨isValid_of_readQuad hquad, hall (keeps_readQuad hquad)⟩
  · cases h
  · split at h
    · next groups hgroups =>
      obtain rfl := Option.some.inj h
      obtain ⟨hvalid, hkeeps⟩ := readV6_cases hgroups
      exact ⟨hvalid, hall hkeeps⟩
    · cases h

end MeshControl.Address
