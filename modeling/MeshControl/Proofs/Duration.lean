import Mathlib.Algebra.Ring.Nat
import Mathlib.Tactic.Conv
import MeshControl.Duration
import MeshControl.Validation

/-!
Which texts reading a duration comes to an end on. A text is a row of components, each a number
and its unit. Only a minus sign before the first number is looked for. A component after it that
is negative, or a total of more seconds than fit 64 bits, ends the program, unless a component
before it cannot be read; one so near to zero that its seconds round to it is taken for nothing.
Rounding a duration up to whole seconds overflows above the last whole number of seconds.
-/
namespace MeshControl.Duration

/-! ### Components -/

structure Component where
  number : List Char
  unit : List Char
deriving DecidableEq

def Component.chars (c : Component) : List Char := c.number ++ c.unit

theorem length_after_unit_lt {cs : List Char}
    (h : cs.dropWhile (!Text.isAlphabetic ·) ≠ []) :
    ((cs.dropWhile (!Text.isAlphabetic ·)).dropWhile Text.isAlphabetic).length < cs.length := by
  have hshort : (cs.dropWhile (!Text.isAlphabetic ·)).length ≤ cs.length :=
    (List.dropWhile_suffix _).length_le
  have hhead := List.head_dropWhile_not (!Text.isAlphabetic ·) h
  cases htail : cs.dropWhile (!Text.isAlphabetic ·) with
  | nil => exact absurd htail h
  | cons c tail =>
    simp only [htail, List.head_cons, Bool.not_eq_false'] at hhead
    rw [htail, List.length_cons] at hshort
    have hrest : (tail.dropWhile Text.isAlphabetic).length ≤ tail.length :=
      (List.dropWhile_suffix _).length_le
    rw [List.dropWhile_cons_of_pos hhead]
    omega

/-- The components of a text, and what is left without a unit at its end. -/
def components (cs : List Char) : List Component × List Char :=
  if _h : cs.dropWhile (!Text.isAlphabetic ·) = [] then ([], cs)
  else
    let tail := cs.dropWhile (!Text.isAlphabetic ·)
    let later := components (tail.dropWhile Text.isAlphabetic)
    (⟨cs.takeWhile (!Text.isAlphabetic ·), tail.takeWhile Text.isAlphabetic⟩ :: later.1, later.2)
termination_by cs.length
decreasing_by exact length_after_unit_lt _h

/-- Nothing of the text is lost. -/
theorem components_joined (cs : List Char) :
    (components cs).1.flatMap Component.chars ++ (components cs).2 = cs := by
  induction cs using components.induct with
  | case1 cs htail =>
    rw [components, dif_pos htail]
    rfl
  | case2 cs htail tail ih =>
    rw [components, dif_neg htail]
    simp only [List.flatMap_cons, Component.chars, List.append_assoc]
    rw [ih, List.takeWhile_append_dropWhile, List.takeWhile_append_dropWhile]

/-- The seconds that a component stands for. -/
def Component.seconds (c : Component) : Except ReadError Float :=
  match readNumber c.number with
  | .error e => .error e
  | .ok x =>
    match unitSeconds? c.unit with
    | none => .error .invalidUnit
    | some unit => .ok (x * unit)

/-- The number that is written is below zero, whatever double it is read as. -/
def Component.IsNegative (c : Component) : Prop :=
  ∃ w, Decimal.read c.number = some w ∧ w.negative = true ∧ w.decimal.digits ≠ 0

/-- The numbers of seconds up to the first component that cannot be read. -/
def readable : List Component → List Float
  | [] => []
  | c :: parts =>
    match c.seconds with
    | .error _ => []
    | .ok x => x :: readable parts

/-- One more component on top of a total. -/
def add (total : Duration) (c : Component) : Except ReadError Duration :=
  match c.seconds with
  | .error e => .error e
  | .ok x =>
    match ofFloatSeconds? x with
    | none => .error .outOfRange
    | some d =>
      if total.nanos + d.nanos < limit then .ok ⟨total.nanos + d.nanos⟩ else .error .outOfRange

theorem readComponents_step {fuel : Nat} {total : Duration} {cs : List Char}
    (htail : cs.dropWhile (!Text.isAlphabetic ·) ≠ []) :
    readComponents (fuel + 1) total cs =
      add total ⟨cs.takeWhile (!Text.isAlphabetic ·),
          (cs.dropWhile (!Text.isAlphabetic ·)).takeWhile Text.isAlphabetic⟩ >>= fun next =>
        readComponents fuel next
          ((cs.dropWhile (!Text.isAlphabetic ·)).dropWhile Text.isAlphabetic) := by
  cases cs with
  | nil => exact absurd rfl htail
  | cons c cs =>
    conv_lhs => unfold readComponents
    rw [if_neg htail]
    unfold add Component.seconds
    cases readNumber ((c :: cs).takeWhile (!Text.isAlphabetic ·)) with
    | error e => rfl
    | ok x =>
      dsimp only
      cases unitSeconds? (((c :: cs).dropWhile (!Text.isAlphabetic ·)).takeWhile
          Text.isAlphabetic) with
      | none => rfl
      | some unit =>
        dsimp only
        cases ofFloatSeconds? (x * unit) with
        | none => rfl
        | some d =>
          dsimp only
          split <;> rfl

/-- Reading adds up the components of a text, and then looks for what is left. -/
theorem readComponents_eq {fuel : Nat} {total : Duration} {cs : List Char}
    (hfuel : cs.length ≤ fuel) :
    readComponents fuel total cs = (components cs).1.foldlM add total >>= fun d =>
      if (components cs).2 = [] then .ok d else .error .noUnit := by
  induction fuel generalizing total cs with
  | zero =>
    obtain rfl := List.eq_nil_of_length_eq_zero (by omega : cs.length = 0)
    rw [components]
    rfl
  | succ fuel ih =>
    by_cases htail : cs.dropWhile (!Text.isAlphabetic ·) = []
    · rw [components, dif_pos htail]
      cases cs with
      | nil => rfl
      | cons c cs =>
        unfold readComponents
        rw [if_pos htail]
        rfl
    · have hshort := length_after_unit_lt htail
      rw [readComponents_step htail, components, dif_neg htail, List.foldlM_cons]
      dsimp only
      rw [bind_assoc]
      congr 1
      funext next
      exact ih (by omega)

/-! ### Totals -/

/-- The nanoseconds nearest to a number of seconds. -/
def nearestNanos (x : Float) : Nat :=
  match Decimal.Dyadic.ofFloat? x with
  | none => 0
  | some d => Decimal.roundHalfEven (d.ratio.1 * nanosPerSecond) d.ratio.2

/-- Numbers of seconds that are neither negative nor infinite, and that come to less than 2^64
together with the nanoseconds before them. -/
structure Fits (before : Nat) (xs : List Float) : Prop where
  nonneg : ∀ x ∈ xs, ¬ x < 0.0
  finite : ∀ x ∈ xs, (Decimal.Dyadic.ofFloat? x).isSome = true
  total : before + (xs.map nearestNanos).sum < limit

theorem fits_nil_iff {before : Nat} : Fits before [] ↔ before < limit := by
  constructor
  · intro h
    simpa using h.total
  · intro h
    exact ⟨by simp, by simp, by simpa using h⟩

theorem fits_cons_iff {before : Nat} {x : Float} {xs : List Float} :
    Fits before (x :: xs) ↔ Fits before [x] ∧ Fits (before + nearestNanos x) xs := by
  constructor
  · rintro ⟨hnonneg, hfinite, htotal⟩
    rw [List.map_cons, List.sum_cons] at htotal
    refine ⟨⟨?_, ?_, ?_⟩, ⟨?_, ?_, ?_⟩⟩
    · exact fun y hy => hnonneg y (List.mem_singleton.mp hy ▸ List.mem_cons_self)
    · exact fun y hy => hfinite y (List.mem_singleton.mp hy ▸ List.mem_cons_self)
    · simp only [List.map_cons, List.map_nil, List.sum_singleton]
      omega
    · exact fun y hy => hnonneg y (List.mem_cons_of_mem x hy)
    · exact fun y hy => hfinite y (List.mem_cons_of_mem x hy)
    · omega
  · rintro ⟨hfirst, hrest⟩
    refine ⟨?_, ?_, ?_⟩
    · intro y hy
      rcases List.mem_cons.mp hy with rfl | hy
      · exact hfirst.nonneg y (List.mem_singleton_self y)
      · exact hrest.nonneg y hy
    · intro y hy
      rcases List.mem_cons.mp hy with rfl | hy
      · exact hfirst.finite y (List.mem_singleton_self y)
      · exact hrest.finite y hy
    · have htotal := hrest.total
      rw [List.map_cons, List.sum_cons]
      omega

theorem seconds_ne_outOfRange (c : Component) : c.seconds ≠ .error .outOfRange := by
  unfold Component.seconds readNumber
  split
  · next e he =>
    split at he
    · cases he
      simp
    · split at he
      · cases he
      · cases he
        simp
  · split
    · simp
    · simp

theorem ofFloatSeconds?_eq_some_iff {x : Float} {d : Duration} :
    ofFloatSeconds? x = some d ↔ ¬ x < 0.0 ∧ (Decimal.Dyadic.ofFloat? x).isSome = true ∧
      nearestNanos x < limit ∧ d = ⟨nearestNanos x⟩ := by
  unfold ofFloatSeconds?
  by_cases hnegative : x < 0.0
  · rw [if_pos hnegative]
    exact iff_of_false (by simp) (fun h => h.1 hnegative)
  · rw [if_neg hnegative]
    cases hdyadic : Decimal.Dyadic.ofFloat? x with
    | none => simp
    | some dyadic =>
      have hnanos : nearestNanos x =
          Decimal.roundHalfEven (dyadic.ratio.1 * nanosPerSecond) dyadic.ratio.2 := by
        unfold nearestNanos
        rw [hdyadic]
      rw [hnanos, Option.bind_eq_bind, Option.bind_some]
      generalize dyadic.ratio = ratio
      obtain ⟨num, den⟩ := ratio
      dsimp only
      generalize Decimal.roundHalfEven (num * nanosPerSecond) den = nanos
      by_cases hshort : nanos < limit
      · simp [hshort, hnegative, eq_comm]
      · simp [hshort]

theorem fits_singleton_iff {before : Nat} {x : Float} :
    Fits before [x] ↔ ¬ x < 0.0 ∧ (Decimal.Dyadic.ofFloat? x).isSome = true ∧
      before + nearestNanos x < limit := by
  constructor
  · rintro ⟨hnonneg, hfinite, htotal⟩
    exact ⟨hnonneg x (List.mem_singleton_self x), hfinite x (List.mem_singleton_self x),
      by simpa using htotal⟩
  · rintro ⟨hnonneg, hfinite, htotal⟩
    exact ⟨by simpa using hnonneg, by simpa using hfinite, by simpa using htotal⟩

theorem add_of_fits {total : Duration} {c : Component} {x : Float} (h : c.seconds = .ok x)
    (hfits : Fits total.nanos [x]) : add total c = .ok ⟨total.nanos + nearestNanos x⟩ := by
  obtain ⟨hnonneg, hfinite, htotal⟩ := fits_singleton_iff.mp hfits
  have hseconds : ofFloatSeconds? x = some ⟨nearestNanos x⟩ :=
    ofFloatSeconds?_eq_some_iff.mpr ⟨hnonneg, hfinite, by omega, rfl⟩
  unfold add
  simp only [h, hseconds]
  exact if_pos htotal

theorem add_of_not_fits {total : Duration} {c : Component} {x : Float} (h : c.seconds = .ok x)
    (hfits : ¬ Fits total.nanos [x]) : add total c = .error .outOfRange := by
  unfold add
  simp only [h]
  cases hseconds : ofFloatSeconds? x with
  | none => rfl
  | some d =>
    obtain ⟨hnonneg, hfinite, -, rfl⟩ := ofFloatSeconds?_eq_some_iff.mp hseconds
    refine if_neg ?_
    intro htotal
    exact hfits (fits_singleton_iff.mpr ⟨hnonneg, hfinite, htotal⟩)

/-- The sum fails to fit exactly if the numbers do that are added before it stops. -/
theorem foldlM_add_eq_outOfRange_iff {parts : List Component} {total : Duration}
    (htotal : total.nanos < limit) :
    parts.foldlM add total = .error .outOfRange ↔ ¬ Fits total.nanos (readable parts) := by
  induction parts generalizing total with
  | nil =>
    rw [List.foldlM_nil, readable, fits_nil_iff]
    exact iff_of_false (by simp [pure, Except.pure]) (not_not.mpr htotal)
  | cons c parts ih =>
    rw [List.foldlM_cons, readable]
    cases hseconds : c.seconds with
    | error e =>
      have hadd : add total c = .error e := by
        unfold add
        rw [hseconds]
      have hother : e ≠ .outOfRange := fun he => seconds_ne_outOfRange c (he ▸ hseconds)
      rw [hadd]
      refine iff_of_false ?_ (not_not.mpr (fits_nil_iff.mpr htotal))
      intro he
      exact hother (Except.error.inj he)
    | ok x =>
      by_cases hfits : Fits total.nanos [x]
      · have hnext := (fits_singleton_iff.mp hfits).2.2
        rw [add_of_fits hseconds hfits, fits_cons_iff, and_iff_right hfits]
        exact ih hnext
      · rw [add_of_not_fits hseconds hfits]
        refine iff_of_true rfl ?_
        intro hall
        exact hfits (fits_cons_iff.mp hall).1

/-- A sum that is reached is one of components that can all be read, and none is negative. -/
theorem foldlM_add_eq_ok {parts : List Component} {total d : Duration}
    (htotal : total.nanos < limit) (h : parts.foldlM add total = .ok d) :
    (∀ c ∈ parts, ∃ x, c.seconds = .ok x ∧ ¬ x < 0.0) ∧ d.nanos < limit := by
  induction parts generalizing total with
  | nil =>
    obtain rfl : total = d := Except.ok.inj h
    exact ⟨by simp, htotal⟩
  | cons c parts ih =>
    rw [List.foldlM_cons] at h
    cases hseconds : c.seconds with
    | error e =>
      have hadd : add total c = .error e := by
        unfold add
        rw [hseconds]
      rw [hadd] at h
      cases h
    | ok x =>
      by_cases hfits : Fits total.nanos [x]
      · obtain ⟨hnonneg, -, hnext⟩ := fits_singleton_iff.mp hfits
        rw [add_of_fits hseconds hfits] at h
        have hsum : (⟨total.nanos + nearestNanos x⟩ : Duration).nanos < limit := hnext
        obtain ⟨hparts, hd⟩ := ih hsum h
        refine ⟨?_, hd⟩
        intro c' hc'
        rcases List.mem_cons.mp hc' with rfl | hc'
        · exact ⟨x, hseconds, hnonneg⟩
        · exact hparts c' hc'
      · rw [add_of_not_fits hseconds hfits] at h
        cases h

theorem components_of_no_letter {cs : List Char}
    (h : cs.dropWhile (!Text.isAlphabetic ·) = []) : components cs = ([], cs) := by
  rw [components, dif_pos h]

theorem limit_pos : 0 < limit := by decide

/-- A text is read as the sum of its components, or has none. -/
theorem readUnsigned_cases (cs : List Char) :
    (components cs).1 = [] ∧ (readUnsigned cs = .ok ⟨0⟩ ∨ readUnsigned cs = .error .noUnit) ∨
      readUnsigned cs = (components cs).1.foldlM add ⟨0⟩ >>= fun d =>
        if (components cs).2 = [] then .ok d else .error .noUnit := by
  unfold readUnsigned
  by_cases hzero : cs = ['0']
  · have hparts : components cs = ([], cs) := components_of_no_letter (by rw [hzero]; decide)
    rw [if_pos hzero, hparts]
    exact .inl ⟨rfl, .inl rfl⟩
  · by_cases hnil : cs = []
    · have hparts : components cs = ([], cs) := components_of_no_letter (by rw [hnil]; rfl)
      rw [if_neg hzero, if_pos hnil, hparts]
      exact .inl ⟨rfl, .inr rfl⟩
    · rw [if_neg hzero, if_neg hnil]
      exact .inr (readComponents_eq (Nat.le_refl _))

theorem readUnsigned_eq_outOfRange_iff {cs : List Char} :
    readUnsigned cs = .error .outOfRange ↔ ¬ Fits 0 (readable (components cs).1) := by
  rcases readUnsigned_cases cs with ⟨hparts, hread⟩ | hread
  · have hempty : Fits 0 (readable []) := fits_nil_iff.mpr limit_pos
    rw [hparts]
    refine iff_of_false ?_ (not_not.mpr hempty)
    rcases hread with hread | hread
    · simp [hread]
    · simp [hread]
  · have hzero : (⟨0⟩ : Duration).nanos < limit := limit_pos
    rw [hread, ← foldlM_add_eq_outOfRange_iff hzero]
    cases (components cs).1.foldlM add ⟨0⟩ with
    | error e => rfl
    | ok d =>
      refine iff_of_false ?_ (by simp)
      simp only [bind, Except.bind]
      split
      · simp
      · simp

theorem readUnsigned_eq_ok {cs : List Char} {d : Duration} (h : readUnsigned cs = .ok d) :
    (∀ c ∈ (components cs).1, ∃ x, c.seconds = .ok x ∧ ¬ x < 0.0) ∧ d.nanos < limit := by
  rcases readUnsigned_cases cs with ⟨hparts, hread | hread⟩ | hread
  · obtain rfl := Except.ok.inj (hread.symm.trans h)
    rw [hparts]
    exact ⟨by simp, limit_pos⟩
  · cases hread.symm.trans h
  · rw [hread] at h
    cases hsum : (components cs).1.foldlM add ⟨0⟩ with
    | error e =>
      rw [hsum] at h
      cases h
    | ok total =>
      simp only [hsum, bind, Except.bind] at h
      split at h
      · obtain rfl := Except.ok.inj h
        exact foldlM_add_eq_ok limit_pos hsum
      · cases h

/-! ### Texts -/

/-- A minus sign stands first in the text, apart from blanks. -/
def IsSigned (s : String) : Prop := ∃ cs, Text.trimBlanks s.toList = '-' :: cs

/-- The text without blanks around it and one plus sign. -/
def unsigned (s : String) : List Char :=
  match Text.trimBlanks s.toList with
  | '+' :: cs => cs
  | cs => cs

theorem ofText_of_signed {s : String} (h : IsSigned s) : ofText s = .error .negative := by
  obtain ⟨cs, hcs⟩ := h
  unfold ofText
  rw [hcs]
  rfl

theorem ofText_of_head {s : String} {c : Char} {cs : List Char} (hplus : c ≠ '+')
    (hminus : c ≠ '-') (h : Text.trimBlanks s.toList = c :: cs) :
    ofText s = readUnsigned (c :: cs) := by
  unfold ofText
  rw [h]
  simp [hplus, hminus]

theorem ofText_of_unsigned {s : String} (h : ¬ IsSigned s) :
    ofText s = readUnsigned (unsigned s) := by
  cases htrim : Text.trimBlanks s.toList with
  | nil =>
    unfold ofText unsigned
    rw [htrim]
  | cons c cs =>
    by_cases hplus : c = '+'
    · unfold ofText unsigned
      rw [htrim, hplus]
      rfl
    · have hminus : c ≠ '-' := by
        rintro rfl
        exact h ⟨cs, htrim⟩
      have hsame : unsigned s = c :: cs := by
        unfold unsigned
        rw [htrim]
        simp [hplus]
      rw [ofText_of_head hplus hminus htrim, hsame]

/-- The whole seconds of a duration, rounded up, if 64 bits can hold them. -/
def secondsUp? (d : Duration) : Option Nat :=
  if d.subsecond = 0 then some d.seconds
  else if d.seconds + 1 < UInt64.size then some (d.seconds + 1) else none

theorem secondsUp?_eq_some_iff {d : Duration} (h : d.nanos < limit) :
    d.secondsUp? = some d.secondsUp ↔ d.nanos ≤ (UInt64.size - 1) * nanosPerSecond := by
  have hsize : UInt64.size = 18446744073709551616 := rfl
  unfold limit nanosPerSecond at h
  unfold secondsUp? secondsUp subsecond seconds nanosPerSecond
  by_cases hwhole : d.nanos % 1000000000 = 0
  · rw [if_pos hwhole, if_pos hwhole]
    refine iff_of_true rfl ?_
    omega
  · rw [if_neg hwhole, if_neg hwhole]
    by_cases hnext : d.nanos / 1000000000 + 1 < UInt64.size
    · rw [if_pos hnext, Nat.mod_eq_of_lt hnext]
      refine iff_of_true rfl ?_
      omega
    · rw [if_neg hnext]
      refine iff_of_false (by simp) ?_
      omega

/-- Reading the text does not end the program, nor does what becomes of the duration, and a
negative component is found fault with. -/
structure IsSafe (s : String) : Prop where
  returns : ofText s ≠ .error .outOfRange
  rejects : (∃ c ∈ (components (unsigned s)).1, c.IsNegative) →
    ∃ e, ofText s = .error e ∧ e ≠ .outOfRange
  millis : ∀ d, ofText s = .ok d → d.nanos / 1000000 < 2 ^ 128
  seconds : ∀ d, ofText s = .ok d → d.secondsUp? = some d.secondsUp

theorem ofText_eq_ok {s : String} {d : Duration} (h : ofText s = .ok d) :
    (∀ c ∈ (components (unsigned s)).1, ∃ x, c.seconds = .ok x ∧ ¬ x < 0.0) ∧ d.nanos < limit := by
  have hunsigned : ¬ IsSigned s := by
    intro hsigned
    cases (ofText_of_signed hsigned).symm.trans h
  rw [ofText_of_unsigned hunsigned] at h
  exact readUnsigned_eq_ok h

/-- The components are all of the text, and each stands for a number of seconds that is not
negative if the text is accepted. Reading it is safe exactly if it begins with a minus sign, or
what can be read of it fits, and if it is accepted, the duration is not above the last whole number
of seconds and no component was below zero before its seconds were rounded. -/
theorem isSafe_iff (s : String) :
    (components (unsigned s)).1.flatMap Component.chars ++ (components (unsigned s)).2 =
        unsigned s ∧
      (∀ d, ofText s = .ok d →
        ∀ c ∈ (components (unsigned s)).1, ∃ x, c.seconds = .ok x ∧ ¬ x < 0.0) ∧
      (IsSafe s ↔ IsSigned s ∨ Fits 0 (readable (components (unsigned s)).1) ∧
        ∀ d, ofText s = .ok d → d.nanos ≤ (UInt64.size - 1) * nanosPerSecond ∧
          ∀ c ∈ (components (unsigned s)).1, ¬ c.IsNegative) := by
  refine ⟨components_joined _, fun d hd => (ofText_eq_ok hd).1, ?_⟩
  by_cases hsigned : IsSigned s
  · have htext := ofText_of_signed hsigned
    refine iff_of_true ⟨?_, ?_, ?_, ?_⟩ (.inl hsigned)
    · rw [htext]
      simp
    · exact fun _ => ⟨.negative, htext, by decide⟩
    · intro d hd
      cases htext.symm.trans hd
    · intro d hd
      cases htext.symm.trans hd
  · have hfits : ofText s ≠ .error .outOfRange ↔ Fits 0 (readable (components (unsigned s)).1) := by
      rw [ofText_of_unsigned hsigned, Ne, readUnsigned_eq_outOfRange_iff, not_not]
    rw [or_iff_right hsigned]
    constructor
    · rintro ⟨hreturns, hrejects, -, hseconds⟩
      refine ⟨hfits.mp hreturns, fun d hd => ⟨?_, ?_⟩⟩
      · exact (secondsUp?_eq_some_iff (ofText_eq_ok hd).2).mp (hseconds d hd)
      · intro c hc hnegative
        obtain ⟨e, he, -⟩ := hrejects ⟨c, hc, hnegative⟩
        cases he.symm.trans hd
    · rintro ⟨hfit, haccepted⟩
      have hreturns := hfits.mpr hfit
      refine ⟨hreturns, ?_, ?_, ?_⟩
      · rintro ⟨c, hc, hnegative⟩
        cases hread : ofText s with
        | error e => exact ⟨e, rfl, fun he => hreturns (he ▸ hread)⟩
        | ok d => exact absurd hnegative ((haccepted d hread).2 c hc)
      · intro d hd
        have hshort := (ofText_eq_ok hd).2
        unfold limit nanosPerSecond at hshort
        have hsize : UInt64.size = 18446744073709551616 := rfl
        omega
      · intro d hd
        exact (secondsUp?_eq_some_iff (ofText_eq_ok hd).2).mpr (haccepted d hd).1

/-- A second and a part of one that is below zero, but nearer to zero than to any other double. -/
def underflow : List Char :=
  '1' :: (['s', '-', '0', '.'] ++ List.replicate 400 '0' ++ ['1', 's'])

/-- Reading ends on a negative component and on a number that is too large. A component that
rounds to zero is accepted, and so is a duration that cannot be rounded up. -/
theorem not_isSafe_of_later_sign :
    ofText "1s-1s" = .error .outOfRange ∧ ¬ IsSafe "1s-1s" ∧
      ofText "99999999999999999999999s" = .error .outOfRange ∧
      ofText (String.ofList underflow) = .ok ⟨1000000000⟩ ∧
      ∃ d, ofText "18446744073709549568s2047s0.5s" = .ok d ∧ d.secondsUp? = none := by
  have hnegative : ofText "1s-1s" = .error .outOfRange := by decide +kernel
  have hunderflow : ofText (String.ofList underflow) = .ok ⟨1000000000⟩ := by
    have htrim : Text.trimBlanks (String.ofList underflow).toList = underflow := by
      rw [String.toList_ofList]
      decide +kernel
    have hread : readUnsigned underflow = .ok ⟨1000000000⟩ := by decide +kernel
    exact (ofText_of_head (c := '1') (by decide) (by decide) htrim).trans hread
  refine ⟨hnegative, fun hsafe => hsafe.returns hnegative, by decide +kernel, hunderflow, ?_⟩
  exact ⟨⟨18446744073709551615500000000⟩, by decide +kernel, by decide +kernel⟩

end MeshControl.Duration
