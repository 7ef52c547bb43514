/-!
Cutting texts at a separator and putting the pieces together again. The functions work on
lists of characters; their counterparts on strings only convert. Cutting loses nothing:
the pieces joined by the separator are the text.
-/
namespace MeshControl.Text

/-- The pieces between the separators, one more than there are separators. -/
def pieces (sep : Char) : List Char → List (List Char)
  | [] => [[]]
  | c :: cs =>
    if c = sep then [] :: pieces sep cs
    else match pieces sep cs with
      | [] => [[c]]
      | p :: ps => (c :: p) :: ps

theorem pieces_ne_nil (sep : Char) (cs : List Char) : pieces sep cs ≠ [] := by
  cases cs with
  | nil => simp [pieces]
  | cons c cs =>
    simp only [pieces]
    split
    · simp
    · split <;> simp

/-- Pieces with the separator put between them. -/
def joinPieces (sep : Char) : List (List Char) → List Char
  | [] => []
  | [p] => p
  | p :: q :: ps => p ++ sep :: joinPieces sep (q :: ps)

theorem joinPieces_pieces (sep : Char) (cs : List Char) :
    joinPieces sep (pieces sep cs) = cs := by
  induction cs with
  | nil => simp [pieces, joinPieces]
  | cons c cs ih =>
    simp only [pieces]
    split
    · next h =>
      subst h
      cases hp : pieces c cs with
      | nil => exact absurd hp (pieces_ne_nil c cs)
      | cons p ps => rw [hp] at ih; simp [joinPieces, ih]
    · cases hp : pieces sep cs with
      | nil => exact absurd hp (pieces_ne_nil sep cs)
      | cons p ps =>
        rw [hp] at ih
        cases ps with
        | nil => simpa [joinPieces] using ih
        | cons q qs => simpa [joinPieces] using ih

theorem pieces_of_notMem {sep : Char} {cs : List Char} (h : sep ∉ cs) : pieces sep cs = [cs] := by
  induction cs with
  | nil => rfl
  | cons c cs ih =>
    rw [List.mem_cons, not_or] at h
    rw [pieces, if_neg (Ne.symm h.1), ih h.2]

theorem pieces_append_cons {sep : Char} {p : List Char} (h : sep ∉ p) (cs : List Char) :
    pieces sep (p ++ sep :: cs) = p :: pieces sep cs := by
  induction p with
  | nil => simp [pieces]
  | cons c p ih =>
    rw [List.mem_cons, not_or] at h
    rw [List.cons_append, pieces, if_neg (Ne.symm h.1), ih h.2]

theorem pieces_of_mem {sep : Char} {cs : List Char} (h : sep ∈ cs) :
    ∃ p q ps, pieces sep cs = p :: q :: ps := by
  obtain ⟨p, rest, rfl, hp⟩ := List.eq_append_cons_of_mem h
  obtain ⟨q, ps, hrest⟩ := List.exists_cons_of_ne_nil (pieces_ne_nil sep rest)
  exact ⟨p, q, ps, by rw [pieces_append_cons hp, hrest]⟩

theorem notMem_of_mem_pieces {sep : Char} {p cs : List Char} (h : p ∈ pieces sep cs) : sep ∉ p := by
  induction cs generalizing p with
  | nil => simp [List.mem_singleton.mp h]
  | cons c cs ih =>
    rw [pieces] at h
    split at h
    · rcases List.mem_cons.mp h with rfl | h
      · exact List.not_mem_nil
      · exact ih h
    · next hc =>
      cases hp : pieces sep cs with
      | nil => exact absurd hp (pieces_ne_nil sep cs)
      | cons q qs =>
        rw [hp] at h ih
        rcases List.mem_cons.mp h with rfl | h
        · rw [List.mem_cons, not_or]
          exact ⟨Ne.symm hc, ih List.mem_cons_self⟩
        · exact ih (List.mem_cons_of_mem q h)

theorem mem_joinPieces {sep c : Char} {ps : List (List Char)} (h : c ∈ joinPieces sep ps) :
    c = sep ∨ ∃ p ∈ ps, c ∈ p := by
  induction ps with
  | nil => simp [joinPieces] at h
  | cons p ps ih =>
    cases ps with
    | nil => exact .inr ⟨p, List.mem_cons_self, h⟩
    | cons q ps =>
      rw [joinPieces, List.mem_append, List.mem_cons] at h
      rcases h with hp | hsep | hrest
      · exact .inr ⟨p, List.mem_cons_self, hp⟩
      · exact .inl hsep
      · rcases ih hrest with hsep | ⟨q', hq', hc⟩
        · exact .inl hsep
        · exact .inr ⟨q', List.mem_cons_of_mem _ hq', hc⟩

/-- The text before the first separator and, if there is one, the text after it. -/
def cutFirst (sep : Char) : List Char → List Char × Option (List Char)
  | [] => ([], none)
  | c :: cs =>
    if c = sep then ([], some cs)
    else
      let (head, tail) := cutFirst sep cs
      (c :: head, tail)

theorem cutFirst_of_notMem {sep : Char} {cs : List Char} (h : sep ∉ cs) :
    cutFirst sep cs = (cs, none) := by
  induction cs with
  | nil => rfl
  | cons c cs ih =>
    rw [List.mem_cons, not_or] at h
    rw [cutFirst, if_neg (Ne.symm h.1), ih h.2]

theorem cutFirst_append_cons {sep : Char} {p : List Char} (h : sep ∉ p) (cs : List Char) :
    cutFirst sep (p ++ sep :: cs) = (p, some cs) := by
  induction p with
  | nil => simp [cutFirst]
  | cons c p ih =>
    rw [List.mem_cons, not_or] at h
    rw [List.cons_append, cutFirst, if_neg (Ne.symm h.1), ih h.2]

/-- The texts before and after the last separator, if there is one. -/
def cutLast (sep : Char) (cs : List Char) : Option (List Char × List Char) :=
  match cutFirst sep cs.reverse with
  | (_, none) => none
  | (tail, some head) => some (head.reverse, tail.reverse)

theorem cutLast_append_cons {sep : Char} {tail : List Char} (h : sep ∉ tail) (cs : List Char) :
    cutLast sep (cs ++ sep :: tail) = some (cs, tail) := by
  have hreverse : (cs ++ sep :: tail).reverse = tail.reverse ++ sep :: cs.reverse := by simp
  have hfree : sep ∉ tail.reverse := by simpa using h
  rw [cutLast, hreverse, cutFirst_append_cons hfree]
  simp

/-- At most `n + 1` pieces: the first `n` separators cut, the rest of the text stays whole. -/
def piecesUpTo (sep : Char) : Nat → List Char → List (List Char)
  | 0, cs => [cs]
  | n + 1, cs =>
    match cutFirst sep cs with
    | (head, none) => [head]
    | (head, some tail) => head :: piecesUpTo sep n tail

def split (sep : Char) (s : String) : List String :=
  (pieces sep s.toList).map String.ofList

def splitUpTo (sep : Char) (n : Nat) (s : String) : List String :=
  (piecesUpTo sep n s.toList).map String.ofList

/-- The text before the first separator and the text after it, empty if there is none. -/
def splitFirst (sep : Char) (s : String) : String × String :=
  let (head, tail) := cutFirst sep s.toList
  (String.ofList head, String.ofList (tail.getD []))

def splitLast (sep : Char) (s : String) : Option (String × String) :=
  (cutLast sep s.toList).map fun (a, b) => (String.ofList a, String.ofList b)

/-- Texts with a separator between neighbours. -/
def join (sep : String) : List String → String
  | [] => ""
  | [s] => s
  | s :: t :: rest => s ++ sep ++ join sep (t :: rest)

theorem mem_join {sep : String} {c : Char} {items : List String}
    (h : c ∈ (join sep items).toList) : c ∈ sep.toList ∨ ∃ t ∈ items, c ∈ t.toList := by
  induction items with
  | nil => simp [join] at h
  | cons t items ih =>
    cases items with
    | nil => exact .inr ⟨t, List.mem_cons_self, h⟩
    | cons u items =>
      rw [join, String.toList_append, String.toList_append, List.mem_append, List.mem_append] at h
      rcases h with (ht | hsep) | hrest
      · exact .inr ⟨t, List.mem_cons_self, ht⟩
      · exact .inl hsep
      · rcases ih hrest with hsep | ⟨v, hv, hc⟩
        · exact .inl hsep
        · exact .inr ⟨v, List.mem_cons_of_mem t hv, hc⟩

theorem mem_join_of_mem {sep : String} {c : Char} {items : List String} {t : String}
    (ht : t ∈ items) (h : c ∈ t.toList) : c ∈ (join sep items).toList := by
  induction items with
  | nil => cases ht
  | cons u items ih =>
    cases items with
    | nil => exact List.mem_singleton.mp ht ▸ h
    | cons v items =>
      rw [join, String.toList_append, String.toList_append, List.mem_append, List.mem_append]
      rcases List.mem_cons.mp ht with rfl | hrest
      · exact .inl (.inl h)
      · exact .inr (ih hrest)

/-- Texts without the separator are found again in what they make when joined by it. -/
theorem split_join {sep : Char} {s : String} (hs : s.toList = [sep]) {items : List String}
    (hne : items ≠ []) (hfree : ∀ t ∈ items, sep ∉ t.toList) :
    split sep (join s items) = items := by
  induction items with
  | nil => exact absurd rfl hne
  | cons t items ih =>
    rw [List.forall_mem_cons] at hfree
    cases items with
    | nil => simp [split, join, pieces_of_notMem hfree.1]
    | cons u items =>
      have hrest := ih (List.cons_ne_nil u items) hfree.2
      rw [split] at hrest ⊢
      rw [join, String.toList_append, String.toList_append, hs, List.append_assoc,
        List.singleton_append, pieces_append_cons hfree.1, List.map_cons, hrest,
        String.ofList_toList]

theorem notMem_of_mem_split {sep : Char} {s t : String} (h : t ∈ split sep s) : sep ∉ t.toList := by
  obtain ⟨p, hp, rfl⟩ := List.mem_map.mp h
  rw [String.toList_ofList]
  exact notMem_of_mem_pieces hp

/-- A text is one piece exactly if the separator is not in it. -/
theorem split_eq_singleton_iff {sep : Char} {s t : String} :
    split sep s = [t] ↔ sep ∉ s.toList ∧ t = s := by
  constructor
  · intro h
    have hfree : sep ∉ s.toList := by
      intro hmem
      obtain ⟨p, q, ps, hpieces⟩ := pieces_of_mem hmem
      rw [split, hpieces] at h
      cases h
    rw [split, pieces_of_notMem hfree] at h
    exact ⟨hfree, by simpa using h.symm⟩
  · rintro ⟨hfree, rfl⟩
    rw [split, pieces_of_notMem hfree, List.map_singleton, String.ofList_toList]

/-- A text without the separators it starts with. -/
def dropLeading (sep : Char) (s : String) : String :=
  String.ofList (s.toList.dropWhile (· = sep))

/-- A text without the separators it ends with. -/
def dropTrailing (sep : Char) (s : String) : String :=
  String.ofList (s.toList.reverse.dropWhile (· = sep)).reverse

def startsWith (c : Char) (s : String) : Bool := s.toList.head? = some c

/-- The White_Space property of Unicode. -/
def isBlank (c : Char) : Bool :=
  let n := c.toNat
  (9 ≤ n && n ≤ 13) || n = 32 || n = 0x85 || n = 0xa0 || n = 0x1680 ||
    (0x2000 ≤ n && n ≤ 0x200a) || n = 0x2028 || n = 0x2029 || n = 0x202f || n = 0x205f ||
    n = 0x3000

/-- A text without the blanks around it. -/
def trimBlanks (cs : List Char) : List Char :=
  ((cs.dropWhile isBlank).reverse.dropWhile isBlank).reverse

end MeshControl.Text
