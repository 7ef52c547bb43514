import MeshControl.Proofs.Names

/-!
The names under which a proxy finds a service. They are the beginnings of the hostname that end
between two labels and hold all labels but those that the services of the proxy share with it; so
the hostname itself is always one of them, and the only one where nothing is shared.
-/
namespace MeshControl

namespace Text

theorem joinPieces_map_toList {sep : Char} {s : String} (hs : s.toList = [sep])
    (items : List String) :
    joinPieces sep (items.map String.toList) = (join s items).toList := by
  induction items with
  | nil => rfl
  | cons t items ih =>
    cases items with
    | nil => rfl
    | cons u items =>
      rw [List.map_cons] at ih
      rw [List.map_cons, List.map_cons, joinPieces, ih, join, String.toList_append,
        String.toList_append, hs, List.append_assoc, List.singleton_append]

/-- The pieces of a text make the text when they are joined again. -/
theorem join_split {sep : Char} {s : String} (hs : s.toList = [sep]) (t : String) :
    join s (split sep t) = t := by
  rw [← String.toList_inj, ← joinPieces_map_toList hs, split, List.map_map]
  have hback : String.toList ∘ String.ofList = id := funext fun _ => String.toList_ofList
  rw [hback, List.map_id, joinPieces_pieces]

/-- Texts may be joined in two steps, those in front first. -/
theorem join_append (sep : String) {front : List String} (hne : front ≠ []) (rest : List String) :
    join sep (front ++ rest) = join sep (join sep front :: rest) := by
  induction front with
  | nil => exact absurd rfl hne
  | cons t front ih =>
    cases front with
    | nil => rfl
    | cons u front =>
      have hinner := ih (List.cons_ne_nil u front)
      cases rest with
      | nil => rw [List.append_nil, join.eq_2]
      | cons v rest =>
        rw [List.cons_append] at hinner
        rw [List.cons_append, List.cons_append, join, hinner, join, join, join]
        simp only [String.append_assoc]

theorem join_concat (sep : String) {front : List String} (hne : front ≠ []) (t : String) :
    join sep (front ++ [t]) = join sep front ++ sep ++ t := join_append sep hne [t]

/-- Texts that are not empty make an empty text only if there are none. -/
theorem join_eq_empty_iff {sep : String} {items : List String} (h : ∀ t ∈ items, t ≠ "") :
    join sep items = "" ↔ items = [] := by
  constructor
  · intro hempty
    cases items with
    | nil => rfl
    | cons t items =>
      obtain ⟨c, rest, hchars⟩ := List.exists_cons_of_ne_nil
        (mt String.toList_eq_nil_iff.mp (h t List.mem_cons_self))
      have hc : c ∈ t.toList := hchars ▸ List.mem_cons_self
      have hmem : c ∈ (join sep (t :: items)).toList := mem_join_of_mem List.mem_cons_self hc
      rw [hempty] at hmem
      cases hmem
  · rintro rfl
    rfl

end Text

namespace Build

theorem join_labels (hostname : String) : Text.join "." (labels hostname) = hostname :=
  Text.join_split rfl hostname

theorem ne_empty_of_mem_labels {hostname : String} (h : Validation.fqdn hostname = [])
    {l : String} (hl : l ∈ labels hostname) : l ≠ "" := by
  have hlabel : Validation.isLabel l = true := by
    unfold Validation.fqdn at h
    split at h
    · cases h
    · split at h
      · cases h
      · simpa using List.filter_eq_nil_iff.mp (List.map_eq_nil_iff.mp h) l hl
  rintro rfl
  exact absurd hlabel (by decide)

/-- Names grow by one label at a time, from the one behind the first on. -/
theorem growing_eq (front rest : List String) (h : ∀ l ∈ front ++ rest, l ≠ "") :
    growing (Text.join "." front) rest = (List.range' (front.length + 1) rest.length).map
      fun k => Text.join "." ((front ++ rest).take k) := by
  induction rest generalizing front with
  | nil => rfl
  | cons l rest ih =>
    have hlonger : (if (Text.join "." front).isEmpty then l
        else Text.join "." front ++ "." ++ l) = Text.join "." (front ++ [l]) := by
      have hempty : Text.join "." front = "" ↔ front = [] :=
        Text.join_eq_empty_iff fun t ht => h t (List.mem_append_left _ ht)
      simp only [String.isEmpty_iff, hempty]
      by_cases hnil : front = []
      · rw [if_pos hnil, hnil, List.nil_append, Text.join]
      · rw [if_neg hnil, Text.join_concat "." hnil]
    have hfirst : (front ++ l :: rest).take (front.length + 1) = front ++ [l] := by
      rw [List.append_cons, List.take_left' (by rw [List.length_append, List.length_singleton])]
    rw [List.append_cons] at h
    rw [growing, hlonger, ih _ h, List.length_cons, List.range'_succ, List.map_cons, hfirst,
      List.append_cons front l rest, List.length_append, List.length_singleton]

/-- The names of a service, the shortest first: the beginnings of its hostname that end between two
labels and leave out no label but those it shares with the domain. -/
theorem hostNames_eq {hostname : String} (h : Validation.fqdn hostname = [])
    (suffix : List String) :
    let all := labels hostname
    let shortest := max 1 (all.length - sharedAtEnd suffix all)
    hostNames hostname suffix = (List.range' shortest (all.length + 1 - shortest)).map
      fun k => Text.join "." (all.take k) := by
  intro all shortest
  have hlabels : ∀ l ∈ all, l ≠ "" := fun l hl => ne_empty_of_mem_labels h hl
  let kept := all.length - sharedAtEnd suffix all
  have hkept : kept ≤ all.length := Nat.sub_le _ _
  have hhead : Text.join "." (all.take kept) = "" ↔ kept = 0 ∨ all = [] := by
    rw [Text.join_eq_empty_iff fun t ht => hlabels t (List.mem_of_mem_take ht),
      List.take_eq_nil_iff]
  have hgrown := growing_eq (all.take kept) (all.drop kept)
    (by rwa [List.take_append_drop])
  rw [List.take_append_drop, List.length_take_of_le hkept, List.length_drop] at hgrown
  change (if (Text.join "." (all.take kept)).isEmpty then []
      else [Text.join "." (all.take kept)]) ++
    growing (Text.join "." (all.take kept)) (all.drop kept) = _
  simp only [String.isEmpty_iff, hhead]
  by_cases hzero : kept = 0
  · have hshortest : shortest = 1 := by omega
    rw [if_pos (.inl hzero), List.nil_append, hgrown, hshortest, hzero]
    rfl
  · have hne : all ≠ [] := by
      intro hnil
      rw [hnil] at hkept
      exact hzero (Nat.le_zero.mp hkept)
    have hshortest : shortest = kept := by omega
    have hcount : all.length + 1 - kept = (all.length - kept) + 1 := by omega
    rw [if_neg (not_or.mpr ⟨hzero, hne⟩), hgrown, hshortest, hcount, List.range'_succ,
      List.map_cons]
    rfl

theorem mem_hostNames {hostname : String} (h : Validation.fqdn hostname = [])
    {suffix : List String} {host : String} :
    host ∈ hostNames hostname suffix ↔
      ∃ k, 0 < k ∧ (labels hostname).length ≤ k + sharedAtEnd suffix (labels hostname) ∧
        k ≤ (labels hostname).length ∧ host = Text.join "." ((labels hostname).take k) := by
  rw [hostNames_eq h, List.mem_map]
  refine exists_congr fun k => ?_
  rw [List.mem_range'_1]
  constructor
  · rintro ⟨hk, rfl⟩
    exact ⟨by omega, by omega, by omega, rfl⟩
  · rintro ⟨hpos, hleast, hle, rfl⟩
    exact ⟨by omega, rfl⟩

/-- A service is found under its whole hostname in every domain. -/
theorem hostname_mem_hostNames {hostname : String} (h : Validation.fqdn hostname = [])
    (suffix : List String) : hostname ∈ hostNames hostname suffix := by
  have hpos : 0 < (labels hostname).length := by
    rw [List.length_pos_iff, labels, Text.split, Ne, List.map_eq_nil_iff]
    exact Text.pieces_ne_nil _ _
  refine (mem_hostNames h).mpr ⟨_, hpos, Nat.le_add_right _ _, Nat.le_refl _, ?_⟩
  rw [List.take_length, join_labels]

/-- Outside the domain of its callers a service has no other name. -/
theorem eq_hostname_of_mem_hostNames {hostname : String} (h : Validation.fqdn hostname = [])
    {suffix : List String} (hshared : sharedAtEnd suffix (labels hostname) = 0) {host : String}
    (hmem : host ∈ hostNames hostname suffix) : host = hostname := by
  obtain ⟨k, -, hleast, -, rfl⟩ := (mem_hostNames h).mp hmem
  rw [List.take_of_length_le (by omega), join_labels]

/-- A name has only characters of the hostname. -/
theorem notMem_of_mem_hostNames {hostname : String} (h : Validation.fqdn hostname = [])
    {suffix : List String} {host : String} (hmem : host ∈ hostNames hostname suffix) {c : Char}
    (hc : Validation.isLabelChar c = false) (hdot : c ≠ '.') : c ∉ host.toList := by
  obtain ⟨k, -, -, -, rfl⟩ := (mem_hostNames h).mp hmem
  intro hchar
  rcases Text.mem_join hchar with hsep | ⟨l, hl, hlabel⟩
  · exact hdot (List.mem_singleton.mp hsep)
  · have hwhole : c ∈ (Text.join "." (labels hostname)).toList :=
      Text.mem_join_of_mem (List.mem_of_mem_take hl) hlabel
    rw [join_labels] at hwhole
    exact Validation.notMem_of_fqdn h hc hdot hwhole

/-- Every name is longer than those before it. -/
theorem pairwise_growing {ls : List String} (h : ∀ l ∈ ls, l ≠ "") (host : String) :
    (∀ name ∈ growing host ls, host.length < name.length) ∧
      (growing host ls).Pairwise fun a b => a.length < b.length := by
  induction ls generalizing host with
  | nil => exact ⟨fun _ hname => absurd hname List.not_mem_nil, .nil⟩
  | cons l ls ih =>
    obtain ⟨hl, hls⟩ := List.forall_mem_cons.mp h
    have hlonger : host.length < (if host.isEmpty then l else host ++ "." ++ l).length := by
      split
      · next hempty =>
        rw [String.isEmpty_iff.mp hempty]
        exact Nat.pos_of_ne_zero (mt String.length_eq_zero_iff.mp hl)
      · have hdot : ".".length = 1 := rfl
        rw [String.length_append, String.length_append, hdot]
        omega
    obtain ⟨hrest, hpairs⟩ := ih hls (if host.isEmpty then l else host ++ "." ++ l)
    rw [growing]
    exact ⟨List.forall_mem_cons.mpr ⟨hlonger, fun name hname => hlonger.trans (hrest name hname)⟩,
      List.pairwise_cons.mpr ⟨hrest, hpairs⟩⟩

theorem nodup_hostNames {hostname : String} (h : Validation.fqdn hostname = [])
    (suffix : List String) : (hostNames hostname suffix).Nodup := by
  have hlabels : ∀ n, ∀ l ∈ (labels hostname).drop n, l ≠ "" :=
    fun n l hl => ne_empty_of_mem_labels h (List.mem_of_mem_drop hl)
  obtain ⟨hlonger, hpairs⟩ := pairwise_growing (hlabels _) (Text.join "." ((labels hostname).take
    ((labels hostname).length - sharedAtEnd suffix (labels hostname))))
  have hgrown := hpairs.imp fun {a b} hlt (heq : a = b) => Nat.ne_of_lt hlt (congrArg _ heq)
  rw [hostNames]
  split
  · exact hgrown
  · exact List.nodup_cons.mpr ⟨fun hmem => Nat.lt_irrefl _ (hlonger _ hmem), hgrown⟩

end Build

end MeshControl
