import MeshControl.Proofs.Names
import MeshControl.ServiceKey

/-!
What is read from a discovery key. Its parts are cut at colons and their items at commas and
semicolons, none of which stand in what they separate, so reading a key gives back the hostname,
the names of the ports and the tag sets, the last two in order. The order that they were given in
is lost, so it has no part in the key.
-/
namespace MeshControl

namespace Tags

/-! ### Texts in order -/

theorem pairwise_sortTexts (l : List String) : (sortTexts l).Pairwise (· ≤ ·) :=
  pairwise_mergeSort_text id l

/-- Sorting forgets the order that texts were given in. -/
theorem sortTexts_eq_of_perm {l l' : List String} (h : l.Perm l') : sortTexts l = sortTexts l' :=
  List.Perm.eq_of_pairwise (fun _ _ _ _ => String.le_antisymm) (pairwise_sortTexts l)
    (pairwise_sortTexts l') ((sortTexts_perm l).trans (h.trans (sortTexts_perm l').symm))

/-- Tag sets in the order of their texts. -/
def sortByText (tags : TagsList) : TagsList := tags.mergeSort fun t u => !textLt u.text t.text

theorem sortByText_perm (tags : TagsList) : (sortByText tags).Perm tags :=
  List.mergeSort_perm tags _

theorem map_text_sortByText (tags : TagsList) :
    (sortByText tags).map text = sortTexts (tags.map text) :=
  List.map_mergeSort fun _ _ _ _ => rfl

theorem pairwise_sortByText (tags : TagsList) :
    (sortByText tags).Pairwise fun t u => t.text ≤ u.text :=
  pairwise_mergeSort_text text tags

theorem isEmpty_iff {t : Tags} : t.isEmpty = true ↔ t = empty := by
  constructor
  · intro h
    obtain ⟨⟨entries, hsorted⟩⟩ := t
    obtain rfl : entries = [] := List.isEmpty_iff.mp h
    rfl
  · rintro rfl
    rfl

/-- The separators of keys stand in the text of no good tags. -/
theorem notMem_text {t : Tags} (h : t.validate = []) {c : Char}
    (hc : Validation.isTagChar c = false) (heq : c ≠ '=') (hcomma : c ≠ ',') :
    c ∉ t.text.toList := by
  rw [mem_text_iff_exists hcomma]
  rintro ⟨⟨k, v⟩, hpair, hmem⟩
  obtain ⟨-, hk, hv⟩ := pair_of_validate h hpair
  exact notMem_pairText hk hv hc heq hmem

end Tags

namespace ServiceKey

variable {hostname ports tags : String}

/-! ### The parts of a key -/

theorem splitUpTo_host (h : ':' ∉ hostname.toList) :
    Text.splitUpTo ':' 2 hostname = [hostname] := by
  simp [Text.splitUpTo, Text.piecesUpTo, Text.cutFirst_of_notMem h]

theorem splitUpTo_ports (h : ':' ∉ hostname.toList) (hports : ':' ∉ ports.toList) :
    Text.splitUpTo ':' 2 (hostname ++ ":" ++ ports) = [hostname, ports] := by
  have hchars : (hostname ++ ":" ++ ports).toList = hostname.toList ++ ':' :: ports.toList := by
    simp
  simp [Text.splitUpTo, hchars, Text.piecesUpTo, Text.cutFirst_append_cons h,
    Text.cutFirst_of_notMem hports]

theorem splitUpTo_tags (h : ':' ∉ hostname.toList) (hports : ':' ∉ ports.toList) :
    Text.splitUpTo ':' 2 (hostname ++ ":" ++ ports ++ ":" ++ tags) = [hostname, ports, tags] := by
  have hchars : (hostname ++ ":" ++ ports ++ ":" ++ tags).toList =
      hostname.toList ++ ':' :: (ports.toList ++ ':' :: tags.toList) := by
    simp
  simp [Text.splitUpTo, hchars, Text.piecesUpTo, Text.cutFirst_append_cons h,
    Text.cutFirst_append_cons hports]

/-- The port names that are read from a key. No name and the empty name are written alike. -/
def portNames (ports : List String) : List String :=
  if ports.isEmpty then [""] else Tags.sortTexts ports

theorem portNames_eq_singleton_iff {ports : List String} :
    portNames ports = [""] ↔ ports = [] ∨ ports = [""] := by
  rw [portNames]
  split
  · next hempty => simp [List.isEmpty_iff.mp hempty]
  · next hne =>
    have hperm := Tags.sortTexts_perm ports
    have hnil : ports ≠ [] := fun h => hne (List.isEmpty_iff.mpr h)
    constructor
    · intro h
      rw [h] at hperm
      exact .inr (List.perm_singleton.mp hperm.symm)
    · rintro (h | rfl)
      · exact absurd h hnil
      · exact List.mergeSort_singleton ""

theorem join_sortTexts_ports (ports : List String) :
    Text.join "," (Tags.sortTexts ports) = Text.join "," (portNames ports) := by
  rw [portNames]
  split
  · next hempty =>
    rw [List.isEmpty_iff.mp hempty, Tags.sortTexts, List.mergeSort_nil]
    rfl
  · rfl

theorem split_ports {ports : List String} (h : ∀ p ∈ ports, ',' ∉ p.toList) :
    Text.split ',' (Text.join "," (Tags.sortTexts ports)) = portNames ports := by
  rw [join_sortTexts_ports, portNames]
  split
  · decide
  · next hne =>
    have hperm := Tags.sortTexts_perm ports
    have hsorted : Tags.sortTexts ports ≠ [] := by
      intro hnil
      rw [hnil] at hperm
      exact hne (List.isEmpty_iff.mpr hperm.nil_eq.symm)
    exact Text.split_join (by decide) hsorted fun p hp => h p (hperm.mem_iff.mp hp)

theorem colon_notMem_ports {ports : List String} (h : ∀ p ∈ ports, ':' ∉ p.toList) :
    ':' ∉ (Text.join "," (Tags.sortTexts ports)).toList := by
  intro hmem
  rcases Text.mem_join hmem with hsep | ⟨p, hp, hmem⟩
  · exact absurd hsep (by decide)
  · exact h p ((Tags.sortTexts_perm _).mem_iff.mp hp) hmem

theorem conditions_eq (tags : TagsList) :
    conditions tags = if tags = [Tags.empty] then [] else tags := by
  rw [conditions.eq_def]
  split
  · next t => simp only [List.cons.injEq, and_true, Tags.isEmpty_iff]
  · next hne => rw [if_neg (hne Tags.empty)]

theorem mem_conditions {tags : TagsList} {t : Tags} (h : t ∈ conditions tags) : t ∈ tags := by
  rw [conditions_eq] at h
  split at h
  · cases h
  · exact h

theorem split_texts {tags : TagsList} (htags : ∀ t ∈ tags, t.validate = []) (hne : tags ≠ []) :
    Text.split ';' (Text.join ";" (Tags.sortTexts (tags.map Tags.text))) =
      (Tags.sortByText tags).map Tags.text := by
  have hperm := Tags.sortByText_perm tags
  rw [← Tags.map_text_sortByText]
  refine Text.split_join (by decide) ?_ ?_
  · intro hnil
    rw [List.map_eq_nil_iff.mp hnil] at hperm
    exact hne hperm.nil_eq.symm
  · intro s hs
    obtain ⟨t, ht, rfl⟩ := List.mem_map.mp hs
    exact Tags.notMem_text (htags t (hperm.mem_iff.mp ht)) (by decide) (by decide) (by decide)

theorem map_ofText_sortByText {tags : TagsList} (htags : ∀ t ∈ tags, t.validate = []) :
    ((Tags.sortByText tags).map Tags.text).map Tags.ofText = Tags.sortByText tags := by
  rw [List.map_map]
  refine (List.map_congr_left fun t ht => ?_).trans (List.map_id _)
  exact Tags.ofText_text_of_validate (htags t ((Tags.sortByText_perm tags).mem_iff.mp ht))

/-- Where there are conditions something is written of them, since a lone empty set is none. -/
theorem join_texts_ne_empty {tags : TagsList} (htags : ∀ t ∈ tags, t.validate = [])
    (hne : conditions tags ≠ []) :
    Text.join ";" (Tags.sortTexts ((conditions tags).map Tags.text)) ≠ "" := by
  intro hempty
  have htags' : ∀ t ∈ conditions tags, t.validate = [] := fun t ht => htags t (mem_conditions ht)
  have hsplit := split_texts htags' hne
  have hback := map_ofText_sortByText htags'
  rw [hempty, show Text.split ';' "" = [""] by decide] at hsplit
  rw [← hsplit] at hback
  have hlone : conditions tags = [Tags.empty] := by
    have hperm := Tags.sortByText_perm (conditions tags)
    rw [← hback] at hperm
    exact List.perm_singleton.mp hperm.symm
  rw [conditions_eq] at hlone
  split at hlone
  · cases hlone
  · next hother => exact hother hlone

/-! ### Writing and reading -/

/-- A key gives back its hostname, its port names and its tag sets, in order. -/
theorem parse_encode {hostname : String} {ports : List String} {tags : TagsList}
    (hhostname : ':' ∉ hostname.toList) (hports : ∀ p ∈ ports, ':' ∉ p.toList ∧ ',' ∉ p.toList)
    (htags : ∀ t ∈ tags, t.validate = []) :
    parse (encode hostname ports tags) =
      ⟨hostname, portNames ports, Tags.sortByText (conditions tags)⟩ := by
  have hcolon := colon_notMem_ports fun p hp => (hports p hp).1
  have hnames := split_ports fun p hp => (hports p hp).2
  have hconditions : ∀ t ∈ conditions tags, t.validate = [] :=
    fun t ht => htags t (mem_conditions ht)
  rw [encode]
  split
  · next hbare =>
    simp only [isBare, Bool.and_eq_true, Bool.or_eq_true, beq_iff_eq, List.isEmpty_iff] at hbare
    rw [parse, splitUpTo_host hhostname, hbare.1, portNames_eq_singleton_iff.mpr hbare.2,
      Tags.sortByText, List.mergeSort_nil]
  · simp only
    split
    · next hnone =>
      rw [parse, splitUpTo_ports hhostname hcolon, List.isEmpty_iff.mp hnone, Tags.sortByText,
        List.mergeSort_nil]
      simp only [hnames]
    · next hsome =>
      have hne : conditions tags ≠ [] := fun hnil => hsome (List.isEmpty_iff.mpr hnil)
      have hwritten := join_texts_ne_empty htags hne
      rw [parse, splitUpTo_tags hhostname hcolon]
      simp only [hnames, String.isEmpty_iff, hwritten, if_false, split_texts hconditions hne,
        map_ofText_sortByText hconditions]

/-- A key is written from the port names in order and the texts of the tag sets in order. -/
theorem encode_eq (hostname : String) (ports : List String) (tags : TagsList) :
    encode hostname ports tags =
      let names := portNames ports
      let texts := Tags.sortTexts ((conditions tags).map Tags.text)
      if texts = [] then
        if names = [""] then hostname else hostname ++ ":" ++ Text.join "," names
      else hostname ++ ":" ++ Text.join "," names ++ ":" ++ Text.join ";" texts := by
  have hnone : Tags.sortTexts ((conditions tags).map Tags.text) = [] ↔ conditions tags = [] := by
    have hperm := Tags.sortTexts_perm ((conditions tags).map Tags.text)
    rw [← List.length_eq_zero_iff, hperm.length_eq, List.length_map, List.length_eq_zero_iff]
  have hbare : isBare ports (conditions tags) = true ↔
      conditions tags = [] ∧ portNames ports = [""] := by
    simp [isBare, portNames_eq_singleton_iff]
  rw [encode]
  simp only [hbare, join_sortTexts_ports, List.isEmpty_iff, hnone]
  by_cases hconditions : conditions tags = []
  · simp only [hconditions, true_and, if_true]
  · simp only [hconditions, false_and, if_false]

theorem encode_congr (hostname : String) {ports ports' : List String} {tags tags' : TagsList}
    (hports : portNames ports = portNames ports')
    (htags : (conditions tags).Perm (conditions tags')) :
    encode hostname ports tags = encode hostname ports' tags' := by
  rw [encode_eq, encode_eq, hports, Tags.sortTexts_eq_of_perm (htags.map Tags.text)]

theorem portNames_perm (ports : List String) :
    (portNames ports).Perm (if ports = [] then [""] else ports) := by
  simp only [portNames, List.isEmpty_iff]
  split
  · exact .refl _
  · exact Tags.sortTexts_perm ports

theorem pairwise_portNames (ports : List String) : (portNames ports).Pairwise (· ≤ ·) := by
  rw [portNames]
  split
  · exact List.pairwise_singleton _ _
  · exact Tags.pairwise_sortTexts ports

theorem portNames_eq_of_perm {ports ports' : List String} (h : ports.Perm ports') :
    portNames ports = portNames ports' := by
  rw [portNames, portNames, h.isEmpty_eq, Tags.sortTexts_eq_of_perm h]

theorem portNames_portNames (ports : List String) :
    portNames (portNames ports) = portNames ports := by
  by_cases h : ports = []
  · rw [h]
    exact portNames_eq_singleton_iff.mpr (.inr rfl)
  · have hperm := portNames_perm ports
    rw [if_neg h] at hperm
    exact portNames_eq_of_perm hperm

theorem conditions_perm {tags tags' : TagsList} (h : tags.Perm tags') :
    (conditions tags).Perm (conditions tags') := by
  have hlone : tags = [Tags.empty] ↔ tags' = [Tags.empty] := by
    rw [← List.perm_singleton, ← List.perm_singleton (l := tags')]
    exact ⟨h.symm.trans, h.trans⟩
  rw [conditions_eq, conditions_eq]
  simp only [hlone]
  split
  · exact .refl _
  · exact h

theorem conditions_conditions (tags : TagsList) :
    conditions (conditions tags) = conditions tags := by
  rw [conditions_eq tags]
  split
  · rfl
  · next hother => rw [conditions_eq, if_neg hother]

/-- For names without separators and good tags, reading a key gives back what it was written from,
in order; writing that again gives the same key, and so does any other order. -/
theorem parse_inverts_encode {hostname : String} {ports : List String} {tags : TagsList}
    (hhostname : ':' ∉ hostname.toList) (hports : ∀ p ∈ ports, ':' ∉ p.toList ∧ ',' ∉ p.toList)
    (htags : ∀ t ∈ tags, t.validate = []) :
    let key := encode hostname ports tags
    let k := parse key
    k.hostname = hostname ∧
    (k.ports.Perm (if ports = [] then [""] else ports) ∧ k.ports.Pairwise (· ≤ ·)) ∧
    (k.tags.Perm (if tags = [Tags.empty] then [] else tags) ∧
      k.tags.Pairwise fun t u => t.text ≤ u.text) ∧
    k.text = key ∧
    ∀ ports' tags', ports.Perm ports' → tags.Perm tags' → encode hostname ports' tags' = key := by
  intro key k
  have hk : k = ⟨hostname, portNames ports, Tags.sortByText (conditions tags)⟩ :=
    parse_encode hhostname hports htags
  have hsorted := Tags.sortByText_perm (conditions tags)
  have hagain : (conditions (Tags.sortByText (conditions tags))).Perm (conditions tags) := by
    have hperm := conditions_perm hsorted
    rwa [conditions_conditions] at hperm
  rw [hk]
  refine ⟨rfl, ⟨portNames_perm ports, pairwise_portNames ports⟩, ⟨?_, ?_⟩, ?_, ?_⟩
  · rw [← conditions_eq]
    exact hsorted
  · exact Tags.pairwise_sortByText _
  · exact encode_congr hostname (portNames_portNames ports) hagain
  · intro ports' tags' hports' htags'
    exact (encode_congr hostname (portNames_eq_of_perm hports') (conditions_perm htags')).symm

/-- Tag sets of two versions, the second of which also carries a tag without a value. -/
def twoVersions : TagsList :=
  [Tags.ofList [("version", "v2")], Tags.ofList [("version", "v1"), ("canary", "")]]

theorem parse_inverts_encode_of_two_versions :
    let key := encode "reviews.local" ["http", "grpc"] twoVersions
    (':' ∉ "reviews.local".toList ∧ ∀ t ∈ twoVersions, t.validate = []) ∧
    (parse key).hostname = "reviews.local" ∧ (parse key).ports = ["grpc", "http"] ∧
    (parse key).tags.Perm twoVersions ∧
    encode "reviews.local" ["grpc", "http"] twoVersions.reverse = key := by
  intro key
  have hhostname : ':' ∉ "reviews.local".toList := by decide
  have hports : ∀ p ∈ ["http", "grpc"], ':' ∉ p.toList ∧ ',' ∉ p.toList := by decide
  have htags : ∀ t ∈ twoVersions, t.validate = [] := by decide
  obtain ⟨hback, ⟨hnames, hsorted⟩, ⟨hsets, -⟩, -, hperm⟩ :=
    parse_inverts_encode hhostname hports htags
  rw [if_neg (List.cons_ne_nil _ _)] at hnames
  rw [if_neg (by decide)] at hsets
  have hinOrder : (parse key).ports = ["grpc", "http"] :=
    List.Perm.eq_of_pairwise (fun _ _ _ _ => String.le_antisymm) hsorted (by decide)
      (hnames.trans (by decide))
  refine ⟨⟨hhostname, htags⟩, hback, hinOrder, hsets, ?_⟩
  exact hperm _ _ (by decide) (List.reverse_perm twoVersions).symm

end ServiceKey

end MeshControl
