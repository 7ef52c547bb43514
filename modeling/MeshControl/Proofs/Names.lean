import MeshControl.Proxy.Cluster
import MeshControl.Build.Destination
import MeshControl.Proofs.Table

/-!
What checked names hold, and what is read off the names made of them. Separators stand in none
of the parts they separate, so tags are read back from their text, and the name of a cluster
tells the service, the name of the port and the tags behind it.
-/
namespace MeshControl

/-! ### Checked names -/

namespace Validation

def isLabelChar (c : Char) : Bool := isLowerAlnum c || c == '-'

theorem isLabelChar_of_mem {s : String} (h : isLabel s = true) {c : Char} (hc : c ∈ s.toList) :
    isLabelChar c = true := by
  simp only [isLabel, isLabelText, Bool.and_eq_true, List.all_eq_true] at h
  exact h.2.1.1 c hc

theorem isLabelChar_of_mem_fqdn {s : String} (h : fqdn s = []) {c : Char} (hc : c ∈ s.toList) :
    isLabelChar c = true ∨ c = '.' := by
  have hlabels : ∀ p ∈ Text.pieces '.' s.toList, isLabel (String.ofList p) = true := by
    unfold fqdn at h
    split at h
    · cases h
    · split at h
      · cases h
      · simpa [Text.split] using h
  rw [← Text.joinPieces_pieces '.' s.toList] at hc
  rcases Text.mem_joinPieces hc with hdot | ⟨p, hp, hmem⟩
  · exact .inr hdot
  · exact .inl (isLabelChar_of_mem (hlabels p hp) (by simpa using hmem))

/-- A character of no label is not in one. -/
theorem notMem_of_isLabel {s : String} (h : isLabel s = true) {c : Char}
    (hc : isLabelChar c = false) : c ∉ s.toList := by
  intro hmem
  rw [isLabelChar_of_mem h hmem] at hc
  cases hc

theorem notMem_of_fqdn {s : String} (h : fqdn s = []) {c : Char} (hc : isLabelChar c = false)
    (hdot : c ≠ '.') : c ∉ s.toList := by
  intro hmem
  rcases isLabelChar_of_mem_fqdn h hmem with hlabel | heq
  · rw [hlabel] at hc
    cases hc
  · exact hdot heq

end Validation

/-! ### Names with a port -/

namespace Build

theorem toList_ported (host : String) (number : Nat) :
    (s!"{host}:{number}" : String).toList = host.toList ++ ':' :: (toString number).toList := by
  simp [ToString.toString]

/-- The port stands behind the last colon. -/
theorem ported_inj {host other : String} {number n : Nat} :
    s!"{host}:{number}" = s!"{other}:{n}" ↔ host = other ∧ number = n := by
  rw [← String.toList_inj, toList_ported, toList_ported,
    Decimal.append_cons_toString_inj (by decide), String.toList_inj]

end Build

/-! ### Services -/

namespace Service

/-- Good ports have names of their own, none of which was seen before. -/
theorem portProblems_several {seen : List String} {ports : List Port}
    (h : portProblems true seen ports = []) :
    (ports.map (·.name)).Nodup ∧
      ∀ p ∈ ports, Validation.isLabel p.name = true ∧ p.name ∉ seen := by
  induction ports generalizing seen with
  | nil => simp
  | cons p ports ih =>
    unfold portProblems at h
    split at h
    · simp [problemIf] at h
    · split at h
      · cases h
      · split at h
        · cases h
        · next hlabel hseen =>
          obtain ⟨hnodup, hall⟩ := ih (List.append_eq_nil_iff.mp h).2
          have hout : p.name ∉ ports.map (·.name) := by
            intro hmem
            obtain ⟨q, hq, heq⟩ := List.mem_map.mp hmem
            exact (hall q hq).2 (by simp [heq])
          refine ⟨List.nodup_cons.mpr ⟨hout, hnodup⟩, ?_⟩
          intro q hq
          rcases List.mem_cons.mp hq with rfl | hq
          · exact ⟨by simpa using hlabel, by simpa using hseen⟩
          · have hfresh := (hall q hq).2
            rw [List.mem_cons, not_or] at hfresh
            exact ⟨(hall q hq).1, hfresh.2⟩

theorem fqdn_of_validate {s : Service} (h : s.validate = []) : Validation.fqdn s.hostname = [] := by
  simp only [validate, List.append_eq_nil_iff] at h
  exact h.1.1

/-- The ports of a good service differ in their names, and only a lone one may have none. -/
theorem ports_of_validate {s : Service} (h : s.validate = []) :
    (s.ports.map (·.name)).Nodup ∧
      ∀ p ∈ s.ports, p.name = "" ∨ Validation.isLabel p.name = true := by
  simp only [validate, List.append_eq_nil_iff] at h
  obtain ⟨-, hports⟩ := h
  cases hs : s.ports with
  | nil => simp
  | cons p rest =>
    rw [hs] at hports
    cases rest with
    | nil =>
      refine ⟨by simp, ?_⟩
      intro q hq
      rw [List.mem_singleton] at hq
      subst hq
      unfold portProblems at hports
      split at hports
      · next hempty => exact .inl (by simpa using hempty)
      · split at hports
        · cases hports
        · next hlabel => exact .inr (by simpa using hlabel)
    | cons q rest =>
      have hseveral : decide (1 < (p :: q :: rest).length) = true := by simp
      rw [hseveral] at hports
      obtain ⟨hnodup, hall⟩ := portProblems_several hports
      exact ⟨hnodup, fun r hr => .inr (hall r hr).1⟩

theorem port_eq_of_name {s : Service} (h : s.validate = []) {p q : Port} (hp : p ∈ s.ports)
    (hq : q ∈ s.ports) (hname : p.name = q.name) : p = q :=
  List.inj_on_of_nodup_map (ports_of_validate h).1 hp hq hname

end Service

/-! ### Tags -/

namespace Tags

theorem pair_of_validate {t : Tags} (h : t.validate = []) {k v : String}
    (hmem : (k, v) ∈ t.toList) :
    k ≠ "" ∧ Validation.isTagPart k = true ∧ Validation.isTagPart v = true := by
  have hpair := List.flatMap_eq_nil_iff.mp h (k, v) hmem
  simpa [and_assoc] using hpair

theorem notMem_of_isTagPart {s : String} (h : Validation.isTagPart s = true) {c : Char}
    (hc : Validation.isTagChar c = false) : c ∉ s.toList := by
  intro hmem
  rw [List.all_eq_true.mp h c hmem] at hc
  cases hc

theorem mem_pairText_iff {k v : String} {c : Char} (heq : c ≠ '=') :
    c ∈ (pairText (k, v)).toList ↔ c ∈ k.toList ∨ c ∈ v.toList := by
  rw [pairText]
  split
  · next hempty => simp [String.isEmpty_iff.mp hempty]
  · simp [heq]

theorem notMem_pairText {k v : String} (hk : Validation.isTagPart k = true)
    (hv : Validation.isTagPart v = true) {c : Char} (hc : Validation.isTagChar c = false)
    (heq : c ≠ '=') : c ∉ (pairText (k, v)).toList := by
  rw [mem_pairText_iff heq, not_or]
  exact ⟨notMem_of_isTagPart hk hc, notMem_of_isTagPart hv hc⟩

theorem splitFirst_pairText {k v : String} (hk : Validation.isTagPart k = true) :
    Text.splitFirst '=' (pairText (k, v)) = (k, v) := by
  have hfree : '=' ∉ k.toList := notMem_of_isTagPart hk (by decide)
  by_cases hempty : v = ""
  · have htext : pairText (k, v) = k := by simp [pairText, hempty]
    rw [htext, Text.splitFirst, Text.cutFirst_of_notMem hfree, hempty]
    simp
  · have htext : (pairText (k, v)).toList = k.toList ++ '=' :: v.toList := by
      simp [pairText, hempty]
    rw [Text.splitFirst, htext, Text.cutFirst_append_cons hfree]
    simp

theorem sortTexts_perm (l : List String) : (sortTexts l).Perm l := List.mergeSort_perm l _

theorem text_of_isEmpty {t : Tags} (h : t.isEmpty = true) : t.text = "" := by
  have hnil : t.toList = [] := List.isEmpty_iff.mp h
  simp [text, hnil, sortTexts, Text.join]

theorem mem_text_iff_exists {t : Tags} {c : Char} (hcomma : c ≠ ',') :
    c ∈ t.text.toList ↔ ∃ e ∈ t.toList, c ∈ (pairText e).toList := by
  constructor
  · intro h
    rcases Text.mem_join h with hsep | ⟨s, hs, hc⟩
    · simp [hcomma] at hsep
    · obtain ⟨e, he, rfl⟩ := List.mem_map.mp ((sortTexts_perm _).mem_iff.mp hs)
      exact ⟨e, he, hc⟩
  · rintro ⟨e, he, hc⟩
    have hmem : pairText e ∈ t.toList.map pairText := List.mem_map_of_mem he
    exact Text.mem_join_of_mem ((sortTexts_perm _).mem_iff.mpr hmem) hc

/-- Good tags are read back from their text. -/
theorem ofText_text_of_validate {t : Tags} (h : t.validate = []) : ofText t.text = t := by
  have hpairs := fun k v => pair_of_validate h (k := k) (v := v)
  let texts := sortTexts (t.toList.map pairText)
  have hperm : texts.Perm (t.toList.map pairText) := sortTexts_perm _
  have hread : (texts.filter (!·.isEmpty)).map (Text.splitFirst '=') =
      texts.map (Text.splitFirst '=') := by
    rw [List.filter_eq_self.mpr]
    intro s hs
    obtain ⟨⟨k, v⟩, hmem, rfl⟩ := List.mem_map.mp (hperm.mem_iff.mp hs)
    obtain ⟨hk, -, -⟩ := hpairs k v hmem
    rw [pairText]
    split <;> simp [hk]
  have hback : (texts.map (Text.splitFirst '=')).Perm t.toList := by
    have hid : (t.toList.map pairText).map (Text.splitFirst '=') = t.toList := by
      rw [List.map_map]
      refine (List.map_congr_left ?_).trans (List.map_id t.toList)
      rintro ⟨k, v⟩ hmem
      exact splitFirst_pairText (hpairs k v hmem).2.1
    exact (hperm.map _).trans (.of_eq hid)
  have hfree : ∀ s ∈ texts, ',' ∉ s.toList := by
    intro s hs
    obtain ⟨⟨k, v⟩, hmem, rfl⟩ := List.mem_map.mp (hperm.mem_iff.mp hs)
    obtain ⟨-, hk, hv⟩ := hpairs k v hmem
    exact notMem_pairText hk hv (by decide) (by decide)
  have hpieces : (Text.split ',' t.text).filter (!·.isEmpty) = texts.filter (!·.isEmpty) := by
    by_cases hempty : texts = []
    · have htext : t.text = "" := by
        change Text.join "," texts = ""
        rw [hempty, Text.join]
      rw [htext, hempty]
      decide
    · have hsplit : Text.split ',' t.text = texts := Text.split_join (by decide) hempty hfree
      rw [hsplit]
  change Tags.mk (Table.ofList _) = t
  rw [hpieces, hread, Table.ofList_of_perm hback]

theorem text_inj {t u : Tags} (ht : t.validate = []) (hu : u.validate = []) :
    t.text = u.text ↔ t = u := by
  constructor
  · intro h
    rw [← ofText_text_of_validate ht, h, ofText_text_of_validate hu]
  · rintro rfl
    rfl

end Tags

/-! ### Clusters -/

namespace Proxy

/-- Names and tags of a subset are checked ones. -/
structure Subset.IsChecked (s : Subset) : Prop where
  hostname : Validation.fqdn s.hostname = []
  port : s.port.name = "" ∨ Validation.isLabel s.port.name = true
  tags : s.tags.validate = []

theorem Subset.IsChecked.notMem_hostname {s : Subset} (h : s.IsChecked) {c : Char}
    (hc : Validation.isLabelChar c = false) (hdot : c ≠ '.') : c ∉ s.hostname.toList :=
  Validation.notMem_of_fqdn h.hostname hc hdot

theorem Subset.IsChecked.notMem_port {s : Subset} (h : s.IsChecked) {c : Char}
    (hc : Validation.isLabelChar c = false) : c ∉ s.port.name.toList := by
  rcases h.port with hempty | hlabel
  · simp [hempty]
  · exact Validation.notMem_of_isLabel hlabel hc

end Proxy

namespace Build

open Proxy

/-- The part of the name of a cluster after the hostname. -/
def nameTail (portName : String) (tags : Tags) : List Char :=
  portName.toList ++ if tags.isEmpty then [] else '|' :: tags.text.toList

theorem toList_outboundName (hostname : String) (port : Port) (tags : Tags) :
    (outboundName hostname port tags).toList =
      "outbound:".toList ++ (hostname.toList ++ '|' :: nameTail port.name tags) := by
  rw [outboundName, nameTail]
  split <;> simp [ToString.toString]

theorem cutFirst_nameTail {p : String} (hp : '|' ∉ p.toList) (t : Tags) :
    Text.cutFirst '|' (nameTail p t) =
      (p.toList, if t.isEmpty then none else some t.text.toList) := by
  rw [nameTail]
  split
  · rw [List.append_nil, Text.cutFirst_of_notMem hp]
  · rw [Text.cutFirst_append_cons hp]

theorem nameTail_inj {p q : String} {t u : Tags} (hp : '|' ∉ p.toList) (hq : '|' ∉ q.toList)
    (ht : t.validate = []) (hu : u.validate = []) (h : nameTail p t = nameTail q u) :
    p = q ∧ t = u := by
  have hcut := congrArg (Text.cutFirst '|') h
  rw [cutFirst_nameTail hp, cutFirst_nameTail hq, Prod.mk.injEq, String.toList_inj] at hcut
  obtain ⟨hname, htext⟩ := hcut
  refine ⟨hname, (Tags.text_inj ht hu).mp ?_⟩
  split at htext
  · next hempty =>
    split at htext
    · next hempty' => rw [Tags.text_of_isEmpty hempty, Tags.text_of_isEmpty hempty']
    · cases htext
  · split at htext
    · cases htext
    · exact String.toList_inj.mp (Option.some.inj htext)

/-- The name of a cluster tells the service, the name of the port and the tags behind it. -/
theorem outboundName_inj {s t : Subset} (hs : s.IsChecked) (ht : t.IsChecked) :
    outboundName s.hostname s.port s.tags = outboundName t.hostname t.port t.tags ↔
      s.hostname = t.hostname ∧ s.port.name = t.port.name ∧ s.tags = t.tags := by
  constructor
  · intro h
    have hbar : Validation.isLabelChar '|' = false := by decide
    have hdot : '|' ≠ '.' := by decide
    have hchars := congrArg String.toList h
    rw [toList_outboundName, toList_outboundName, List.append_cancel_left_eq] at hchars
    have hcut := congrArg (Text.cutFirst '|') hchars
    rw [Text.cutFirst_append_cons (hs.notMem_hostname hbar hdot),
      Text.cutFirst_append_cons (ht.notMem_hostname hbar hdot), Prod.mk.injEq, Option.some.injEq,
      String.toList_inj] at hcut
    have htail := nameTail_inj (hs.notMem_port hbar) (ht.notMem_port hbar) hs.tags ht.tags hcut.2
    exact ⟨hcut.1, htail⟩
  · rintro ⟨hhost, hport, htags⟩
    rw [outboundName, outboundName, hhost, hport, htags]

end Build

end MeshControl
