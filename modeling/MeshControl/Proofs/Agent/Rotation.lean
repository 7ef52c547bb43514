import Mathlib.Algebra.Order.BigOperators.Group.List
import Mathlib.Algebra.Order.Ring.Nat
import MeshControl.Agent.Watcher

/-!
Which changes of certificates a watcher sees. The digest in a bootstrap is one of the files one
after the other, so it tells two states of the files apart unless the octets of all files together
are the same. That leaves two ways to miss a change: octets that move over the border from one file
to the next, and an empty file in the place of a missing one. A change of the octets of one file
alone is always seen, at the first look.
-/
namespace MeshControl

namespace FileContent

/-- What a file adds to the digest. -/
def bytes : FileContent → List UInt8
  | octets bytes => bytes
  | _ => []

/-- The number of octets in a file, if there is one. -/
def size? : FileContent → Option Nat
  | octets bytes => some bytes.length
  | _ => none

theorem eq_iff_of_readable {a b : FileContent} (ha : a ≠ .directory) (hb : b ≠ .directory) :
    a = b ↔ a.bytes = b.bytes ∧ a.size? = b.size? := by
  cases a <;> cases b <;> simp_all [bytes, size?]

theorem length_bytes (a : FileContent) : a.bytes.length = a.size?.getD 0 := by
  cases a <;> rfl

end FileContent

namespace Certificates

/-- A way to read files under which none of some paths is a directory. -/
def Readable (read : String → FileContent) (paths : List String) : Prop :=
  ∀ path ∈ paths, read path ≠ .directory

/-- The octets of all files, one after the other. -/
def joined (read : String → FileContent) (paths : List String) : List UInt8 :=
  paths.flatMap fun path => (read path).bytes

/-- Two texts that are not the same, but have one digest. -/
def Collide (a b : List UInt8) : Prop := a ≠ b ∧ Sha256.hex a = Sha256.hex b

theorem contents_of_readable {read : String → FileContent} {paths : List String}
    (h : Readable read paths) : contents read paths = some (joined read paths) := by
  induction paths with
  | nil => rfl
  | cons path paths ih =>
    have hrest := ih fun p hp => h p (List.mem_cons_of_mem _ hp)
    have hpath := h path List.mem_cons_self
    unfold contents
    cases hread : read path with
    | missing => simpa [joined, hread, FileContent.bytes] using hrest
    | directory => exact absurd hread hpath
    | octets bytes => simp [hrest, joined, hread, FileContent.bytes]

/-! ### Where the files end -/

variable {r₁ r₂ : String → FileContent} {paths : List String}

/-- Files of the same lengths do not run into each other. -/
theorem bytes_eq_of_joined
    (hlengths : ∀ path ∈ paths, (r₁ path).bytes.length = (r₂ path).bytes.length)
    (h : joined r₁ paths = joined r₂ paths) :
    ∀ path ∈ paths, (r₁ path).bytes = (r₂ path).bytes := by
  induction paths with
  | nil => simp
  | cons path paths ih =>
    have hsplit : (r₁ path).bytes ++ joined r₁ paths = (r₂ path).bytes ++ joined r₂ paths := h
    obtain ⟨hfirst, hrest⟩ := List.append_inj hsplit (hlengths path List.mem_cons_self)
    intro p hp
    rcases List.mem_cons.mp hp with rfl | hp
    · exact hfirst
    · exact ih (fun p hp => hlengths p (List.mem_cons_of_mem _ hp)) hrest p hp

theorem length_joined (read : String → FileContent) (paths : List String) :
    (joined read paths).length = (paths.map fun path => (read path).bytes.length).sum :=
  List.length_flatMap

/-- Where nothing else changes, one file cannot change its length unnoticed. -/
theorem length_eq_of_others {path : String} (hpath : path ∈ paths)
    (hothers : ∀ p ∈ paths, p ≠ path → (r₁ p).bytes = (r₂ p).bytes)
    (h : joined r₁ paths = joined r₂ paths) : (r₁ path).bytes.length ≤ (r₂ path).bytes.length := by
  by_contra hlonger
  have hle : ∀ p ∈ paths, (r₂ p).bytes.length ≤ (r₁ p).bytes.length := by
    intro p hp
    by_cases hsame : p = path
    · subst hsame
      omega
    · rw [hothers p hp hsame]
  have hlt := List.sum_lt_sum _ _ hle ⟨path, hpath, by omega⟩
  have hlength := congrArg List.length h
  rw [length_joined, length_joined] at hlength
  omega

theorem bytes_eq_of_others {path : String} (hpath : path ∈ paths)
    (hothers : ∀ p ∈ paths, p ≠ path → (r₁ p).bytes = (r₂ p).bytes)
    (h : joined r₁ paths = joined r₂ paths) : (r₁ path).bytes = (r₂ path).bytes := by
  have hforth := length_eq_of_others hpath hothers h
  have hback := length_eq_of_others hpath (fun p hp hne => (hothers p hp hne).symm) h.symm
  refine bytes_eq_of_joined ?_ h path hpath
  intro p hp
  by_cases hsame : p = path
  · subst hsame
    omega
  · rw [hothers p hp hsame]

/-- Between states with the same octets in all, the files are the same if they have the same
sizes. -/
theorem eq_iff_size?_of_joined (h₁ : Readable r₁ paths) (h₂ : Readable r₂ paths)
    (h : joined r₁ paths = joined r₂ paths) :
    (∀ path ∈ paths, r₁ path = r₂ path) ↔ ∀ path ∈ paths, (r₁ path).size? = (r₂ path).size? := by
  constructor
  · intro hsame path hpath
    rw [hsame path hpath]
  · intro hsizes path hpath
    have hlengths : ∀ p ∈ paths, (r₁ p).bytes.length = (r₂ p).bytes.length := by
      intro p hp
      rw [FileContent.length_bytes, FileContent.length_bytes, hsizes p hp]
    exact (FileContent.eq_iff_of_readable (h₁ path hpath) (h₂ path hpath)).mpr
      ⟨bytes_eq_of_joined hlengths h path hpath, hsizes path hpath⟩

/-! ### Bootstraps -/

variable {m : Mesh} {role : Role}

theorem bootstrap_of_readable {read : String → FileContent} (hwatched : watched m role = some paths)
    (h : Readable read paths) :
    bootstrap m role read =
      { Bootstrap.ofMesh m with certificates := some (Sha256.hex (joined read paths)) } := by
  unfold bootstrap digest
  rw [hwatched, Option.bind_some, contents_of_readable h, Option.map_some]

theorem bootstrap_eq_iff (hwatched : watched m role = some paths) (h₁ : Readable r₁ paths)
    (h₂ : Readable r₂ paths) (hdigest : ¬ Collide (joined r₁ paths) (joined r₂ paths)) :
    bootstrap m role r₁ = bootstrap m role r₂ ↔ joined r₁ paths = joined r₂ paths := by
  rw [bootstrap_of_readable hwatched h₁, bootstrap_of_readable hwatched h₂]
  constructor
  · intro h
    have hhex : Sha256.hex (joined r₁ paths) = Sha256.hex (joined r₂ paths) :=
      Option.some.inj (congrArg Bootstrap.certificates h)
    by_contra hne
    exact hdigest ⟨hne, hhex⟩
  · intro h
    rw [h]

end Certificates

namespace Watcher

open Certificates

theorem watch_look (w : Watcher) (read : String → FileContent) :
    (w.look read).1.watch = w.watch := by
  unfold look
  simp only
  split <;> rfl

/-- After a look the last bootstrap is the one that was seen, whether it was new or not. -/
theorem last_look (w : Watcher) (read : String → FileContent) :
    (w.look read).1.last = some (bootstrap w.watch.mesh w.watch.role read) := by
  unfold look
  simp only
  split
  · next h => exact h
  · rfl

theorem change_look (w : Watcher) (read : String → FileContent) :
    (w.look read).2 =
      if w.last = some (bootstrap w.watch.mesh w.watch.role read) then none
      else some (bootstrap w.watch.mesh w.watch.role read) := by
  unfold look
  simp only
  split <;> rfl

/-- The second of two looks in a row tells of a change between them. -/
theorem change_look_look (w : Watcher) (r₁ r₂ : String → FileContent) :
    ((w.look r₁).1.look r₂).2 =
      if bootstrap w.watch.mesh w.watch.role r₁ = bootstrap w.watch.mesh w.watch.role r₂ then none
      else some (bootstrap w.watch.mesh w.watch.role r₂) := by
  rw [change_look, watch_look, last_look]
  exact if_congr Option.some_inj rfl rfl

/-- Unless two texts collide, two states of the files that can be read make the same bootstrap
exactly if the octets of all files together are the same. Then a file has changed only if some
file has another size or is there in only one of the states. If all other files stay as they are, a
file never changes its octets unnoticed. A watcher, whatever it has seen before, has a new
bootstrap at the first look after each change that makes another one. -/
theorem changes_seen_iff {w : Watcher} {paths : List String}
    (hwatched : watched w.watch.mesh w.watch.role = some paths) {r₁ r₂ : String → FileContent}
    (h₁ : Readable r₁ paths) (h₂ : Readable r₂ paths)
    (hdigest : ¬ Collide (joined r₁ paths) (joined r₂ paths)) :
    let b₁ := bootstrap w.watch.mesh w.watch.role r₁
    let b₂ := bootstrap w.watch.mesh w.watch.role r₂
    (b₁ = b₂ ↔ joined r₁ paths = joined r₂ paths) ∧
      (b₁ = b₂ → ((∀ path ∈ paths, r₁ path = r₂ path) ↔
        ∀ path ∈ paths, (r₁ path).size? = (r₂ path).size?)) ∧
      (∀ path ∈ paths, (∀ p ∈ paths, p ≠ path → r₁ p = r₂ p) →
        (r₁ path).bytes ≠ (r₂ path).bytes → b₁ ≠ b₂) ∧
      ((w.look r₁).1.look r₂).2 =
        if joined r₁ paths = joined r₂ paths then none else some b₂ := by
  intro b₁ b₂
  have hsame : b₁ = b₂ ↔ joined r₁ paths = joined r₂ paths :=
    bootstrap_eq_iff hwatched h₁ h₂ hdigest
  refine ⟨hsame, ?_, ?_, ?_⟩
  · intro h
    exact eq_iff_size?_of_joined h₁ h₂ (hsame.mp h)
  · intro path hpath hothers hchanged h
    apply hchanged
    apply bytes_eq_of_others hpath _ (hsame.mp h)
    intro p hp hne
    rw [hothers p hp hne]
  · rw [change_look_look]
    exact if_congr hsame rfl rfl

/-! ### A key that is replaced, and one that only moves -/

/-- The files of a workload: a chain and a key, and no root. -/
def workloadFiles (chain key : String) (path : String) : FileContent :=
  if path = "/etc/certs/cert-chain.pem" then .text chain
  else if path = "/etc/certs/key.pem" then .text key
  else .missing

def workloadPaths : List String :=
  ["/etc/certs/cert-chain.pem", "/etc/certs/key.pem", "/etc/certs/root-cert.pem"]

/-- The watcher of a sidecar in a mesh with mutual TLS. -/
def ofWorkload : Watcher :=
  .new ⟨{ Mesh.default with authPolicy := .mutualTls }, .sidecar, defaultInterval⟩ 0

theorem watched_ofWorkload :
    watched ofWorkload.watch.mesh ofWorkload.watch.role = some workloadPaths := by
  decide +kernel

theorem readable_workloadFiles (chain key : String) :
    Readable (workloadFiles chain key) workloadPaths := by
  intro path _
  unfold workloadFiles FileContent.text
  split
  · simp
  · split <;> simp

theorem joined_workloadFiles (chain key : String) :
    joined (workloadFiles chain key) workloadPaths =
      chain.toUTF8.data.toList ++ key.toUTF8.data.toList := by
  simp [joined, workloadPaths, workloadFiles, FileContent.text, FileContent.bytes]

theorem replaced_key_seen :
    watched ofWorkload.watch.mesh ofWorkload.watch.role = some workloadPaths ∧
      Readable (workloadFiles "chain" "key-1") workloadPaths ∧
      Readable (workloadFiles "chain" "key-2") workloadPaths ∧
      ¬ Collide (joined (workloadFiles "chain" "key-1") workloadPaths)
        (joined (workloadFiles "chain" "key-2") workloadPaths) ∧
      ((ofWorkload.look (workloadFiles "chain" "key-1")).1.look (workloadFiles "chain" "key-2")).2 =
        some (bootstrap ofWorkload.watch.mesh ofWorkload.watch.role
          (workloadFiles "chain" "key-2")) := by
  have hfirst := readable_workloadFiles "chain" "key-1"
  have hsecond := readable_workloadFiles "chain" "key-2"
  have hdigest : ¬ Collide (joined (workloadFiles "chain" "key-1") workloadPaths)
      (joined (workloadFiles "chain" "key-2") workloadPaths) := by
    rw [joined_workloadFiles, joined_workloadFiles]
    rintro ⟨-, hhex⟩
    revert hhex
    decide +kernel
  obtain ⟨-, -, -, hlook⟩ := changes_seen_iff watched_ofWorkload hfirst hsecond hdigest
  refine ⟨watched_ofWorkload, hfirst, hsecond, hdigest, hlook.trans (if_neg ?_)⟩
  rw [joined_workloadFiles, joined_workloadFiles]
  decide +kernel

/-- An octet that moves from the chain to the key changes two files and no bootstrap. -/
theorem moved_border_unseen :
    Readable (workloadFiles "ab" "c") workloadPaths ∧
      Readable (workloadFiles "a" "bc") workloadPaths ∧
      (∃ path ∈ workloadPaths, workloadFiles "ab" "c" path ≠ workloadFiles "a" "bc" path) ∧
      bootstrap ofWorkload.watch.mesh ofWorkload.watch.role (workloadFiles "ab" "c") =
        bootstrap ofWorkload.watch.mesh ofWorkload.watch.role (workloadFiles "a" "bc") ∧
      ((ofWorkload.look (workloadFiles "ab" "c")).1.look (workloadFiles "a" "bc")).2 = none := by
  have hfirst := readable_workloadFiles "ab" "c"
  have hsecond := readable_workloadFiles "a" "bc"
  have hsame : bootstrap ofWorkload.watch.mesh ofWorkload.watch.role (workloadFiles "ab" "c") =
      bootstrap ofWorkload.watch.mesh ofWorkload.watch.role (workloadFiles "a" "bc") := by
    have hjoined : joined (workloadFiles "ab" "c") workloadPaths =
        joined (workloadFiles "a" "bc") workloadPaths := by
      rw [joined_workloadFiles, joined_workloadFiles]
      decide +kernel
    rw [bootstrap_of_readable watched_ofWorkload hfirst,
      bootstrap_of_readable watched_ofWorkload hsecond, hjoined]
  refine ⟨hfirst, hsecond, ⟨"/etc/certs/key.pem", by decide, by decide +kernel⟩, hsame, ?_⟩
  rw [change_look_look]
  exact if_pos hsame

end Watcher

end MeshControl
