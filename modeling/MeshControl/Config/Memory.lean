import MeshControl.Config.Store

/-!
A store in memory. One counter of 64 bits numbers the writes of all types, so no revision is
given twice before it runs over. A write draws its number before it looks for the record, also
if it then fails.
-/
namespace MeshControl.Config

structure Entry where
  content : Message
  revision : Revision
deriving Inhabited

structure Memory where
  catalog : Catalog
  writes : UInt64
  records : Table (Table Entry)

namespace Memory

def new (catalog : Catalog) : Memory := ⟨catalog, 0, Table.empty⟩

/-- The records of a type by their keys. -/
def ofType (m : Memory) (type : String) : Table Entry := (m.records.find? type).getD Table.empty

def held? (m : Memory) (type key : String) : Option Entry := (m.ofType type).find? key

def get (m : Memory) (type key : String) : Option (Message × Revision) :=
  (m.held? type key).map fun e => (e.content, e.revision)

def list (m : Memory) (type : String) : List Record :=
  (m.ofType type).toList.map fun (key, e) => ⟨type, key, e.revision, e.content⟩

/-- The schema and the key under which a message may be written. -/
def accept (m : Memory) (content : Message) : Except StoreError (Schema × String) :=
  match m.catalog.byMessage? content.name with
  | none => .error (.unknownType content.name)
  | some schema =>
    if schema.internal then .error (.unknownType schema.type)
    else match schema.validate content with
      | .error _ => .error .overflow
      | .ok [] =>
        match schema.key content with
        | .ok key => .ok (schema, key)
        | .error problems => .error (.invalid schema.type problems)
      | .ok problems => .error (.invalid schema.type problems)

def revisionAt (n : UInt64) : Revision := toString n.toNat

/-- The store with its write counter moved on. -/
def draw (m : Memory) : Memory := { m with writes := m.writes + 1 }

def write (m : Memory) (type key : String) (e : Entry) : Memory :=
  { m with records := m.records.insert type ((m.ofType type).insert key e) }

def remove (m : Memory) (type key : String) : Memory :=
  { m with records := m.records.insert type ((m.ofType type).erase key) }

def post (m : Memory) (content : Message) : Except StoreError Revision × Memory :=
  match m.accept content with
  | .error e => (.error e, m)
  | .ok (schema, key) =>
    let m := m.draw
    match m.held? schema.type key with
    | some _ => (.error (.alreadyExists schema.type key), m)
    | none =>
      let revision := revisionAt m.writes
      (.ok revision, m.write schema.type key ⟨content, revision⟩)

def put (m : Memory) (content : Message) (revision : Revision) :
    Except StoreError Revision × Memory :=
  match m.accept content with
  | .error e => (.error e, m)
  | .ok (schema, key) =>
    let m := m.draw
    match m.held? schema.type key with
    | none => (.error (.notFound schema.type key), m)
    | some current =>
      if current.revision ≠ revision then
        (.error (.revisionMismatch schema.type key revision current.revision), m)
      else
        let next := revisionAt m.writes
        (.ok next, m.write schema.type key ⟨content, next⟩)

def delete (m : Memory) (type key : String) : Except StoreError Unit × Memory :=
  match m.catalog.get? type with
  | none => (.error (.unknownType type), m)
  | some schema =>
    if schema.internal then (.error (.unknownType type), m)
    else match m.held? type key with
      | none => (.error (.notFound type key), m)
      | some _ => (.ok (), m.remove type key)

instance : Store Memory where
  catalog := Memory.catalog
  get := Memory.get
  list m type := (.ok (m.list type), m)
  post := Memory.post
  put := Memory.put
  delete := Memory.delete

/-! ### What the operations do to the records -/

@[simp] theorem catalog_draw (m : Memory) : m.draw.catalog = m.catalog := rfl

@[simp] theorem catalog_write (m : Memory) (type key : String) (e : Entry) :
    (m.write type key e).catalog = m.catalog := rfl

@[simp] theorem catalog_remove (m : Memory) (type key : String) :
    (m.remove type key).catalog = m.catalog := rfl

@[simp] theorem writes_write (m : Memory) (type key : String) (e : Entry) :
    (m.write type key e).writes = m.writes := rfl

@[simp] theorem held?_new (c : Catalog) (type key : String) : (new c).held? type key = none := rfl

@[simp] theorem held?_draw (m : Memory) (type key : String) :
    m.draw.held? type key = m.held? type key := rfl

theorem held?_replace (m : Memory) (type : String) (t : Table Entry) (type' key : String) :
    held? { m with records := m.records.insert type t } type' key =
      if type' = type then t.find? key else m.held? type' key := by
  simp only [held?, ofType, Table.find?_insert]
  split <;> rfl

theorem held?_write (m : Memory) (type key : String) (e : Entry) (type' key' : String) :
    (m.write type key e).held? type' key' =
      if type' = type ∧ key' = key then some e else m.held? type' key' := by
  rw [write, held?_replace, Table.find?_insert]
  by_cases htype : type' = type <;> by_cases hkey : key' = key <;> simp [htype, hkey, held?]

theorem held?_remove (m : Memory) (type key type' key' : String) :
    (m.remove type key).held? type' key' =
      if type' = type ∧ key' = key then none else m.held? type' key' := by
  rw [remove, held?_replace, Table.find?_erase]
  by_cases htype : type' = type <;> by_cases hkey : key' = key <;> simp [htype, hkey, held?]

/-- A message is accepted under the type of its schema, if that is not internal, and under its
own key, if it has no problems. -/
theorem accept_eq_ok_iff {m : Memory} {content : Message} {s : Schema} {key : String} :
    m.accept content = .ok (s, key) ↔
      m.catalog.byMessage? content.name = some s ∧ s.internal = false ∧
        s.validate content = .ok [] ∧ s.key content = .ok key := by
  unfold accept
  cases hs : m.catalog.byMessage? content.name with
  | none => simp
  | some schema =>
    cases hinternal : schema.internal with
    | true => grind
    | false =>
      cases hverdict : schema.validate content with
      | error overflow => grind
      | ok problems =>
        cases problems with
        | cons p ps => grind
        | nil => cases hkey : schema.key content <;> grind

theorem post_of_refused {m : Memory} {content : Message} {e : StoreError}
    (h : m.accept content = .error e) : m.post content = (.error e, m) := by
  simp [post, h]

theorem post_of_accepted {m : Memory} {content : Message} {s : Schema} {key : String}
    (h : m.accept content = .ok (s, key)) :
    m.post content =
      if (m.held? s.type key).isSome then (.error (.alreadyExists s.type key), m.draw)
      else (.ok (revisionAt m.draw.writes),
        m.draw.write s.type key ⟨content, revisionAt m.draw.writes⟩) := by
  simp only [post, h, held?_draw]
  cases m.held? s.type key <;> simp

theorem put_of_refused {m : Memory} {content : Message} {r : Revision} {e : StoreError}
    (h : m.accept content = .error e) : m.put content r = (.error e, m) := by
  simp [put, h]

theorem put_of_absent {m : Memory} {content : Message} {r : Revision} {s : Schema}
    {key : String} (h : m.accept content = .ok (s, key)) (hnone : m.held? s.type key = none) :
    m.put content r = (.error (.notFound s.type key), m.draw) := by
  simp [put, h, hnone]

theorem put_of_present {m : Memory} {content : Message} {r : Revision} {s : Schema}
    {key : String} {current : Entry} (h : m.accept content = .ok (s, key))
    (hsome : m.held? s.type key = some current) :
    m.put content r =
      if current.revision ≠ r then
        (.error (.revisionMismatch s.type key r current.revision), m.draw)
      else (.ok (revisionAt m.draw.writes),
        m.draw.write s.type key ⟨content, revisionAt m.draw.writes⟩) := by
  simp [put, h, hsome]

theorem delete_of_unwritable {m : Memory} {type : String} (key : String)
    (h : (m.catalog.get? type).any (!·.internal) = false) :
    m.delete type key = (.error (.unknownType type), m) := by
  unfold delete
  cases hs : m.catalog.get? type with
  | none => rfl
  | some s =>
    have hinternal : s.internal = true := by simpa [hs] using h
    simp [hinternal]

theorem delete_of_writable {m : Memory} {type : String} (key : String)
    (h : (m.catalog.get? type).any (!·.internal) = true) :
    m.delete type key =
      if (m.held? type key).isNone then (.error (.notFound type key), m)
      else (.ok (), m.remove type key) := by
  obtain ⟨s, hs, hinternal⟩ := (Option.any_eq_true _ _).mp h
  simp only [delete, hs]
  cases m.held? type key <;> simp_all

theorem catalog_post (m : Memory) (content : Message) :
    (m.post content).2.catalog = m.catalog := by
  cases h : m.accept content with
  | error e => rw [post_of_refused h]
  | ok place =>
    rw [post_of_accepted h]
    split <;> rfl

theorem catalog_put (m : Memory) (content : Message) (r : Revision) :
    (m.put content r).2.catalog = m.catalog := by
  cases h : m.accept content with
  | error e => rw [put_of_refused h]
  | ok place =>
    cases hentry : m.held? place.1.type place.2 with
    | none => rw [put_of_absent h hentry]; rfl
    | some current =>
      rw [put_of_present h hentry]
      split <;> rfl

theorem catalog_delete (m : Memory) (type key : String) :
    (m.delete type key).2.catalog = m.catalog := by
  cases h : (m.catalog.get? type).any (!·.internal) with
  | false => rw [delete_of_unwritable key h]
  | true =>
    rw [delete_of_writable key h]
    split <;> rfl

end Memory

end MeshControl.Config
