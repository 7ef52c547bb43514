import MeshControl.Config.Schema
import MeshControl.Config.Error

/-!
What every store of configuration offers. Calls that may change the store return it with their
result; a list may change it too, because back-ends that fail keep count of their failures.
-/
namespace MeshControl.Config

class Store (σ : Type) where
  catalog : σ → Catalog
  get : σ → (type key : String) → Option (Message × Revision)
  /-- All records of a type, by key. A type that is not known has none. -/
  list : σ → (type : String) → Except StoreError (List Record) × σ
  /-- Creates a record. The type follows from the name of the message. -/
  post : σ → Message → Except StoreError Revision × σ
  /-- Replaces a record that still has the given revision. -/
  put : σ → Message → Revision → Except StoreError Revision × σ
  delete : σ → (type key : String) → Except StoreError Unit × σ

end MeshControl.Config
