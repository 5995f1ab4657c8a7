import ServiceTemplates.Store.Memory

/-!
# Clusters

A cluster is one store per kind and a supply of identities for new objects.
`Listers` is the reading side that passes and triggers look at: it may be the
cluster itself or a cache that lags behind it.
-/

namespace ServiceTemplates

/-- Cached read access to the objects of every kind. -/
structure Listers where
  /-- The object of a kind, namespace and name. -/
  get? : (k : Kind) → Option String → String → Option (Object k)
  /-- The objects of a kind in a namespace, or in all of them, that pass a filter. -/
  list : (k : Kind) → Option String → LabelFilter → List (Object k)

/-- The stores of all kinds. -/
structure Cluster where
  store : (k : Kind) → Store k
  issued : Nat := 0

namespace Cluster

def empty : Cluster where
  store _ := Store.empty

instance : Inhabited Cluster := ⟨empty⟩

/-- The identity that is given out next. -/
def nextUid (c : Cluster) : String := "uid#" ++ toString (c.issued + 1)

def setStore (c : Cluster) {k : Kind} (s : Store k) : Cluster :=
  { c with store := fun k' => if h : k = k' then h ▸ s else c.store k' }

theorem store_setStore (c : Cluster) {k : Kind} (s : Store k) : (c.setStore s).store k = s := by
  simp [setStore]

theorem store_setStore_of_ne (c : Cluster) {k k' : Kind} (s : Store k) (h : k ≠ k') :
    (c.setStore s).store k' = c.store k' := by
  simp [setStore, h]

/-- Puts an object into its store from outside. -/
def insert (c : Cluster) {k : Kind} (obj : Object k) : Object k × Cluster :=
  let stored := Store.seeded obj c.nextUid
  let issued := if obj.metadata.uid.isSome then c.issued else c.issued + 1
  (stored, { c.setStore ((c.store k).put stored) with issued := issued })

def create (c : Cluster) {k : Kind} (obj : Object k) : Except Error (Object k) × Cluster :=
  match (c.store k).create c.nextUid obj with
  | (.ok stored, s) => (.ok stored, { c.setStore s with issued := c.issued + 1 })
  | (.error e, _) => (.error e, c)

def replace (c : Cluster) {k : Kind} (obj : Object k) : Except Error (Object k) × Cluster :=
  match (c.store k).replace obj with
  | (.ok stored, s) => (.ok stored, c.setStore s)
  | (.error e, _) => (.error e, c)

def delete (c : Cluster) (k : Kind) (key : ObjectKey) : Cluster :=
  c.setStore ((c.store k).delete key)

/-- The reading side of the stores themselves. -/
def listers (c : Cluster) : Listers where
  get? k ns name := (c.store k).get? ns name
  list k ns filter := (c.store k).list ns filter

end Cluster

end ServiceTemplates
