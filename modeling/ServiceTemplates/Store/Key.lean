import ServiceTemplates.Error
import ServiceTemplates.Resource.Metadata

/-!
# Keys of objects

A queue holds the key of an object: namespace and name around a slash, or the name
alone for an object without a namespace. `splitKey` reads the key of a namespaced
object back; neither part of it may be empty, and the name may not hold a slash, so
that a key has one reading at most.
-/

namespace ServiceTemplates

def joinKey (ns name : String) : String := if ns.isEmpty then name else ns ++ "/" ++ name

def Metadata.key (m : Metadata) : String := joinKey (m.ns.getD "") (m.name.getD "")

def splitKey (key : String) : Except Error (String × String) :=
  let cs := key.toList
  let ns := cs.takeWhile (· ≠ '/')
  match cs.dropWhile (· ≠ '/') with
  | _ :: name =>
    if ns.isEmpty || name.isEmpty || name.contains '/' then throw (.invalidKey key)
    else pure (String.ofList ns, String.ofList name)
  | [] => throw (.invalidKey key)

/-- Where a store keeps an object. -/
structure ObjectKey where
  /-- The namespace, empty when there is none. -/
  ns : String
  name : String
deriving DecidableEq, Inhabited

namespace ObjectKey

/-- Keys are ordered by namespace, then by name. -/
instance : Ord ObjectKey := ⟨compareLex (compareOn ObjectKey.ns) (compareOn ObjectKey.name)⟩

instance : Std.TransOrd ObjectKey :=
  inferInstanceAs (Std.TransCmp (compareLex (compareOn ObjectKey.ns) (compareOn ObjectKey.name)))

instance : Std.LawfulEqOrd ObjectKey where
  eq_of_compare {a b} h := by
    have h : (compareOn ObjectKey.ns a b).then (compareOn ObjectKey.name a b) = .eq := h
    rw [Ordering.then_eq_eq] at h
    have hns : a.ns = b.ns := Std.LawfulEqOrd.eq_of_compare h.1
    have hname : a.name = b.name := Std.LawfulEqOrd.eq_of_compare h.2
    cases a; cases b; simp_all

/-- The key under which metadata places its object. -/
def ofMetadata (m : Metadata) : ObjectKey := ⟨m.ns.getD "", m.name.getD ""⟩

def shown (key : ObjectKey) : String := joinKey key.ns key.name

end ObjectKey

end ServiceTemplates
