import ServiceTemplates.SortedMap.Lemmas
import ServiceTemplates.Store.Memory

/-!
# Stores through their look-ups

What each operation of a store does to its look-ups. A write changes what stands under
the key of the written object and nothing else; a refused write changes nothing.
-/

namespace ServiceTemplates.Store

variable {k : Kind}

theorem find?_put (s : Store k) (obj : Object k) (key : ObjectKey) :
    (s.put obj).objects.find? key =
      if key = .ofMetadata obj.metadata then some obj else s.objects.find? key :=
  SortedMap.find?_insert s.objects _ key obj

theorem find?_write (s : Store k) (obj : Object k) (key : ObjectKey) :
    (s.write obj).objects.find? key =
      if key = .ofMetadata obj.metadata then some obj else s.objects.find? key :=
  find?_put s obj key

theorem find?_delete (s : Store k) (key key' : ObjectKey) :
    (s.delete key).objects.find? key' = if key' = key then none else s.objects.find? key' :=
  SortedMap.find?_erase s.objects key key'

/-- Only a new key can be created. -/
theorem create_of_isSome (s : Store k) (uid : String) (obj : Object k)
    (h : (s.objects.find? (.ofMetadata obj.metadata)).isSome) :
    s.create uid obj =
      (.error (.alreadyExists k.name (ObjectKey.ofMetadata obj.metadata).shown), s) := by
  simp [create, SortedMap.contains, h]

theorem create_of_isNone (s : Store k) (uid : String) (obj : Object k)
    (h : s.objects.find? (.ofMetadata obj.metadata) = none) :
    s.create uid obj = (.ok (stamp obj uid "1"), s.write (stamp obj uid "1")) := by
  simp [create, SortedMap.contains, h]

/-- A refused replacement leaves no trace. -/
theorem replace_eq_of_error {s s' : Store k} {obj : Object k} {e : Error}
    (h : s.replace obj = (.error e, s')) : s' = s := by
  unfold replace at h
  split at h
  · exact (Prod.mk.inj h).2.symm
  · split at h
    · exact (Prod.mk.inj h).2.symm
    · exact nomatch (Prod.mk.inj h).1

/-- A replacement that succeeds finds an object, meets its version and writes its
successor. -/
theorem replace_eq_ok_iff {s s' : Store k} {obj stored : Object k} :
    s.replace obj = (.ok stored, s') ↔
      ∃ current, s.objects.find? (.ofMetadata obj.metadata) = some current ∧
        staleness? current obj = none ∧ stored = successor current obj ∧ s' = s.write stored := by
  unfold replace
  split
  · next h => simp [h]
  · next current h =>
    split
    · next e he => simp [h, he]
    · next he =>
      constructor
      · rintro ⟨⟩
        exact ⟨current, h, he, rfl, rfl⟩
      · rintro ⟨found, hfound, -, hstored, hs⟩
        obtain rfl : current = found := Option.some.inj (h.symm.trans hfound)
        rw [hs, hstored]

end ServiceTemplates.Store
