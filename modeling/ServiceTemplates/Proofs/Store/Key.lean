import Mathlib.Data.List.Basic
import ServiceTemplates.Proofs.Text.Run
import ServiceTemplates.Store.Key

/-!
# Reading keys back

A key is read as what stands before its slash and what stands after it. Main statements:
`splitKey_eq_ok_iff`, by which a key has at most one reading, `Metadata.splitKey_key`, by which
the key of an object is read as its namespace and its name, and `Metadata.key_eq_key_iff`, by
which objects with namespaces share no key.
-/

namespace ServiceTemplates

/-- Whether a text can be a part of a key. -/
def IsKeyPart (part : String) : Prop := part ≠ "" ∧ '/' ∉ part.toList

theorem splitKey_append {ns name : String} (hns : IsKeyPart ns) (hname : IsKeyPart name) :
    splitKey (ns ++ "/" ++ name) = .ok (ns, name) := by
  have hbefore : ∀ x ∈ ns.toList, decide (x ≠ '/') = true := fun x hx =>
    decide_eq_true fun h => hns.2 (h ▸ hx)
  have hkey : (ns ++ "/" ++ name).toList = ns.toList ++ '/' :: name.toList := by simp
  unfold splitKey
  dsimp only
  rw [hkey, List.takeWhile_append_of_pos hbefore, List.dropWhile_append_of_pos hbefore]
  simp [hns.1, hname.1, hname.2, pure, Except.pure]

theorem splitKey_eq_ok_iff {key ns name : String} :
    splitKey key = .ok (ns, name) ↔ key = ns ++ "/" ++ name ∧ IsKeyPart ns ∧ IsKeyPart name := by
  constructor
  · intro h
    have hsplit := List.takeWhile_append_dropWhile (p := (· ≠ '/')) (l := key.toList)
    have hbefore := List.all_takeWhile (p := (· ≠ '/')) (l := key.toList)
    have hslash := List.head?_dropWhile_not (· ≠ '/') key.toList
    unfold splitKey at h
    dsimp only at h
    generalize key.toList.takeWhile (· ≠ '/') = before, key.toList.dropWhile (· ≠ '/') = rest
      at h hsplit hbefore hslash
    cases rest with
    | nil => cases h
    | cons slash after =>
      obtain rfl : slash = '/' := by simpa using hslash
      dsimp only at h
      split at h
      · cases h
      · next hno =>
        obtain ⟨rfl, rfl⟩ := Prod.mk.inj (Except.ok.inj h)
        simp only [Bool.or_eq_true, not_or, Bool.not_eq_true, List.isEmpty_eq_false_iff,
          List.contains_eq_mem, decide_eq_false_iff_not] at hno
        refine ⟨String.toList_inj.1 (by simp [← hsplit]), ⟨?_, ?_⟩, ?_, ?_⟩
        · simpa using hno.1.1
        · simpa using fun hmem => by simpa using List.all_eq_true.1 hbefore _ hmem
        · simpa using hno.1.2
        · simpa using hno.2
  · rintro ⟨rfl, hns, hname⟩
    exact splitKey_append hns hname

/-- What is read of a key is what it was put together from. -/
theorem splitKey_append_eq_ok {ns name ns' name' : String}
    (h : splitKey (ns ++ "/" ++ name) = .ok (ns', name')) : ns' = ns ∧ name' = name := by
  obtain ⟨hkey, hns', hname'⟩ := splitKey_eq_ok_iff.1 h
  have hlist : ns'.toList ++ '/' :: name'.toList = ns.toList ++ '/' :: name.toList := by
    simpa using congrArg String.toList hkey.symm
  -- What is read has one slash, so that it is the one that was put there.
  obtain ⟨hns, -, hname⟩ := (List.append_cons_inj_of_notMem hns'.2 hname'.2).1 hlist
  exact ⟨String.toList_inj.1 hns, String.toList_inj.1 hname⟩

/-- A key that cannot be read is named in the failure. -/
theorem splitKey_eq_ok_or_error (key : String) :
    (∃ parts, splitKey key = .ok parts) ∨ splitKey key = .error (.invalidKey key) := by
  unfold splitKey
  dsimp only
  split
  · split
    · exact Or.inr rfl
    · exact Or.inl ⟨_, rfl⟩
  · exact Or.inr rfl

namespace Metadata

variable {m m' : Metadata}

theorem key_eq (h : IsKeyPart (m.ns.getD "")) : m.key = m.ns.getD "" ++ "/" ++ m.name.getD "" := by
  rw [key, joinKey, if_neg (by simpa using h.1)]

/-- The key of an object is read as its namespace and its name. -/
theorem splitKey_key {ns name : String} (hplace : ObjectKey.ofMetadata m = ⟨ns, name⟩)
    (hns : IsKeyPart ns) (hname : IsKeyPart name) : splitKey m.key = .ok (ns, name) := by
  obtain ⟨rfl, rfl⟩ := ObjectKey.mk.inj hplace
  rw [key_eq hns]
  exact splitKey_append hns hname

/-- Objects with namespaces share a key only if they share their place, whatever their names. -/
theorem key_eq_key_iff (h : IsKeyPart (m.ns.getD "")) (h' : IsKeyPart (m'.ns.getD "")) :
    m.key = m'.key ↔ ObjectKey.ofMetadata m = ObjectKey.ofMetadata m' := by
  constructor
  · intro hsame
    -- The first slash is the one after the namespace, also where the name has slashes of its own.
    rw [key_eq h, key_eq h'] at hsame
    obtain ⟨hns, hname⟩ := append_mark_inj h.2 h'.2 (by simpa using congrArg String.toList hsame)
    rw [ObjectKey.ofMetadata, ObjectKey.ofMetadata, String.toList_inj.1 hns,
      String.toList_inj.1 hname]
  · intro hplace
    obtain ⟨hns, hname⟩ := ObjectKey.mk.inj hplace
    rw [key, key, hns, hname]

end Metadata

end ServiceTemplates
