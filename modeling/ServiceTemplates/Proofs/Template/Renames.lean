import ServiceTemplates.Proofs.Template.Tiers
import ServiceTemplates.Provision.Secret

/-!
# Which name a secret key gets

Renames are merged in the order of the tiers, the narrower one winning key by key, and the
data of a secret goes under the new names. Where several keys get one name, the greatest of
them supplies the value. Main statements: `foldTemplates_secretKeys` and `find?_rekey`.
-/

namespace ServiceTemplates

/-! ## Renames of several tiers -/

theorem BindingDefaults.merge_secretKeys {base upper merged : BindingDefaults}
    (h : base.merge upper = .ok merged) (key : String) :
    merged.secretKeys.find? key = (upper.secretKeys.find? key).or (base.secretKeys.find? key) := by
  obtain ⟨parameters, -, rfl⟩ := BindingDefaults.merge_eq_ok_iff.1 h
  exact SortedMap.find?_union _ _ _

/-- A secret key is renamed as in the last tier that renames it. -/
theorem foldTemplates_rename {tiers : List BindingDefaults} {merged : BindingDefaults}
    (h : foldTemplates tiers = .ok merged) (key : String) :
    FromLast (fun name => name.isSome) (fun t => t.secretKeys.find? key) tiers
      (merged.secretKeys.find? key) := by
  refine foldTemplates_fromLast (fun name => name.isSome) (fun t => t.secretKeys.find? key)
    Bool.false_ne_true (fun {base upper merged} hmerge => ?_) h
  rw [BindingDefaults.merge_secretKeys hmerge, fromLast_isSome_iff]
  cases hupper : upper.secretKeys.find? key <;> simp [hupper]

/-- The narrowest tier that renames a key decides its new name. -/
theorem foldTemplates_secretKeys {tiers : List BindingDefaults} {merged : BindingDefaults}
    (h : foldTemplates tiers = .ok merged) (key : String) :
    merged.secretKeys.find? key = tiers.reverse.findSome? (·.secretKeys.find? key) :=
  fromLast_isSome_iff.1 (foldTemplates_rename h key)

/-! ## Data under its new names -/

/-- Of entries in increasing order, read from the end, the greatest key that gets a name
comes first. -/
theorem Entries.find?_renamed {V : Type} {entries : List (String × V)} (hs : Sorted entries)
    (rename : String → String) (final : String) (v : V) :
    find? final (entries.map fun e => (rename e.1, e.2)).reverse = some v ↔
      ∃ source, (source, v) ∈ entries ∧ rename source = final ∧
        ∀ e ∈ entries, rename e.1 = final → (compare e.1 source).isLE := by
  induction entries using List.reverseRecOn with
  | nil => simp
  | append_singleton entries e ih =>
    obtain ⟨last, w⟩ := e
    obtain ⟨hs, -, hlast⟩ := List.pairwise_append.1 hs
    have hless : ∀ e ∈ entries, compare e.1 last = .lt := fun e he =>
      hlast e he _ (List.mem_singleton_self _)
    rw [List.map_append, List.reverse_append, List.map_singleton, List.reverse_singleton,
      List.singleton_append]
    by_cases hrename : rename last = final
    · subst hrename
      rw [find?_cons_self]
      constructor
      · rintro ⟨⟩
        refine ⟨last, by simp, rfl, fun e he _ => ?_⟩
        rcases List.mem_append.1 he with he | he
        · simp [hless e he]
        · simp [List.mem_singleton.1 he]
      · rintro ⟨source, hmem, -, hgreatest⟩
        rcases List.mem_append.1 hmem with hmem | hmem
        · have hle := hgreatest (last, w) (by simp) rfl
          have hlt : compare source last = .lt := hless _ hmem
          rw [Std.OrientedCmp.gt_of_lt hlt] at hle
          cases hle
        · cases List.mem_singleton.1 hmem
          rfl
    · rw [find?_cons_of_ne (Ne.symm hrename), ih hs]
      refine exists_congr fun source => ?_
      constructor
      · rintro ⟨hmem, hsource, hgreatest⟩
        refine ⟨List.mem_append_left _ hmem, hsource, fun e he => ?_⟩
        rcases List.mem_append.1 he with he | he
        · exact hgreatest e he
        · cases List.mem_singleton.1 he
          exact fun h => absurd h hrename
      · rintro ⟨hmem, hsource, hgreatest⟩
        refine ⟨?_, hsource, fun e he => hgreatest e (List.mem_append_left _ he)⟩
        rcases List.mem_append.1 hmem with hmem | hmem
        · exact hmem
        · cases List.mem_singleton.1 hmem
          exact absurd hsource hrename

theorem find?_rekey {data : SortedMap String (List UInt8)} {renames : SortedMap String String}
    {final : String} {v : List UInt8} :
    (rekey data renames).find? final = some v ↔
      ∃ source, data.find? source = some v ∧ finalKey renames source = final ∧
        ∀ other, (data.find? other).isSome → finalKey renames other = final →
          (compare other source).isLE := by
  rw [rekey, SortedMap.find?_ofList, Entries.find?_renamed data.sorted]
  simp only [SortedMap.mem_entries_iff, Prod.forall, Option.isSome_iff_exists, forall_exists_index]

end ServiceTemplates
