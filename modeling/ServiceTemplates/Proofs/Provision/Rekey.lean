import Mathlib.Data.List.Nodup
import Mathlib.Data.Set.Function
import ServiceTemplates.Proofs.Template.Renames

/-!
# Renaming the keys of credentials

All keys of a secret are renamed at once, so that two of them can change places and one can take
the name that another one gives up. Only where several keys get one name something is lost, and
then the greatest of them supplies the value. As long as that does not happen the renaming is
undone by the renames that lead back. Main statement: `rekey_faithful`.
-/

namespace ServiceTemplates

/-! ## Keys of maps -/

namespace SortedMap

variable {V : Type}

theorem mem_keys_iff {m : SortedMap String V} {key : String} :
    key ∈ m.keys ↔ (m.find? key).isSome := by
  rw [keys, List.mem_map]
  constructor
  · rintro ⟨⟨_, v⟩, hmem, rfl⟩
    simp [mem_entries_iff.1 hmem]
  · intro hfound
    obtain ⟨v, hv⟩ := Option.isSome_iff_exists.1 hfound
    exact ⟨(key, v), mem_entries_iff.2 hv, rfl⟩

theorem nodup_keys (m : SortedMap String V) : m.keys.Nodup := by
  apply List.pairwise_map.2
  apply m.sorted.imp
  intro a b hlt heq
  simp [heq] at hlt

end SortedMap

variable {data : SortedMap String (List UInt8)} {renames : SortedMap String String}

/-! ## New names -/

/-- The names in renamed data are the new names of its keys. -/
theorem isSome_find?_rekey {final : String} :
    ((rekey data renames).find? final).isSome ↔
      ∃ source, (data.find? source).isSome ∧ finalKey renames source = final := by
  constructor
  · intro hfound
    obtain ⟨v, hv⟩ := Option.isSome_iff_exists.1 hfound
    obtain ⟨source, hsource, hfinal, -⟩ := find?_rekey.1 hv
    exact ⟨source, by simp [hsource], hfinal⟩
  · rintro ⟨source, hsource, rfl⟩
    obtain ⟨v, hv⟩ := Option.isSome_iff_exists.1 hsource
    rw [rekey, SortedMap.find?_ofList]
    apply Entries.find?_isSome_of_mem (v := v)
    apply List.mem_reverse.2
    exact List.mem_map.2 ⟨(source, v), SortedMap.mem_entries_iff.2 hv, rfl⟩

/-- Whether different keys of some data get different names. -/
def KeepsApart (renames : SortedMap String String) (data : SortedMap String (List UInt8)) : Prop :=
  Set.InjOn (finalKey renames) {key | (data.find? key).isSome}

/-- Different keys get different names if no name comes up twice. -/
theorem keepsApart_iff : KeepsApart renames data ↔ (data.keys.map (finalKey renames)).Nodup := by
  rw [List.nodup_map_iff_inj_on data.nodup_keys]
  simp only [SortedMap.mem_keys_iff]
  constructor
  · intro h a ha b hb
    exact h ha hb
  · intro h a ha b hb
    exact h a ha b hb

instance : Decidable (KeepsApart renames data) := decidable_of_iff _ keepsApart_iff.symm

namespace KeepsApart

/-- Where no two keys meet there is no greatest one to look for. -/
theorem find?_rekey_iff (h : KeepsApart renames data) {final : String} {v : List UInt8} :
    (rekey data renames).find? final = some v ↔
      ∃ source, data.find? source = some v ∧ finalKey renames source = final := by
  rw [find?_rekey]
  apply exists_congr
  intro source
  constructor
  · rintro ⟨hv, hsource, -⟩
    exact ⟨hv, hsource⟩
  · rintro ⟨hv, hsource⟩
    refine ⟨hv, hsource, ?_⟩
    intro other hother hfinal
    have hfound : (data.find? source).isSome := by simp [hv]
    obtain rfl : other = source := h hother hfound (hfinal.trans hsource.symm)
    simp

/-- Keys that are kept apart are as many as before. -/
theorem length_keys_rekey (h : KeepsApart renames data) :
    (rekey data renames).keys.length = data.keys.length := by
  have hperm : (rekey data renames).keys.Perm (data.keys.map (finalKey renames)) := by
    apply (List.perm_ext_iff_of_nodup (SortedMap.nodup_keys _) (keepsApart_iff.1 h)).2
    intro final
    simp only [SortedMap.mem_keys_iff, isSome_find?_rekey, List.mem_map]
  rw [hperm.length_eq, List.length_map]

end KeepsApart

/-! ## The way back -/

/-- Whether some renames lead from the new names of the keys of some data back to the keys, and
from nowhere else. -/
def LeadsBack (back renames : SortedMap String String) (data : SortedMap String (List UInt8)) :
    Prop :=
  ∀ final key, back.find? final = some key ↔
    (data.find? key).isSome ∧ finalKey renames key = final

/-- **Names that are kept apart can be led back.** -/
theorem KeepsApart.exists_leadsBack (h : KeepsApart renames data) :
    ∃ back, LeadsBack back renames data := by
  let pairs := data.keys.map fun key => (finalKey renames key, key)
  have hpairs : ∀ final key, (final, key) ∈ pairs.reverse ↔
      (data.find? key).isSome ∧ finalKey renames key = final := by
    intro final key
    simp only [pairs, List.mem_reverse, List.mem_map, SortedMap.mem_keys_iff, Prod.mk.injEq]
    constructor
    · rintro ⟨_, hkey, hfinal, rfl⟩
      exact ⟨hkey, hfinal⟩
    · rintro ⟨hkey, hfinal⟩
      exact ⟨key, hkey, hfinal, rfl⟩
  refine ⟨.ofList pairs, ?_⟩
  intro final key
  rw [SortedMap.find?_ofList]
  constructor
  · intro hfound
    exact (hpairs final key).1 (Entries.mem_of_find? hfound)
  · rintro ⟨hkey, hfinal⟩
    have hsome := Entries.find?_isSome_of_mem ((hpairs final key).2 ⟨hkey, hfinal⟩)
    obtain ⟨other, hother⟩ := Option.isSome_iff_exists.1 hsome
    -- Only one key has the name, so that it does not matter which entry is found.
    obtain ⟨hfound, hname⟩ := (hpairs final other).1 (Entries.mem_of_find? hother)
    obtain rfl : other = key := h hfound hkey (hname.trans hfinal.symm)
    exact hother

namespace LeadsBack

variable {back : SortedMap String String}

/-- There and back a key is what it was. -/
theorem finalKey_finalKey (h : LeadsBack back renames data) {key : String}
    (hkey : (data.find? key).isSome) : finalKey back (finalKey renames key) = key := by
  have hback : back.find? (finalKey renames key) = some key := (h _ _).2 ⟨hkey, rfl⟩
  rw [finalKey, hback]
  rfl

/-- The way back keeps apart what the way there kept apart. -/
theorem keepsApart (h : LeadsBack back renames data) : KeepsApart back (rekey data renames) := by
  intro a ha b hb hsame
  obtain ⟨source, hsource, rfl⟩ := isSome_find?_rekey.1 ha
  obtain ⟨source', hsource', rfl⟩ := isSome_find?_rekey.1 hb
  rw [h.finalKey_finalKey hsource, h.finalKey_finalKey hsource'] at hsame
  rw [hsame]

/-- There and back all data are what they were. -/
theorem rekey_rekey (h : LeadsBack back renames data) (hapart : KeepsApart renames data) :
    rekey (rekey data renames) back = data := by
  apply SortedMap.ext_find?
  intro key
  apply Option.ext
  intro v
  rw [h.keepsApart.find?_rekey_iff]
  constructor
  · rintro ⟨final, hfinal, hkey⟩
    obtain ⟨source, hsource, rfl⟩ := hapart.find?_rekey_iff.1 hfinal
    have hfound : (data.find? source).isSome := by simp [hsource]
    rw [h.finalKey_finalKey hfound] at hkey
    rwa [← hkey]
  · intro hv
    have hfound : (data.find? key).isSome := by simp [hv]
    refine ⟨finalKey renames key, ?_, h.finalKey_finalKey hfound⟩
    exact hapart.find?_rekey_iff.2 ⟨key, hv, rfl⟩

end LeadsBack

/-! ## All at once -/

/-- **Keys are renamed all at once.** Renamed data has exactly the new names of its keys, each
with the value of the greatest key that gets it. If no two keys get one name, every value is
found under the new name of its key, there are as many entries as before, and the renames that
lead back restore the data. -/
theorem rekey_faithful (data : SortedMap String (List UInt8)) (renames : SortedMap String String) :
    let renamed := rekey data renames
    (∀ final, (renamed.find? final).isSome ↔
      ∃ source, (data.find? source).isSome ∧ finalKey renames source = final) ∧
    (∀ final v, renamed.find? final = some v ↔
      ∃ source, data.find? source = some v ∧ finalKey renames source = final ∧
        ∀ other, (data.find? other).isSome → finalKey renames other = final →
          (compare other source).isLE) ∧
    (KeepsApart renames data →
      (∀ source v, data.find? source = some v →
        renamed.find? (finalKey renames source) = some v) ∧
      renamed.keys.length = data.keys.length ∧
      ∃ back, LeadsBack back renames data ∧ rekey renamed back = data) := by
  intro renamed
  refine ⟨fun final => isSome_find?_rekey, fun final v => find?_rekey, ?_⟩
  intro h
  obtain ⟨back, hback⟩ := h.exists_leadsBack
  refine ⟨?_, h.length_keys_rekey, back, hback, hback.rekey_rekey h⟩
  intro source v hv
  exact h.find?_rekey_iff.2 ⟨source, hv, rfl⟩

/-- Two keys change places and a third one is renamed along a chain; all of it is undone. -/
theorem rekey_faithful_swap :
    let data : SortedMap String (List UInt8) :=
      .ofList [("host", [1]), ("pass", [2]), ("user", [3])]
    let renames : SortedMap String String :=
      .ofList [("host", "pass"), ("pass", "host"), ("user", "login"), ("login", "user")]
    KeepsApart renames data ∧
      rekey data renames = .ofList [("host", [2]), ("login", [3]), ("pass", [1])] ∧
      ∃ back, LeadsBack back renames data ∧ rekey (rekey data renames) back = data := by
  intro data renames
  have hapart : KeepsApart renames data := by decide +kernel
  obtain ⟨-, -, hundone⟩ := rekey_faithful data renames
  exact ⟨hapart, by decide +kernel, (hundone hapart).2.2⟩

end ServiceTemplates
