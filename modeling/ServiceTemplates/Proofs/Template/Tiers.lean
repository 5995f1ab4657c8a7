import Mathlib.Data.List.Induction
import ServiceTemplates.Proofs.Template.Parameters

/-!
# The last of several tiers

Tiers are merged from the broadest to the narrowest. A field of the merge is that of the last tier
that sets it as soon as this holds of the merge of two tiers. Main statements:
`lastWith_append_singleton` and `foldTemplates_fromLast`.
-/

namespace ServiceTemplates

section LastWith

variable {α : Type} {p : α → Prop} {xs : List α} {x y : α}

/-- Whether `y` is the last element of a list that satisfies `p`. -/
def LastWith (p : α → Prop) (xs : List α) (y : α) : Prop :=
  ∃ before after, xs = before ++ y :: after ∧ p y ∧ ∀ z ∈ after, ¬ p z

/-- The last of a longer list is its new end, or the last of before. -/
theorem lastWith_append_singleton :
    LastWith p (xs ++ [x]) y ↔ (p x ∧ y = x) ∨ (¬ p x ∧ LastWith p xs y) := by
  constructor
  · rintro ⟨before, after, hxs, hy, hafter⟩
    rcases List.eq_nil_or_concat after with rfl | ⟨after, z, rfl⟩
    · obtain ⟨rfl, hlast⟩ := List.append_inj' hxs rfl
      obtain rfl : x = y := (List.cons.inj hlast).1
      exact Or.inl ⟨hy, rfl⟩
    · rw [List.concat_eq_append, ← List.cons_append, ← List.append_assoc] at hxs
      obtain ⟨hinit, hlast⟩ := List.append_inj' hxs rfl
      obtain rfl : x = z := (List.cons.inj hlast).1
      refine Or.inr ⟨hafter x (by simp), before, after, hinit, hy, fun z hz => ?_⟩
      exact hafter z (by simp [hz])
  · rintro (⟨hx, rfl⟩ | ⟨hx, before, after, rfl, hy, hafter⟩)
    · exact ⟨xs, [], rfl, hx, nofun⟩
    · refine ⟨before, after ++ [x], by simp, hy, fun z hz => ?_⟩
      rcases List.mem_append.1 hz with hz | hz
      · exact hafter z hz
      · obtain rfl : z = x := by simpa using hz
        exact hx

theorem not_lastWith_nil : ¬ LastWith p [] y := by
  rintro ⟨before, after, h, -⟩
  simp at h

theorem LastWith.holds (h : LastWith p xs y) : p y := by
  obtain ⟨-, -, -, hy, -⟩ := h
  exact hy

theorem LastWith.mem (h : LastWith p xs y) : y ∈ xs := by
  obtain ⟨before, after, rfl, -⟩ := h
  simp

/-- If there is one at all, there is a last one. -/
theorem exists_lastWith (p : α → Prop) (xs : List α) :
    (∀ x ∈ xs, ¬ p x) ∨ ∃ y, LastWith p xs y := by
  induction xs using List.reverseRecOn with
  | nil => exact Or.inl nofun
  | append_singleton xs x ih =>
    by_cases hx : p x
    · exact Or.inr ⟨x, lastWith_append_singleton.2 (Or.inl ⟨hx, rfl⟩)⟩
    · rcases ih with h | ⟨y, hy⟩
      · left
        intro y hy
        rcases List.mem_append.1 hy with hy | hy
        · exact h y hy
        · obtain rfl : y = x := by simpa using hy
          exact hx
      · exact Or.inr ⟨y, lastWith_append_singleton.2 (Or.inr ⟨hx, hy⟩)⟩

end LastWith

section FromLast

variable {α β : Type} {sets : β → Prop} {field : α → β} {tiers : List α} {t : α} {v : β}

/-- Whether a value is the one of the last tier that sets a field; where none sets it, the value
sets nothing either. -/
structure FromLast (sets : β → Prop) (field : α → β) (tiers : List α) (v : β) : Prop where
  last : ∀ t, LastWith (fun t => sets (field t)) tiers t → v = field t
  unset : (∀ t ∈ tiers, ¬ sets (field t)) → ¬ sets v

theorem fromLast_nil : FromLast sets field [] v ↔ ¬ sets v :=
  ⟨fun h => h.unset nofun, fun h => ⟨fun _ hlast => absurd hlast not_lastWith_nil, fun _ => h⟩⟩

/-- A new tier gives the field if it sets it, and leaves it to the others otherwise. -/
theorem fromLast_append_singleton :
    FromLast sets field (tiers ++ [t]) v ↔
      (sets (field t) ∧ v = field t) ∨ (¬ sets (field t) ∧ FromLast sets field tiers v) := by
  constructor
  · intro h
    by_cases ht : sets (field t)
    · exact Or.inl ⟨ht, h.last t (lastWith_append_singleton.2 (Or.inl ⟨ht, rfl⟩))⟩
    · refine Or.inr ⟨ht, fun u hu => ?_, fun hnone => h.unset fun u hu => ?_⟩
      · exact h.last u (lastWith_append_singleton.2 (Or.inr ⟨ht, hu⟩))
      · rcases List.mem_append.1 hu with hu | hu
        · exact hnone u hu
        · rwa [List.mem_singleton.1 hu]
  · rintro (⟨ht, rfl⟩ | ⟨ht, h⟩)
    · refine ⟨fun u hu => ?_, fun hnone => hnone t (by simp)⟩
      rcases lastWith_append_singleton.1 hu with ⟨-, rfl⟩ | ⟨hno, -⟩
      · rfl
      · exact absurd ht hno
    · refine ⟨fun u hu => ?_, fun hnone => h.unset fun u hu => hnone u ?_⟩
      · rcases lastWith_append_singleton.1 hu with ⟨hyes, -⟩ | ⟨-, hu⟩
        · exact absurd hyes ht
        · exact h.last u hu
      · exact List.mem_append_left _ hu

/-! ### Two tiers -/

/-- Of two tiers the upper one goes first. -/
theorem fromLast_pair {base upper : α} :
    FromLast sets field [base, upper] v ↔
      (sets (field upper) ∧ v = field upper) ∨
        (¬ sets (field upper) ∧ ((sets (field base) ∧ v = field base) ∨
          (¬ sets (field base) ∧ ¬ sets v))) := by
  show FromLast sets field ([] ++ [base] ++ [upper]) v ↔ _
  rw [fromLast_append_singleton, fromLast_append_singleton, fromLast_nil]

theorem FromLast.upper {base upper : α} (h : sets (field upper)) :
    FromLast sets field [base, upper] (field upper) :=
  fromLast_pair.2 (Or.inl ⟨h, rfl⟩)

theorem FromLast.base {base upper : α} (h : ¬ sets (field upper)) :
    FromLast sets field [base, upper] (field base) := by
  refine fromLast_pair.2 (Or.inr ⟨h, ?_⟩)
  by_cases hbase : sets (field base)
  · exact Or.inl ⟨hbase, rfl⟩
  · exact Or.inr ⟨hbase, hbase⟩

theorem FromLast.neither {base upper : α} (hb : ¬ sets (field base)) (hu : ¬ sets (field upper))
    (hv : ¬ sets v) : FromLast sets field [base, upper] v :=
  fromLast_pair.2 (Or.inr ⟨hu, Or.inr ⟨hb, hv⟩⟩)

/-- A field that a tier may lack comes from the first tier, read from the end, that has it. -/
theorem fromLast_isSome_iff {field : α → Option β} {v : Option β} :
    FromLast (fun v => v.isSome) field tiers v ↔ v = tiers.reverse.findSome? field := by
  induction tiers using List.reverseRecOn with
  | nil => rw [fromLast_nil]; simp
  | append_singleton tiers t ih =>
    rw [fromLast_append_singleton, ih, List.reverse_append, List.reverse_singleton,
      List.singleton_append, List.findSome?_cons]
    cases field t <;> simp

end FromLast

/-! ## Merging tier over tier -/

section Fold

variable {Defaults β : Type} [Mergeable Defaults]

/-- The narrowest tier is merged last. -/
theorem foldTemplates_append_singleton (tiers : List Defaults) (t : Defaults) :
    foldTemplates (tiers ++ [t]) = foldTemplates tiers >>= fun merged => Mergeable.merge merged t := by
  simp [foldTemplates, List.foldlM_append]

/-- A field for which the narrower of two tiers counts if it sets it is that of the last of all
tiers that sets it. -/
theorem foldTemplates_fromLast (sets : β → Prop) (field : Defaults → β)
    (hblank : ¬ sets (field Mergeable.blank))
    (hmerge : ∀ {base upper merged : Defaults}, Mergeable.merge base upper = .ok merged →
      FromLast sets field [base, upper] (field merged))
    {tiers : List Defaults} {merged : Defaults} (h : foldTemplates tiers = .ok merged) :
    FromLast sets field tiers (field merged) := by
  induction tiers using List.reverseRecOn generalizing merged with
  | nil =>
    obtain rfl := Except.ok.inj h
    exact fromLast_nil.2 hblank
  | append_singleton tiers t ih =>
    rw [foldTemplates_append_singleton] at h
    obtain ⟨base, hbase, h⟩ := bind_eq_ok_iff.1 h
    rw [fromLast_append_singleton]
    rcases fromLast_pair.1 (hmerge h) with hyes | ⟨hno, ⟨-, heq⟩ | ⟨hunset, hnone⟩⟩
    · exact Or.inl hyes
    · rw [heq]
      exact Or.inr ⟨hno, ih hbase⟩
    · -- What the merge so far does not set was set by none of its tiers.
      refine Or.inr ⟨hno, fun u hu => ?_, fun _ => hnone⟩
      have hset := hu.holds
      rw [← (ih hbase).last u hu] at hset
      exact absurd hset hunset

end Fold

end ServiceTemplates
