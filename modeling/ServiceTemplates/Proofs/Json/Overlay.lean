import ServiceTemplates.Json.Merge
import ServiceTemplates.SortedMap.Lemmas

/-!
# Documents laid over one another, field by field

What an overlay does to the look-up of a field, and what follows for a document that is
laid over the same base twice. Main statements: `Json.find?_overlayFields`, which says
what stands under a key of the merge, and `Json.overlay_overlay_self`, which says that
laying a canonical document on top a second time changes nothing.
-/

namespace ServiceTemplates.Json

def isObject : Json → Bool
  | .object _ => true
  | _ => false

theorem isObject_iff {j : Json} : j.isObject ↔ ∃ fields, j = .object fields := by
  cases j <;> simp [isObject]

/-! ## The fields of an overlay -/

@[simp] theorem overlay_object (base upper : List (String × Json)) :
    overlay (.object base) (.object upper) = .object (overlayFields base upper) := by
  rw [overlay]

/-- A base that is no object leaves no trace. -/
theorem overlay_of_not_isObject {base : Json} (h : ¬ base.isObject) (upper : Json) :
    overlay base upper = upper := by
  cases base with
  | object fields => exact absurd rfl h
  | _ => cases upper <;> rw [overlay] <;> simp

/-- An upper value that is no object replaces whatever was there. -/
theorem overlay_not_isObject (base : Json) {upper : Json} (h : ¬ upper.isObject) :
    overlay base upper = upper := by
  cases upper with
  | object fields => exact absurd rfl h
  | _ => rw [overlay]; simp

theorem isObject_overlay (base upper : Json) : (overlay base upper).isObject = upper.isObject := by
  by_cases h : base.isObject
  · obtain ⟨fields, rfl⟩ := isObject_iff.1 h
    cases upper with
    | object upper => rw [overlay_object]; rfl
    | _ => rw [overlay_not_isObject _ (by simp [isObject])]
  · rw [overlay_of_not_isObject h]

/-- What stands under a key of the merge: the base's value where the upper object says
nothing, otherwise the upper one's value, laid over what the base has there. -/
theorem find?_overlayFields (base upper : List (String × Json)) (k : String) :
    Entries.find? k (overlayFields base upper) =
      match Entries.find? k upper with
      | none => Entries.find? k base
      | some v =>
        some (match Entries.find? k base with
          | some lower => overlay lower v
          | none => v) := by
  induction upper with
  | nil => rw [overlayFields]; rfl
  | cons e rest ih =>
    obtain ⟨k', v⟩ := e
    rw [overlayFields, Entries.find?_insert]
    by_cases hk : k = k'
    · subst hk
      cases Entries.find? k base with
      | none => simp [Entries.find?_cons_self]
      | some lower => simp [Entries.find?_cons_self]
    · rw [if_neg hk, ih, Entries.find?_cons_of_ne hk]

/-! ## Laying the same document on top again -/

/-- Field lists in key order are equal as soon as their look-ups are. -/
private theorem overlayFields_eq {base upper : List (String × Json)}
    (hbase : Entries.Sorted base)
    (h : ∀ k v, Entries.find? k upper = some v →
      ∃ lower, Entries.find? k base = some lower ∧ overlay lower v = lower) :
    overlayFields base upper = base := by
  apply Entries.eq_of_find?_eq (overlayFields_sorted hbase upper) hbase
  intro k
  rw [find?_overlayFields]
  cases hk : Entries.find? k upper with
  | none => rfl
  | some v =>
    obtain ⟨lower, hlower, hsame⟩ := h k v hk
    simp [hlower, hsame]

mutual

/-- A canonical document laid over itself is itself. -/
theorem overlay_self : ∀ {j : Json}, j.Canonical → overlay j j = j
  | .null, _ | .bool _, _ | .number _, _ | .string _, _ | .array _, _ =>
    overlay_not_isObject _ (by simp [isObject])
  | .object fields, h => by
    simp only [Canonical] at h
    rw [overlay_object]
    refine congrArg Json.object (overlayFields_eq h.1 fun k v hv => ⟨v, hv, ?_⟩)
    exact overlay_self_of_mem h.2 _ (Entries.mem_of_find? hv)

theorem overlay_self_of_mem :
    ∀ {fields : List (String × Json)}, CanonicalFields fields →
      ∀ e ∈ fields, overlay e.2 e.2 = e.2
  | [], _, _, he => nomatch he
  | (k, v) :: rest, h, e, he => by
    simp only [CanonicalFields] at h
    rcases List.mem_cons.1 he with rfl | he
    · exact overlay_self h.1
    · exact overlay_self_of_mem h.2 e he

end

mutual

/-- A document that was laid on top changes nothing when it is laid on top again. -/
theorem overlay_overlay_self {base : Json} (hb : base.Canonical) :
    ∀ {upper : Json}, upper.Canonical → overlay (overlay base upper) upper = overlay base upper
  | .null, _ | .bool _, _ | .number _, _ | .string _, _ | .array _, _ => by
    rw [overlay_not_isObject _ (by simp [isObject]), overlay_not_isObject _ (by simp [isObject])]
  | .object upper, h => by
    by_cases hobj : base.isObject
    · obtain ⟨fields, rfl⟩ := isObject_iff.1 hobj
      simp only [Canonical] at hb h
      rw [overlay_object, overlay_object]
      refine congrArg Json.object (overlayFields_eq (overlayFields_sorted hb.1 upper) ?_)
      intro k v hv
      rw [find?_overlayFields, hv]
      refine ⟨_, rfl, ?_⟩
      cases hlower : Entries.find? k fields with
      | none => exact overlay_self (h.2.of_find? hv)
      | some lower =>
        exact overlay_overlay_self_of_mem (hb.2.of_find? hlower) h.2 _ (Entries.mem_of_find? hv)
    · rw [overlay_of_not_isObject hobj]
      exact overlay_self h

theorem overlay_overlay_self_of_mem {base : Json} (hb : base.Canonical) :
    ∀ {fields : List (String × Json)}, CanonicalFields fields →
      ∀ e ∈ fields, overlay (overlay base e.2) e.2 = overlay base e.2
  | [], _, _, he => nomatch he
  | (k, v) :: rest, h, e, he => by
    simp only [CanonicalFields] at h
    rcases List.mem_cons.1 he with rfl | he
    · exact overlay_overlay_self hb h.1
    · exact overlay_overlay_self_of_mem hb h.2 e he

end

end ServiceTemplates.Json
