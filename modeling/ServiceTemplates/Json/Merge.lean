import ServiceTemplates.Json.Basic

/-!
# Laying one document over another

Two objects are merged field by field: a field that both have with objects as values
is merged in turn, any other field of the upper object replaces the lower one's.
Main statement: `Json.overlay_canonical`, the merge of canonical trees is canonical,
so that merging is an operation on documents.
-/

namespace ServiceTemplates

namespace Json

mutual

/-- The upper value laid over `base`. -/
def overlay (base : Json) : Json → Json
  | .object upper =>
    match base with
    | .object fields => .object (overlayFields fields upper)
    | _ => .object upper
  | other => other

/-- The fields of the upper object laid over `base`. -/
def overlayFields (base : List (String × Json)) : List (String × Json) → List (String × Json)
  | [] => base
  | (k, v) :: rest =>
    Entries.insert k
      (match Entries.find? k base with
        | some lower => overlay lower v
        | none => v)
      (overlayFields base rest)

end

theorem CanonicalFields.of_find? {fields : List (String × Json)} (h : CanonicalFields fields)
    {k : String} {v : Json} (hv : Entries.find? k fields = some v) : v.Canonical := by
  induction fields with
  | nil => simp at hv
  | cons e rest ih =>
    obtain ⟨k', v'⟩ := e
    obtain ⟨hhead, hrest⟩ := h
    simp only [Entries.find?] at hv
    split at hv
    · exact Option.some.inj hv ▸ hhead
    · exact ih hrest hv

mutual

/-- The merge of canonical trees is canonical. -/
theorem overlay_canonical {base : Json} (hb : base.Canonical) :
    ∀ {upper : Json}, upper.Canonical → (overlay base upper).Canonical
  | .null, _ => by simp [overlay, Canonical]
  | .bool _, _ => by simp [overlay, Canonical]
  | .number _, _ => by simp [overlay, Canonical]
  | .string _, _ => by simp [overlay, Canonical]
  | .array _, h => by simpa [overlay] using h
  | .object upper, h => by
    simp only [overlay]
    split
    · next fields =>
      simp only [Canonical] at hb h ⊢
      exact ⟨overlayFields_sorted hb.1 upper, overlayFields_canonical hb.2 h.2⟩
    · exact h

theorem overlayFields_sorted {base : List (String × Json)} (hb : Entries.Sorted base) :
    ∀ upper : List (String × Json), Entries.Sorted (overlayFields base upper)
  | [] => hb
  | (k, v) :: rest => by
    simp only [overlayFields]
    exact (overlayFields_sorted hb rest).insert k _

theorem overlayFields_canonical {base : List (String × Json)} (hb : CanonicalFields base) :
    ∀ {upper : List (String × Json)}, CanonicalFields upper → CanonicalFields (overlayFields base upper)
  | [], _ => hb
  | (k, v) :: rest, h => by
    simp only [CanonicalFields] at h
    simp only [overlayFields]
    refine (overlayFields_canonical hb h.2).insert k ?_
    split
    · next lower hl => exact overlay_canonical (hb.of_find? hl) h.1
    · exact h.1

end

end Json

def Document.overlay (base upper : Document) : Document :=
  ⟨base.json.overlay upper.json, Json.overlay_canonical base.canonical upper.canonical⟩

end ServiceTemplates
