import Mathlib.Data.List.Induction
import ServiceTemplates.Proofs.Store.Sound

/-!
# Edits

What users do to a cluster: they put an object in place whatever was there, create one,
replace one or delete one. An edit concerns one kind and keeps a cluster sound. Main
statements: `Edit.sound` and `Edit.store_of_ne`, and `Cluster.history_induction` for whatever
happens to a cluster one event after the other.
-/

namespace ServiceTemplates

/-- What a user does to a cluster. -/
inductive Edit where
  | insert {k : Kind} (obj : Object k)
  | create {k : Kind} (obj : Object k)
  | replace {k : Kind} (obj : Object k)
  | delete (k : Kind) (key : ObjectKey)

namespace Edit

def kind : Edit → Kind
  | insert (k := k) _ => k
  | create (k := k) _ => k
  | replace (k := k) _ => k
  | delete k _ => k

/-- The cluster after an edit; one that is refused changes nothing. -/
def apply (c : Cluster) : Edit → Cluster
  | insert obj => (c.insert obj).2
  | create obj => (c.create obj).2
  | replace obj => (c.replace obj).2
  | delete k key => c.delete k key

variable {c : Cluster}

theorem sound (hc : c.Sound) (e : Edit) : (e.apply c).Sound := by
  cases e with
  | insert obj => exact hc.insert obj
  | create obj => exact hc.create obj
  | replace obj => exact hc.replace obj
  | delete k key => exact hc.delete k key

/-- Other kinds than the edited one are left alone. -/
theorem store_of_ne (e : Edit) {k : Kind} (h : k ≠ e.kind) : (e.apply c).store k = c.store k := by
  cases e with
  | insert obj => exact (c.puts_insert obj).store k h
  | create obj =>
    show (c.create obj).2.store k = _
    rcases c.create_cases obj with ⟨-, hcreate⟩ | ⟨-, c', hcreate, hputs⟩
    · rw [hcreate]
    · rw [hcreate]
      exact hputs.store k h
  | replace obj =>
    show (c.replace obj).2.store k = _
    rcases c.replace_cases obj with ⟨e, hreplace⟩ | ⟨current, -, -, c', hreplace, hputs⟩
    · rw [hreplace]
    · rw [hreplace]
      exact hputs.store k h
  | delete k' key => exact Cluster.store_setStore_of_ne c _ (Ne.symm h)

theorem find?_of_ne (e : Edit) {k : Kind} (h : k ≠ e.kind) (place : ObjectKey) :
    (e.apply c).find? k place = c.find? k place := by
  rw [Cluster.find?, e.store_of_ne h, Cluster.find?]

/-- What was read is replaced, with a new version, and nothing else. -/
theorem find?_replace_read (hc : c.Sound) {k : Kind} {here : ObjectKey} {s : Object k}
    (hs : c.find? k here = some s) (obj : Object k) (hm : obj.metadata = s.metadata)
    (place : ObjectKey) :
    ((replace obj).apply c).find? k place =
      if place = here then some (Store.successor s obj) else c.find? k place := by
  obtain ⟨c', hreplace, hputs⟩ := hc.replace_read hs obj hm
  have hplace : (Store.successor s obj).place = here :=
    (congrArg ObjectKey.ofMetadata hm).trans (hc.place hs)
  have happly : (replace obj).apply c = c' := congrArg Prod.snd hreplace
  rw [happly, hputs.find?, hplace]

/-- Whether an edit puts an object into place. -/
inductive Writes {k : Kind} (obj : Object k) : Edit → Prop
  | insert : Writes obj (.insert obj)
  | create : Writes obj (.create obj)
  | replace : Writes obj (.replace obj)

/-- What is found after an edit was there before, or is what was written. -/
theorem find?_cases (e : Edit) {k : Kind} {place : ObjectKey} {found : Object k}
    (h : (e.apply c).find? k place = some found) :
    c.find? k place = some found ∨ ∃ obj : Object k, Writes obj e ∧ found.spec = obj.spec := by
  cases e with
  | insert obj =>
    rcases (c.puts_insert obj).find?_cases h with hbefore | ⟨-, rfl, rfl⟩
    · exact Or.inl hbefore
    · exact Or.inr ⟨obj, .insert, rfl⟩
  | create obj =>
    rcases c.create_cases obj with ⟨-, hcreate⟩ | ⟨-, c', hcreate, hputs⟩
    · exact Or.inl (congrArg (fun r => r.2.find? k place) hcreate ▸ h)
    · replace h : (c.create obj).2.find? k place = some found := h
      rw [hcreate] at h
      rcases hputs.find?_cases h with hbefore | ⟨-, rfl, rfl⟩
      · exact Or.inl hbefore
      · exact Or.inr ⟨obj, .create, rfl⟩
  | replace obj =>
    replace h : (c.replace obj).2.find? k place = some found := h
    rcases c.replace_cases obj with ⟨e, hreplace⟩ | ⟨current, -, -, c', hreplace, hputs⟩
    · rw [hreplace] at h
      exact Or.inl h
    · rw [hreplace] at h
      rcases hputs.find?_cases h with hbefore | ⟨-, rfl, rfl⟩
      · exact Or.inl hbefore
      · exact Or.inr ⟨obj, .replace, rfl⟩
  | delete k' key => exact Or.inl (Cluster.find?_of_delete h)

end Edit

/-- What holds at first and is kept by each event of a history holds throughout. -/
theorem Cluster.history_induction {Event : Type} {after : Cluster → Event → Cluster}
    {start : Cluster} {P : Cluster → Prop} {events : List Event} (hstart : P start)
    (hstep : ∀ past e, past ++ [e] <+: events → P (past.foldl after start) →
      P (after (past.foldl after start) e)) :
    ∀ past, past <+: events → P (past.foldl after start) := by
  intro past
  induction past using List.reverseRecOn with
  | nil => exact fun _ => hstart
  | append_singleton past e ih =>
    intro hnow
    rw [List.foldl_append]
    exact hstep past e hnow (ih ((List.prefix_append past [e]).trans hnow))

end ServiceTemplates
