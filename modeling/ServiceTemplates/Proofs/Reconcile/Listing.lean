import ServiceTemplates.Cache.Basic
import ServiceTemplates.Reconcile.Resolve

/-!
# Listing templates and taking the first by name

Listers that filter what they know list for a service type the templates that are labelled
with it. Of what is listed, the one with the least name is taken, and of several with that
name the one that is listed first. Main statements: `Listers.Selective.list_forServiceType`
and `firstByName_eq_some_iff`.
-/

namespace ServiceTemplates

/-! ## What listers list -/

def Listers.all (listers : Listers) (k : Kind) : List (Object k) := listers.list k none .everything

/-- Whether a list holds what its namespace and its filter leave of all objects. -/
def Listers.Selective (listers : Listers) : Prop :=
  ∀ k ns filter, listers.list k ns filter =
    (listers.all k).filter fun obj => obj.metadata.inScope ns filter

theorem Metadata.inScope_everything (m : Metadata) : m.inScope none .everything = true := rfl

/-- A cluster lists from its stores, by scope and label. -/
theorem Cluster.listers_selective (c : Cluster) : c.listers.Selective := by
  intro k ns filter
  simp [Listers.all, Cluster.listers, Store.list, Metadata.inScope_everything]

/-- So does a cache, from the replicas that it is given. -/
theorem Cache.listers_selective (c : Cache) (instances : Replica .templatedInstance)
    (bindings : Replica .templatedBinding) (secrets : Replica .secret) :
    (c.listers instances bindings secrets).Selective := by
  intro k ns filter
  simp [Listers.all, Cache.listers, Replica.list, Metadata.inScope_everything]

/-- Whether a template is labelled with a service type; the empty one asks for no label. -/
def Metadata.Serves (m : Metadata) (serviceType : String) : Prop :=
  serviceType = "" ∨ m.labels.bind (·.find? serviceTypeLabel) = some serviceType

instance (m : Metadata) (serviceType : String) : Decidable (m.Serves serviceType) :=
  inferInstanceAs (Decidable (_ ∨ _))

/-- The filter for a service type lets pass what serves it, and everything if there is none. -/
theorem LabelFilter.accepts_forServiceType (m : Metadata) (serviceType : String) :
    (forServiceType serviceType).accepts m.labels = decide (m.Serves serviceType) := by
  by_cases h : serviceType = ""
  · simp [forServiceType, everything, accepts, Metadata.Serves, h]
  · simp [forServiceType, accepts, Metadata.Serves, h, Bool.beq_eq_decide_eq]

/-- In the whole cluster, the label decides. -/
theorem Listers.Selective.list_forServiceType {listers : Listers} (h : listers.Selective) (k : Kind)
    (serviceType : String) :
    listers.list k none (.forServiceType serviceType) =
      (listers.all k).filter fun obj => obj.metadata.Serves serviceType := by
  simp only [h k none, Metadata.inScope, LabelFilter.accepts_forServiceType, Bool.true_and]

/-- Within a namespace, the label and the namespace decide. -/
theorem Listers.Selective.list_forServiceType_within {listers : Listers} (h : listers.Selective)
    (k : Kind) (ns serviceType : String) :
    listers.list k (some ns) (.forServiceType serviceType) =
      (listers.all k).filter fun obj =>
        obj.metadata.ns = some ns ∧ obj.metadata.Serves serviceType := by
  simp only [h k (some ns), Metadata.inScope, LabelFilter.accepts_forServiceType, Bool.decide_and,
    Bool.beq_eq_decide_eq]

/-! ## The first by name -/

/-- Whether `o` has the least name among some objects, and stands first among those of its
name. -/
def IsFirstByName {k : Kind} (found : List (Object k)) (o : Object k) : Prop :=
  ∃ before after, found = before ++ o :: after ∧
    (∀ x ∈ before, compare o.metadata.name x.metadata.name = .lt) ∧
    ∀ x ∈ after, (compare o.metadata.name x.metadata.name).isLE

section ByName

variable {k : Kind} {a o : Object k} {found : List (Object k)}

theorem not_isFirstByName_nil : ¬ IsFirstByName [] o := by
  rintro ⟨before, after, h, -⟩
  simp at h

/-- Whether the first of a list is the first by name, or one of the others. -/
theorem isFirstByName_cons :
    IsFirstByName (a :: found) o ↔
      (o = a ∧ ∀ x ∈ found, (compare a.metadata.name x.metadata.name).isLE) ∨
      (compare o.metadata.name a.metadata.name = .lt ∧ IsFirstByName found o) := by
  constructor
  · rintro ⟨before, after, hfound, hbefore, hafter⟩
    cases before with
    | nil =>
      obtain ⟨rfl, rfl⟩ := List.cons.inj hfound
      exact Or.inl ⟨rfl, hafter⟩
    | cons b before =>
      obtain ⟨rfl, rfl⟩ := List.cons.inj hfound
      refine Or.inr ⟨hbefore a List.mem_cons_self, before, after, rfl, fun x hx => ?_, hafter⟩
      exact hbefore x (List.mem_cons_of_mem _ hx)
  · rintro (⟨rfl, hleast⟩ | ⟨hlt, before, after, rfl, hbefore, hafter⟩)
    · exact ⟨[], found, rfl, List.forall_mem_nil _, hleast⟩
    · exact ⟨a :: before, after, rfl, List.forall_mem_cons.2 ⟨hlt, hbefore⟩, hafter⟩

theorem name_isLE_trans (a b c : Object k) :
    (compare a.metadata.name b.metadata.name).isLE →
      (compare b.metadata.name c.metadata.name).isLE →
        (compare a.metadata.name c.metadata.name).isLE :=
  Std.TransCmp.isLE_trans

theorem name_isLE_total (a b : Object k) :
    (compare a.metadata.name b.metadata.name).isLE ||
      (compare b.metadata.name a.metadata.name).isLE := by
  cases h : compare a.metadata.name b.metadata.name with
  | lt => rfl
  | eq => rfl
  | gt => simp [Std.OrientedCmp.lt_of_gt h]

theorem name_lt_iff (a b : Object k) :
    compare a.metadata.name b.metadata.name = .lt ↔
      ¬ (compare b.metadata.name a.metadata.name).isLE := by
  have hswap : compare a.metadata.name b.metadata.name =
      (compare b.metadata.name a.metadata.name).swap := Std.OrientedCmp.eq_swap
  rw [hswap]
  cases compare b.metadata.name a.metadata.name <;> simp

/-- One object more is the first by name if no other has a lesser name, and does not
matter otherwise. -/
theorem firstByName_cons_eq_some_iff :
    firstByName (a :: found) = some o ↔
      (o = a ∧ ∀ x ∈ found, (compare a.metadata.name x.metadata.name).isLE) ∨
      (compare o.metadata.name a.metadata.name = .lt ∧ firstByName found = some o) := by
  obtain ⟨lesser, rest, hsort, hsort', hlesser⟩ :=
    List.mergeSort_cons name_isLE_trans name_isLE_total a found
  have hhead : firstByName (a :: found) = (lesser ++ a :: rest).head? := congrArg List.head? hsort
  have hhead' : firstByName found = (lesser ++ rest).head? := congrArg List.head? hsort'
  have hmem : ∀ x, x ∈ found ↔ x ∈ lesser ++ rest := fun x => by
    rw [← hsort', List.mem_mergeSort]
  have hrest : ∀ x ∈ rest, (compare a.metadata.name x.metadata.name).isLE := by
    have hpair := List.pairwise_mergeSort name_isLE_trans name_isLE_total (a :: found)
    rw [hsort] at hpair
    exact (List.pairwise_cons.1 (List.pairwise_append.1 hpair).2.1).1
  rw [hhead, hhead']
  -- The objects of lesser names stand before it; without any, it is the first.
  cases lesser with
  | nil =>
    have hleast : ∀ x ∈ found, (compare a.metadata.name x.metadata.name).isLE := fun x hx =>
      hrest x ((hmem x).1 hx)
    constructor
    · rintro ⟨⟩
      exact Or.inl ⟨rfl, hleast⟩
    · rintro (⟨rfl, -⟩ | ⟨hlt, ho⟩)
      · rfl
      · exact absurd (hrest o (List.mem_of_head? ho)) ((name_lt_iff o a).1 hlt)
  | cons b lesser =>
    have hb : compare b.metadata.name a.metadata.name = .lt :=
      (name_lt_iff b a).2 (by simpa using hlesser b List.mem_cons_self)
    have hfound : b ∈ found := (hmem b).2 (by simp)
    constructor
    · rintro ⟨⟩
      exact Or.inr ⟨hb, rfl⟩
    · rintro (⟨-, hleast⟩ | ⟨-, ho⟩)
      · exact absurd (hleast b hfound) ((name_lt_iff b a).1 hb)
      · exact ho

/-- **The first by name is found**, and among several of one name the first that was listed. -/
theorem firstByName_eq_some_iff : firstByName found = some o ↔ IsFirstByName found o := by
  induction found with
  | nil => exact iff_of_false (by simp [firstByName, sortByName]) not_isFirstByName_nil
  | cons a found ih => rw [firstByName_cons_eq_some_iff, isFirstByName_cons, ih]

theorem firstByName_eq_none_iff : firstByName found = none ↔ found = [] := by
  rw [firstByName, List.head?_eq_none_iff, ← List.length_eq_zero_iff, sortByName,
    List.length_mergeSort, List.length_eq_zero_iff]

end ByName

end ServiceTemplates
