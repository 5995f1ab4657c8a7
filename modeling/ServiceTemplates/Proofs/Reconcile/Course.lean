import ServiceTemplates.Proofs.Reconcile.Success
import ServiceTemplates.Proofs.Store.Edit

/-!
# The course of a cluster

Passes for instances and for bindings alternate with what users and the catalog write: users
write requests and templates, and the catalog reports on what is provisioned. What a single pass
may do to the two objects under its key is said for any flow (`Flow.run_pass_templated`,
`Flow.run_pass_provisioned`, `Flow.pass_rewrites`), and what holds at first and is kept by each
event holds throughout (`Happening.run_induction`).
-/

namespace ServiceTemplates

/-! ## What a pass may change -/

namespace Flow

variable {t p : Kind} (F : Flow t p) {c : Cluster} {place : ObjectKey} {o : Object t} {s : Object p}

/-- A pass leaves a templated object in place, with its identity, and writes to its desired state
only what its templates add. -/
theorem run_pass_templated (hc : c.Sound) (time key : String) (ho : c.find? t place = some o) :
    ∃ o', ((F.pass time key).run Cluster.serve c).2.find? t place = some o' ∧
      o.SameButVersion o' ∧
      (o'.spec = o.spec ∨ ((F.resolve o).run Cluster.serve c).1 = .ok o'.spec) := by
  rcases F.run_pass_at hc time key place with ⟨htemplated, -⟩ | ⟨uid, htemplated, -⟩
  · exact ⟨o, htemplated.trans ho, .refl o, Or.inl rfl⟩
  · rw [htemplated, ho]
    exact F.effect_templated time uid _ o _

/-- A pass creates no templated objects. -/
theorem run_pass_absent (hc : c.Sound) (time key : String) (ho : c.find? t place = none) :
    ((F.pass time key).run Cluster.serve c).2.find? t place = none := by
  rcases F.run_pass_at hc time key place with ⟨htemplated, -⟩ | ⟨uid, htemplated, -⟩
  · exact htemplated.trans ho
  · rw [htemplated, ho]
    rfl

/-- A pass leaves what is provisioned in place, with its identity and the catalog's report, and
writes to its desired state only what is pushed down. -/
theorem run_pass_provisioned (hc : c.Sound) (time key : String) (hs : c.find? p place = some s) :
    ∃ s', ((F.pass time key).run Cluster.serve c).2.find? p place = some s' ∧
      s.SameButVersion s' ∧ s'.status = s.status ∧
      (s'.spec = s.spec ∨ ∃ wanted, s'.spec = F.refresh wanted s.spec) := by
  have hkept : ∃ s', some s = some s' ∧ s.SameButVersion s' ∧ s'.status = s.status ∧
      (s'.spec = s.spec ∨ ∃ wanted, s'.spec = F.refresh wanted s.spec) :=
    ⟨s, rfl, .refl s, rfl, Or.inl rfl⟩
  rcases F.run_pass_at hc time key place with ⟨-, hprovisioned⟩ | ⟨uid, -, hprovisioned⟩
  · rw [hprovisioned, hs]
    exact hkept
  · rw [hprovisioned, hs]
    cases c.find? t place with
    | none => exact hkept
    | some o =>
      by_cases hctl : s.metadata.isControlledBy o
      · rw [effect_of_controlled hctl]
        show ∃ s', some (F.pushed o s) = some s' ∧ _
        unfold pushed
        split
        · exact hkept
        · exact ⟨_, rfl, .successor s _ s.status, rfl, Or.inr ⟨o.spec, rfl⟩⟩
      · rw [effect_of_foreign hctl]
        exact hkept

/-- Objects of other kinds are left alone. -/
theorem run_pass_other (hc : c.Sound) (time key : String) {k : Kind} (ht : k ≠ t) (hp : k ≠ p)
    (place : ObjectKey) :
    ((F.pass time key).run Cluster.serve c).2.find? k place = c.find? k place := by
  cases hkey : wellFormedKey? key with
  | none =>
    rw [pass_of_malformed hkey]
    rfl
  | some here =>
    obtain ⟨uid, hhas⟩ := run_pass_has (F := F) hc hkey time
    exact hhas.beyond k place fun hand => hand.1.elim ht hp

/-- What stands provisioned after a pass that ends with `o'`, next to what stood there before:
the same, or what was pushed down of `o'`, or what was built for it. -/
inductive Rewrites (o' : Object t) (before : Option (Object p)) (s' : Object p) : Prop
  | untouched (same : before = some s')
  | pushed {s : Object p} (found : before = some s) (spec : s'.spec = F.refresh o'.spec s.spec)
  | built {o : Object t} {desired : Object p} (vacant : before = none) (asked : o.spec = o'.spec)
    (build : F.build o = .ok desired) (spec : s'.spec = desired.spec)

/-- An effect that is a success says what has become of what is provisioned. -/
theorem effect_rewrites {time uid : String} {resolve : Object t → Except Error t.Spec}
    {o? : Option (Object t)} {s? : Option (Object p)} {o' : Object t} {s' : Object p}
    (hresult : (F.effect time uid resolve o? s?).result = .ok (some o'))
    (hs' : (F.effect time uid resolve o? s?).provisioned = some s') : F.Rewrites o' s? s' := by
  cases o? with
  | none => cases hresult
  | some o =>
    cases s? with
    | none =>
      replace hresult : (F.provisioning time uid o (resolve o)).result = .ok (some o') := hresult
      replace hs' : (F.provisioning time uid o (resolve o)).provisioned = some s' := hs'
      -- Without anything provisioned the pass can only have built it.
      cases hspec : resolve o with
      | error e =>
        rw [hspec] at hresult
        cases hresult
      | ok spec =>
        rw [hspec] at hresult hs'
        cases hbuild : F.build (F.stored o spec) with
        | error e =>
          rw [provisioning_of_unbuilt hbuild] at hresult
          cases hresult
        | ok desired =>
          rw [provisioning_of_built hbuild] at hresult hs'
          cases hresult
          cases hs'
          exact .built rfl (F.reported_spec time _ _).symm hbuild rfl
    | some s =>
      by_cases hctl : s.metadata.isControlledBy o
      · rw [effect_of_controlled hctl] at hresult hs'
        cases hresult
        obtain rfl := Option.some.inj hs'
        unfold pushed
        split
        · exact .untouched rfl
        · refine .pushed rfl ?_
          rw [reported_spec]
          rfl
      · rw [effect_of_foreign hctl] at hresult
        cases hresult

/-- **A pass that returns an object has it in line with what is provisioned**, and says what it
wrote of it. -/
theorem pass_rewrites (hc : c.Sound) {time key : String} {o' : Object t} {c' : Cluster}
    (h : (F.pass time key).run Cluster.serve c = (.ok (some o'), c')) :
    ∃ ns name s', wellFormedKey? key = some (ns, name) ∧ F.InLine ⟨ns, name⟩ c' o' s' ∧
      F.Rewrites o' (c.find? p ⟨ns, name⟩) s' := by
  rcases F.pass_leaves hc h with ⟨-, hnone, -⟩ | ⟨ns, name, o, o₁, s', hkey, hsome, hleaves⟩
  · cases hnone
  · obtain rfl := Option.some.inj hsome
    obtain ⟨uid, hhas⟩ := run_pass_has (F := F) hc hkey time
    rw [h] at hhas
    have hprovisioned := hhas.provisioned.symm.trans hleaves.inLine.provisioned
    exact ⟨ns, name, s', hkey, hleaves.inLine, F.effect_rewrites hhas.result.symm hprovisioned⟩

end Flow

/-! ## Events -/

/-- The kinds of objects that users write: what they ask for, and templates. -/
def Kind.UsersAsk (k : Kind) : Prop :=
  k = .templatedInstance ∨ k = .templatedBinding ∨ k.IsTemplate

/-- Users do not write what is provisioned. -/
theorem Kind.UsersAsk.ne_provisioned {k : Kind} (h : k.UsersAsk) :
    .serviceInstance ≠ k ∧ .serviceBinding ≠ k := by
  constructor
  · rintro rfl
    rcases h with h | h | h <;> cases h
  · rintro rfl
    rcases h with h | h | h <;> cases h

/-- What the catalog writes on provisioned objects: how they are doing, and of an instance the
class and the plan that were found for it. -/
inductive CatalogReport where
  | onInstance (place : ObjectKey) (status : Option ServiceInstanceStatus)
    (classRef planRef : Option NameReference)
  | onBinding (place : ObjectKey) (status : Option ServiceBindingStatus)

/-- A service instance with what the catalog reports of it. -/
def ServiceInstance.withReport (s : ServiceInstance) (status : Option ServiceInstanceStatus)
    (classRef planRef : Option NameReference) : ServiceInstance :=
  let spec : ServiceInstanceSpec := s.spec
  ⟨s.metadata, { spec with classRef := classRef, planRef := planRef }, status⟩

namespace CatalogReport

/-- A report as a replacement of what it is about, if that is there. -/
def edit? (c : Cluster) : CatalogReport → Option Edit
  | onInstance place status classRef planRef =>
    (c.find? .serviceInstance place).map fun s =>
      .replace (ServiceInstance.withReport s status classRef planRef)
  | onBinding place status =>
    (c.find? .serviceBinding place).map fun s => .replace { s with status := status }

def apply (c : Cluster) (report : CatalogReport) : Cluster :=
  match report.edit? c with
  | some made => made.apply c
  | none => c

variable {c : Cluster}

theorem sound (hc : c.Sound) (report : CatalogReport) : (report.apply c).Sound := by
  unfold apply
  split
  · next made _ => exact made.sound hc
  · exact hc

/-- The catalog writes on provisioned objects only. -/
theorem kind_of_edit? {report : CatalogReport} {made : Edit} (h : report.edit? c = some made) :
    made.kind = .serviceInstance ∨ made.kind = .serviceBinding := by
  cases report with
  | onInstance place status classRef planRef =>
    obtain ⟨s, -, rfl⟩ := Option.map_eq_some_iff.1 h
    exact Or.inl rfl
  | onBinding place status =>
    obtain ⟨s, -, rfl⟩ := Option.map_eq_some_iff.1 h
    exact Or.inr rfl

/-- The catalog does not write what users write. -/
theorem find?_of_asked (report : CatalogReport) {k : Kind} (hk : k.UsersAsk) (place : ObjectKey) :
    (report.apply c).find? k place = c.find? k place := by
  obtain ⟨hinstance, hbinding⟩ := hk.ne_provisioned
  unfold apply
  split
  · next made hmade =>
    have hne : k ≠ made.kind := by
      rintro rfl
      rcases kind_of_edit? hmade with h | h
      · exact hinstance h.symm
      · exact hbinding h.symm
    exact made.find?_of_ne hne place
  · rfl

/-- A report changes no instance, or moves one on. -/
theorem find?_serviceInstance (hc : c.Sound) (report : CatalogReport) (place : ObjectKey) :
    (report.apply c).find? .serviceInstance place = c.find? .serviceInstance place ∨
      ∃ s status classRef planRef, c.find? .serviceInstance place = some s ∧
        (report.apply c).find? .serviceInstance place =
          some (Store.successor s (ServiceInstance.withReport s status classRef planRef)) := by
  unfold apply
  split
  · next made hmade =>
    cases report with
    | onInstance here status classRef planRef =>
      obtain ⟨s, hs, rfl⟩ := Option.map_eq_some_iff.1 hmade
      rw [Edit.find?_replace_read hc hs (ServiceInstance.withReport s status classRef planRef) rfl]
      split
      · next hplace => exact Or.inr ⟨s, status, classRef, planRef, hplace ▸ hs, rfl⟩
      · exact Or.inl rfl
    | onBinding here status =>
      obtain ⟨s, -, rfl⟩ := Option.map_eq_some_iff.1 hmade
      have hother : Kind.serviceInstance ≠ .serviceBinding := by decide
      exact Or.inl (Edit.find?_of_ne _ hother place)
  · exact Or.inl rfl

/-- A report changes no binding, or moves one on. -/
theorem find?_serviceBinding (hc : c.Sound) (report : CatalogReport) (place : ObjectKey) :
    (report.apply c).find? .serviceBinding place = c.find? .serviceBinding place ∨
      ∃ s status, c.find? .serviceBinding place = some s ∧
        (report.apply c).find? .serviceBinding place =
          some (Store.successor s { s with status := status }) := by
  unfold apply
  split
  · next made hmade =>
    cases report with
    | onInstance here status classRef planRef =>
      obtain ⟨s, -, rfl⟩ := Option.map_eq_some_iff.1 hmade
      have hother : Kind.serviceBinding ≠ .serviceInstance := by decide
      exact Or.inl (Edit.find?_of_ne _ hother place)
    | onBinding here status =>
      obtain ⟨s, hs, rfl⟩ := Option.map_eq_some_iff.1 hmade
      rw [Edit.find?_replace_read hc hs { s with status := status } rfl]
      split
      · next hplace => exact Or.inr ⟨s, status, hplace ▸ hs, rfl⟩
      · exact Or.inl rfl
  · exact Or.inl rfl

end CatalogReport

/-- What happens to a cluster: a pass for an instance or for a binding, an edit by a user, or a
report by the catalog. -/
inductive Happening where
  | instancePass (plans : PlanResolver) (time key : String)
  | bindingPass (time key : String)
  | edit (made : Edit) (users : made.kind.UsersAsk)
  | report (made : CatalogReport)

namespace Happening

def after (c : Cluster) : Happening → Cluster
  | instancePass plans time key => ((synchronizeInstance plans time key).runOn c).cluster
  | bindingPass time key => ((synchronizeBinding time key).runOn c).cluster
  | edit made _ => made.apply c
  | report made => made.apply c

def IsPass : Happening → Prop
  | instancePass _ _ _ | bindingPass _ _ => True
  | edit _ _ | report _ => False

def run (start : Cluster) (events : List Happening) : Cluster := events.foldl after start

variable {start c : Cluster}

theorem run_append (past later : List Happening) :
    run start (past ++ later) = run (run start past) later :=
  List.foldl_append

theorem after_instancePass (c : Cluster) (plans : PlanResolver) (time key : String) :
    after c (instancePass plans time key) =
      (((instanceFlow plans).pass time key).run Cluster.serve c).2 := by
  rw [after, Pass.runOn_cluster, synchronizeInstance_eq]

theorem after_bindingPass (c : Cluster) (time key : String) :
    after c (bindingPass time key) = ((bindingFlow.pass time key).run Cluster.serve c).2 := by
  rw [after, Pass.runOn_cluster, synchronizeBinding_eq]

/-- What holds at first and is kept by each event of a history holds throughout. -/
theorem run_induction {P : Cluster → Prop} {events : List Happening} (hstart : P start)
    (hstep : ∀ past e, past ++ [e] <+: events → P (run start past) →
      P (e.after (run start past))) :
    ∀ past, past <+: events → P (run start past) :=
  Cluster.history_induction hstart hstep

/-- No event makes a sound cluster unsound. -/
theorem Sound.after (hc : c.Sound) (e : Happening) : (e.after c).Sound := by
  cases e with
  | instancePass plans time key => exact hc.runOn _
  | bindingPass time key => exact hc.runOn _
  | edit made users => exact made.sound hc
  | report made => exact made.sound hc

theorem sound_run (hstart : start.Sound) (events : List Happening) : (run start events).Sound := by
  have hsound : ∀ past, past <+: events → (run start past).Sound := by
    apply run_induction hstart
    exact fun _ e _ hc => Sound.after hc e
  exact hsound events (List.prefix_refl events)

end Happening

end ServiceTemplates
