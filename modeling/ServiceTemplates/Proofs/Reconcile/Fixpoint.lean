import ServiceTemplates.Proofs.Reconcile.Retry
import ServiceTemplates.Proofs.Reconcile.Success

/-!
# Nothing is left to do after a success

A pass that has succeeded finds everything in line when it is run again: what it created
counts as its own, what it refreshed counts as refreshed, and what it reported is not reported
again. Main statement: `QueueKind.pass_fixpoint`.
-/

namespace ServiceTemplates

variable {c c' : Cluster} {key : String}

/-- What is in line for an instance does not depend on how plans are chosen. -/
theorem Flow.InLine.of_plans {plans : PlanResolver} {place : ObjectKey} {inst : TemplatedInstance}
    {provisioned : ServiceInstance} (h : (instanceFlow plans).InLine place c inst provisioned)
    (plans' : PlanResolver) : (instanceFlow plans').InLine place c inst provisioned :=
  ⟨h.templated, h.provisioned, h.controlled, h.inSync, h.reported⟩

theorem synchronizeInstance_again (hc : c.Sound) {plans : PlanResolver} {time : String}
    {result : Option TemplatedInstance}
    (h : (synchronizeInstance plans time key).run Cluster.serve c = (.ok result, c'))
    (plans' : PlanResolver) (time' : String) :
    (synchronizeInstance plans' time' key).run Cluster.serve c' = (.ok result, c') := by
  rw [synchronizeInstance_eq] at h ⊢
  rcases Flow.pass_leaves hc h with ⟨hidle, rfl, rfl⟩ | ⟨ns, name, o, o', s', hkey, rfl, hleaves⟩
  · exact hidle.run_pass (instanceFlow plans') time'
  · exact (hleaves.inLine.of_plans plans').run_pass hkey time'

theorem synchronizeBinding_again (hc : c.Sound) {time : String} {result : Option TemplatedBinding}
    (h : (synchronizeBinding time key).run Cluster.serve c = (.ok result, c')) (time' : String) :
    (synchronizeBinding time' key).run Cluster.serve c' = (.ok result, c') := by
  rw [synchronizeBinding_eq] at h ⊢
  rcases Flow.pass_leaves hc h with ⟨hidle, rfl, rfl⟩ | ⟨ns, name, o, o', s', hkey, rfl, hleaves⟩
  · exact hidle.run_pass bindingFlow time'
  · exact hleaves.inLine.run_pass hkey time'

/-- A pass for a secret writes nothing, or publishes its credentials. -/
theorem run_synchronizeSecret_cases (hc : c.Sound) (key : String) :
    ((synchronizeSecret key).run Cluster.serve c).2 = c ∨
      ∃ ns name published provisioned binding copy c',
        wellFormedKey? key = some (ns, name) ∧ publishedName? name = some published ∧
        c.find? .secret ⟨ns, name⟩ = some provisioned ∧
        ((managedBinding provisioned).run Cluster.serve c).1 = .ok (some binding) ∧
        (synchronizeSecret key).run Cluster.serve c = (.ok (some copy), c') ∧
        Secret.Publishes provisioned binding copy ∧ copy.place = ⟨ns, published⟩ ∧
        c.Puts copy c' := by
  rcases synchronizeSecret_cases key with h | ⟨ns, name, published, hkey, hpublished⟩
  · exact Or.inl (by rw [h]; rfl)
  cases hprovisioned : c.find? .secret ⟨ns, name⟩ with
  | none =>
    have hget : (c.store .secret).get? (some ns) name = none := hprovisioned
    rw [synchronizeSecret_of_wellFormed hkey hpublished, Pass.run_cached_bind, hget]
    exact Or.inl rfl
  | some provisioned =>
    have hget : (c.store .secret).get? (some ns) name = some provisioned := hprovisioned
    have hreads := managedBinding_readsOnly provisioned
    cases hbinding : ((managedBinding provisioned).run Cluster.serve c).1 with
    | error e =>
      rw [synchronizeSecret_of_wellFormed hkey hpublished, Pass.run_cached_bind, hget,
        Secret.visit, hreads.run_bind_error hbinding]
      exact Or.inl rfl
    | ok found =>
      cases found with
      | none =>
        rw [synchronizeSecret_of_wellFormed hkey hpublished, Pass.run_cached_bind, hget,
          Secret.visit, hreads.run_bind_ok hbinding]
        exact Or.inl rfl
      | some binding =>
        rw [run_synchronizeSecret hkey hpublished hprovisioned hbinding]
        rcases Secret.run_follow hc hprovisioned (wellFormedKey?_ne hkey).2 hpublished binding with
          ⟨existing, hexisting, -, hrun⟩ | ⟨copy, c', hrun, hpublishes, hplace, ⟨rfl, -⟩ | hputs⟩
        · exact Or.inl (by rw [hexisting, hrun])
        · exact Or.inl (by rw [hrun])
        · exact Or.inr ⟨ns, name, published, provisioned, binding, copy, c', hkey, hpublished,
            hprovisioned, hbinding, hrun, hpublishes, hplace, hputs⟩

theorem synchronizeSecret_again (hc : c.Sound) {result : Option Secret}
    (h : (synchronizeSecret key).run Cluster.serve c = (.ok result, c')) :
    (synchronizeSecret key).run Cluster.serve c' = (.ok result, c') := by
  rcases run_synchronizeSecret_cases hc key with hsame | ⟨ns, name, published, provisioned, binding,
    copy, c₁, hkey, hpublished, hprovisioned, hbinding, hrun, hpublishes, hplace, hputs⟩
  · rw [h] at hsame
    obtain rfl : c' = c := hsame
    exact h
  · rw [hrun] at h
    cases h
    exact run_synchronizeSecret_after hkey hpublished hprovisioned hbinding hputs hplace
      hpublishes.follow_eq

/-- **A pass that succeeds is a fixpoint.** Run again on what it left, whatever the time and
however plans are chosen by then, a pass for the same key ends with the same object and leaves
every store exactly as it was, the count of its writes included. -/
theorem QueueKind.pass_fixpoint (q : QueueKind) (hc : c.Sound) {plans : PlanResolver}
    {time : String} {result : Option (Object q.kind)}
    (h : ((q.pass plans time key).runOn c).result = .ok result) (plans' : PlanResolver)
    (time' : String) :
    let left := ((q.pass plans time key).runOn c).cluster
    let again := (q.pass plans' time' key).runOn left
    again.result = .ok result ∧ again.cluster = left := by
  intro left again
  have hrun : (q.pass plans time key).run Cluster.serve c = (.ok result, left) := by
    rw [Pass.run_serve_eq, h]
  have hagain : (q.pass plans' time' key).run Cluster.serve left = (.ok result, left) := by
    cases q with
    | templatedInstance => exact synchronizeInstance_again hc hrun plans' time'
    | templatedBinding => exact synchronizeBinding_again hc hrun time'
    | secret => exact synchronizeSecret_again hc hrun
  rw [Pass.runOn_result, Pass.runOn_cluster, hagain]
  exact ⟨rfl, rfl⟩

/-- The pass that stores a template, creates the service instance and reports on it is
followed by one that finds all of this in line. -/
theorem QueueKind.pass_fixpoint_provisioned :
    let template : Object .clusterInstanceTemplate :=
      { metadata := { name := some "small" }
        spec := {
          plan := .ofClusterExternal "mysql" "small"
          parameters := some (.ofJson (.ofFields [("size", .ofInt 5)])) } }
    let inst : TemplatedInstance :=
      { metadata := { name := some "db", ns := some "default" }
        spec := { parameters := some (.ofJson (.ofFields [("backup", .bool true)])) } }
    let c := ((Cluster.empty.insert template).2.insert inst).2
    let first := (templatedInstance.pass noPlans "noon" "default/db").runOn c
    let again := (templatedInstance.pass noPlans "one" "default/db").runOn first.cluster
    c.Sound ∧ ∃ stored, first.result = .ok (some stored) ∧
      again.result = .ok (some stored) ∧ again.cluster = first.cluster := by
  intro template inst c first again
  have hsound : c.Sound := (Cluster.sound_empty.insert template).insert inst
  have hsuccess : (first.result.toOption.bind id).isSome := by decide +kernel
  obtain ⟨stored, hstored⟩ := Option.isSome_iff_exists.1 hsuccess
  have hfirst : first.result = .ok (some stored) := by
    cases hresult : first.result with
    | error e => simp [hresult, Except.toOption] at hstored
    | ok result => simpa [hresult, Except.toOption] using hstored
  exact ⟨hsound, stored, hfirst, templatedInstance.pass_fixpoint hsound hfirst noPlans "one"⟩

end ServiceTemplates
