import ServiceTemplates.Proofs.Reconcile.View
import ServiceTemplates.Proofs.Store.Key

/-!
# Tenants apart

A pass for a key looks at nothing outside the namespace of the key but at the cluster-wide
templates of the service type by which it looks them up, and it writes nothing outside. Two
clusters that agree on the rest are therefore the same to it. Main statement:
`QueueKind.pass_isolated`.
-/

namespace ServiceTemplates

namespace QueueKind

/-! ## What a tenant shares with others -/

/-- Whether a pass looks templates up by a service type: that of the instance, or that of the
instance which a binding refers to. -/
def LooksUp (q : QueueKind) (c : Cluster) (place : ObjectKey) (serviceType : String) : Prop :=
  match q with
  | .templatedInstance => ∃ inst : TemplatedInstance,
      c.find? .templatedInstance place = some inst ∧
      TemplatedInstanceSpec.serviceType inst.spec = serviceType
  | .templatedBinding => ∃ (binding : TemplatedBinding) (inst : TemplatedInstance),
      c.find? .templatedBinding place = some binding ∧
      c.find? .templatedInstance
        ⟨place.ns, (TemplatedBindingSpec.instanceRef binding.spec).name⟩ = some inst ∧
      TemplatedInstanceSpec.serviceType inst.spec = serviceType
  | .secret => False

/-- Whether two clusters hold the same objects in the namespace of a place, and the same
cluster-wide templates of the service type that a pass looks up. -/
structure SameTenant (q : QueueKind) (place : ObjectKey) (c d : Cluster) : Prop where
  inside : ∀ k : Kind, k.isNamespaced → ∀ name,
    d.find? k ⟨place.ns, name⟩ = c.find? k ⟨place.ns, name⟩
  templates : ∀ serviceType, q.LooksUp c place serviceType →
    ∀ (k : Kind), ¬ k.isNamespaced → ∀ key (o : Object k), o.metadata.Serves serviceType →
      (d.find? k key = some o ↔ c.find? k key = some o)

variable {q : QueueKind} {c d : Cluster} {key ns name : String}

/-- To a pass for a key, clusters that agree for its tenant look alike. -/
theorem SameTenant.alike (hc : c.Sound) (hd : d.Sound) (h : q.SameTenant ⟨ns, name⟩ c d)
    (hkey : wellFormedKey? key = some (ns, name)) (plans : PlanResolver) :
    q.Alike plans key c d := by
  intro ns' name' hkey'
  obtain ⟨rfl, rfl⟩ := Prod.mk.inj (Option.some.inj (hkey.symm.trans hkey'))
  have hns := (wellFormedKey?_ne hkey).1
  cases q with
  | templatedInstance =>
    refine ⟨h.inside _ rfl name, h.inside _ rfl name, fun inst hinst => ?_⟩
    have hinstNs := Object.ns_of_place (hc.place hinst) hns
    have htemplates := h.templates _ ⟨inst, hinst, rfl⟩
    refine resolveInstance_congr rfl ?_ ?_ ?_
    · exact Cluster.matching_congr_wide (htemplates _ (by decide))
    · exact Cluster.matching_congr_wide (htemplates _ (by decide))
    · rw [hinstNs]
      exact Cluster.matching_congr_within hc hd (h.inside _ rfl)
  | templatedBinding =>
    refine ⟨h.inside _ rfl name, h.inside _ rfl name, fun binding hbinding => ?_⟩
    have hbindingNs := Object.ns_of_place (hc.place hbinding) hns
    have hget : ∀ (c : Cluster) n, (c.store .templatedInstance).get? binding.metadata.ns n =
        c.find? .templatedInstance ⟨ns, n⟩ := by
      intro c n
      rw [hbindingNs]
      rfl
    refine resolveBinding_congr ?_ fun inst hinst => ?_
    · rw [hget, hget]
      exact congrArg _ (h.inside _ rfl _)
    · rw [hget] at hinst
      have htemplates := h.templates _ ⟨binding, inst, hbinding, hinst, rfl⟩
      refine ⟨?_, ?_, ?_⟩
      · exact Cluster.matching_congr_wide (htemplates _ (by decide))
      · exact Cluster.matching_congr_wide (htemplates _ (by decide))
      · rw [hbindingNs]
        exact Cluster.matching_congr_within hc hd (h.inside _ rfl)
  | secret =>
    refine fun published _ => ⟨?_, h.inside _ rfl published⟩
    refine Cluster.publication?_congr (h.inside _ rfl name) fun secret hsecret => ?_
    have hsecretNs : secret.nsOrEmpty = ns := congrArg ObjectKey.ns (hc.place hsecret)
    rw [← hsecretNs] at h
    exact Cluster.managedBinding?_congr (h.inside _ rfl) (h.inside _ rfl)

/-- What others have does not change this: an object of another namespace, or a cluster-wide
template by which the tenant is not served. -/
theorem SameTenant.insert {k : Kind} {place : ObjectKey} (h : q.SameTenant place c d)
    (obj : Object k) (hforeign : k.isNamespaced → obj.place.ns ≠ place.ns)
    (hnew : d.find? k obj.place = none)
    (hserves : ∀ serviceType, q.LooksUp c place serviceType → ¬ k.isNamespaced →
      ¬ obj.metadata.Serves serviceType) :
    q.SameTenant place c (d.insert obj).2 where
  inside k' hk' name := by
    rw [← h.inside k' hk' name]
    refine (d.puts_insert obj).find?_of_ne fun hk hplace => ?_
    subst hk
    exact hforeign hk' (congrArg ObjectKey.ns hplace).symm
  templates serviceType hlooks k' hk' key o ho := by
    rw [← h.templates serviceType hlooks k' hk' key o ho]
    constructor
    · intro hfound
      rcases (d.puts_insert obj).find?_cases hfound with hfound | ⟨rfl, rfl, rfl⟩
      · exact hfound
      · exact absurd ho (hserves serviceType hlooks hk')
    · intro hfound
      refine ((d.puts_insert obj).find?_of_ne fun hk hplace => ?_).trans hfound
      subst hk
      rw [hplace, show (Store.seeded obj d.nextUid).place = obj.place from rfl, hnew] at hfound
      cases hfound

/-! ## Passes -/

theorem isNamespaced_of_not_template {k : Kind} (h : ¬ k.IsTemplate) : k.isNamespaced := by
  have htier : k.tier? = none := by simpa [Kind.IsTemplate] using h
  rw [Kind.isNamespaced, htier]

/-- **What others have does not matter to a tenant.** In two clusters that agree on a namespace
and on the cluster-wide templates of the service type that is looked up, a pass for a key in that
namespace ends alike, with the same warnings, and leaves the same in the namespace, up to dates
and to the identities that it gives out. Outside of the namespace it changes nothing. -/
theorem pass_isolated (q : QueueKind) (hc : c.Sound) (hd : d.Sound)
    (h : q.SameTenant ⟨ns, name⟩ c d) (plans : PlanResolver) (time time' : String) :
    let key := ns ++ "/" ++ name
    let one := (q.pass plans time key).runOn c
    let other := (q.pass plans time' key).runOn d
    other.endingSince c = one.endingSince c ∧
      Note.warnings other.notes = Note.warnings one.notes ∧
      (∀ k : Kind, k.isNamespaced → ∀ n,
        c.since other.cluster k ⟨ns, n⟩ = c.since one.cluster k ⟨ns, n⟩) ∧
      ∀ k place, ¬ (k.isNamespaced ∧ place.ns = ns) →
        one.cluster.find? k place = c.find? k place ∧
          other.cluster.find? k place = d.find? k place := by
  intro key one other
  have hread : ∀ {ns' name'}, wellFormedKey? key = some (ns', name') → ns' = ns ∧ name' = name :=
    fun hkey => splitKey_append_eq_ok (wellFormedKey?_eq_some_iff.1 hkey)
  have halike : q.Alike plans key c d := by
    intro ns' name' hkey
    obtain ⟨rfl, rfl⟩ := hread hkey
    exact h.alike hc hd hkey plans ns' name' hkey
  have hechoes := pass_echoes hc hd halike time time'
  refine ⟨hechoes.ending, hechoes.warnings, fun k hk n => ?_, fun k place hout => ?_⟩
  · by_cases htarget : (k, ⟨ns, n⟩) ∈ q.targets key
    · exact hechoes.left k _ htarget
    · rw [Cluster.since, Cluster.since, pass_frame hc q plans time htarget,
        pass_frame hd q plans time' htarget, h.inside k hk]
  · have htarget : (k, place) ∉ q.targets key := by
      intro hmem
      obtain ⟨name', hkey, -⟩ := mem_targets hmem
      exact hout ⟨isNamespaced_of_not_template (not_template_of_mem_targets hmem), (hread hkey).1⟩
    exact ⟨pass_frame hc q plans time htarget, pass_frame hd q plans time' htarget⟩

/-- Another tenant asks for a service under the same name, and another service type gets a
template that would come first. -/
theorem pass_isolated_neighbour :
    let template (name serviceType : String) : Object .clusterInstanceTemplate :=
      { metadata := {
          name := some name, labels := some (.ofList [(serviceTypeLabel, serviceType)]) }
        spec := { plan := .ofClusterExternal serviceType "small" } }
    let inst (ns serviceType : String) : TemplatedInstance :=
      { metadata := { name := some "db", ns := some ns }, spec := { serviceType := serviceType } }
    let c := ((Cluster.empty.insert (template "mysql" "mysql")).2.insert (inst "shop" "mysql")).2
    let d := ((c.insert (template "cache" "redis")).2.insert (inst "bank" "redis")).2
    let one := (synchronizeInstance noPlans "noon" "shop/db").runOn c
    let other := (synchronizeInstance noPlans "one" "shop/db").runOn d
    c.Sound ∧ d.Sound ∧ SameTenant .templatedInstance ⟨"shop", "db"⟩ c d ∧ one.result.isOk ∧
      other.endingSince c = one.endingSince c ∧
      c.since other.cluster .serviceInstance ⟨"shop", "db"⟩ =
        c.since one.cluster .serviceInstance ⟨"shop", "db"⟩ ∧
      other.cluster.find? .templatedInstance ⟨"bank", "db"⟩ =
        d.find? .templatedInstance ⟨"bank", "db"⟩ := by
  intro template inst c d one other
  have hc : c.Sound := (Cluster.sound_empty.insert _).insert _
  have hd : d.Sound := (hc.insert _).insert _
  have hasks : ∀ serviceType, LooksUp .templatedInstance c ⟨"shop", "db"⟩ serviceType →
      serviceType = "mysql" := by
    rintro serviceType ⟨asked, hasked, rfl⟩
    have hthere : c.find? .templatedInstance ⟨"shop", "db"⟩ = some (Store.seeded _ _) :=
      (Cluster.puts_insert _ (inst "shop" "mysql")).find?_of_place rfl
    obtain rfl := Option.some.inj (hthere.symm.trans hasked)
    rfl
  have hsame : SameTenant .templatedInstance ⟨"shop", "db"⟩ c c :=
    ⟨fun _ _ _ => rfl, fun _ _ _ _ _ _ _ => Iff.rfl⟩
  have hsame : SameTenant .templatedInstance ⟨"shop", "db"⟩ c d := by
    refine (hsame.insert (template "cache" "redis") ?_ ?_ ?_).insert (inst "bank" "redis") ?_ ?_ ?_
    · decide
    · decide +kernel
    · intro serviceType hlooks _
      rw [hasks serviceType hlooks]
      decide
    · decide
    · decide +kernel
    · exact fun _ _ h => absurd rfl h
  obtain ⟨hending, -, hleft, hframe⟩ :=
    pass_isolated .templatedInstance hc hd hsame noPlans "noon" "one"
  exact ⟨hc, hd, hsame, by decide +kernel, hending, hleft .serviceInstance rfl "db",
    (hframe .templatedInstance ⟨"bank", "db"⟩ (by decide)).2⟩

end QueueKind

end ServiceTemplates
