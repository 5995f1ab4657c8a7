import ServiceTemplates.Proofs.Reconcile.Lookup
import ServiceTemplates.Proofs.Reconcile.Retry
import ServiceTemplates.Proofs.Reconcile.Warnings
import ServiceTemplates.Proofs.Reconcile.WriteSafety

/-!
# What a pass depends on

From two clusters that look alike to it, a pass ends alike and leaves the same under its key,
up to dates and to the identities that are given out on the way. Elsewhere it leaves things
alone. Main statements: `QueueKind.pass_echoes` and `QueueKind.pass_frame`.
-/

namespace ServiceTemplates

variable {k t p : Kind}

/-! ## Up to dates and new identities -/

/-- An object without dates, and without its identity if that was not given out yet in `c`. -/
def Object.since (c : Cluster) (o : Object k) : Object k :=
  if (c.find? k o.undated.place).isSome then o.undated
  else { o.undated with metadata := { o.undated.metadata with uid := none } }

/-- How a pass ended, up to dates and to identities given out since `c`. -/
def Outcome.endingSince (c : Cluster) (out : Outcome (Option (Object k))) :
    Except Error (Option (Object k)) :=
  out.result.map (Option.map (Object.since c))

/-- What a cluster holds, up to dates and to identities given out since `c`. -/
def Cluster.since (c left : Cluster) (k : Kind) (key : ObjectKey) : Option (Object k) :=
  (left.find? k key).map (Object.since c)

/-- Objects that differ in their dates only look the same. -/
theorem Object.since_congr {c : Cluster} {o o' : Object k} (h : o.undated = o'.undated) :
    o.since c = o'.since c := by
  rw [Object.since, Object.since, h]

/-- A new object looks the same whatever identity it was given. -/
theorem Object.since_stamp {c : Cluster} {o : Object k} (h : c.find? k o.place = none)
    (uid uid' version : String) :
    (Store.stamp o uid version).since c = (Store.stamp o uid' version).since c := by
  have hnew : ∀ uid, ¬ (c.find? k (Store.stamp o uid version).undated.place).isSome := by
    intro uid
    rw [Object.place_undated, Store.place_stamp, h]
    exact Bool.false_ne_true
  rw [Object.since, Object.since, if_neg (hnew uid), if_neg (hnew uid')]
  rfl

/-- Two passes that end alike, raise the same warnings and leave the same at some places, up to
dates and to identities given out since `c`. -/
structure Echoes (c : Cluster) (targets : List (Kind × ObjectKey))
    (one other : Outcome (Option (Object k))) : Prop where
  ending : other.endingSince c = one.endingSince c
  warnings : Note.warnings other.notes = Note.warnings one.notes
  left : ∀ k place, (k, place) ∈ targets →
    c.since other.cluster k place = c.since one.cluster k place

/-! ## Flows -/

namespace Flow

/-- What a flow keeps to itself: it warns of nothing while it resolves, and what it observes
does not depend on identities and versions. -/
structure Discreet (F : Flow t p) : Prop where
  quiet : ∀ o, (F.resolve o).Quiet
  observe_stamp : ∀ wanted (s : Object p) uid version time,
    F.observe wanted (Store.stamp s uid version) time = F.observe wanted s time

/-- Both flows keep what they do to themselves. -/
theorem instanceFlow_discreet (plans : PlanResolver) : (instanceFlow plans).Discreet where
  quiet := instanceFlow_resolve_quiet plans
  observe_stamp _ _ _ _ _ := rfl

theorem bindingFlow_discreet : bindingFlow.Discreet where
  quiet := bindingFlow_resolve_quiet
  observe_stamp _ _ _ _ _ := rfl

/-- An effect up to dates and to identities given out since `c`. -/
def Effect.since (c : Cluster) (e : Effect t p) : Effect t p where
  result := e.result.map (Option.map (Object.since c))
  templated := e.templated.map (Object.since c)
  provisioned := e.provisioned.map (Object.since c)

section Effect

variable {F : Flow t p} {c : Cluster} {o : Object t} {s s' : Object p}

/-- Reports of the same observation look the same. -/
theorem reported_undated {time time' : String}
    (h : t.undated (F.observe o.spec s time) = t.undated (F.observe o.spec s' time')) :
    (F.reported time o s).undated = (F.reported time' o s').undated := by
  unfold reported
  rw [reports_congr o.status h]
  split
  · rfl
  · exact undated_successor o (undated_eq_iff.2 ⟨rfl, rfl, congrArg some h⟩)

/-- So do effects that end with such reports. -/
theorem reporting_since (time time' : String)
    (hobserve : t.undated (F.observe o.spec s time) = t.undated (F.observe o.spec s' time'))
    (hs : s.since c = s'.since c) :
    (F.reporting time o s).since c = (F.reporting time' o s').since c := by
  have hreported := Object.since_congr (c := c) (reported_undated hobserve)
  unfold Effect.since reporting
  simp only [Except.map, Option.map, hreported, hs]

/-- The time of a pass and the identities that are given out show in nothing else. -/
theorem effect_since (hF : F.Discreet) (hc : c.Sound) (place : ObjectKey) (hname : place.name ≠ "")
    (time time' uid uid' : String) (resolve : Object t → Except Error t.Spec) :
    (F.effect time uid resolve (c.find? t place) (c.find? p place)).since c =
      (F.effect time' uid' resolve (c.find? t place) (c.find? p place)).since c := by
  cases ho : c.find? t place with
  | none => rfl
  | some o =>
    cases hs : c.find? p place with
    | none =>
      show (F.provisioning time uid o (resolve o)).since c = (F.provisioning time' uid' o _).since c
      cases resolve o with
      | error e => rfl
      | ok spec =>
        cases hbuild : F.build (F.stored o spec) with
        | error e => rw [provisioning_of_unbuilt hbuild, provisioning_of_unbuilt hbuild]
        | ok desired =>
          have hstored : (F.stored o spec).place = place := by
            rw [← hc.place ho]
            unfold stored
            split <;> rfl
          have hdesired : desired.place = place :=
            Object.place_of_provisioned hstored hname (F.build_metadata hbuild)
          rw [provisioning_of_built hbuild, provisioning_of_built hbuild]
          -- The new object differs in its identity, on which nothing that is observed depends.
          refine reporting_since time time' ?_ (Object.since_stamp (hdesired ▸ hs) uid uid' "1")
          rw [hF.observe_stamp, hF.observe_stamp]
          exact F.undated_observe _ _ _ _
    | some s =>
      by_cases hctl : s.metadata.isControlledBy o
      · rw [effect_of_controlled hctl, effect_of_controlled hctl]
        exact reporting_since time time' (F.undated_observe _ _ _ _) rfl
      · rw [effect_of_foreign hctl, effect_of_foreign hctl]

end Effect

/-- Whether two clusters look alike to a pass for a place: the same stands there, and what is to
be brought in line resolves to the same. -/
structure Alike (F : Flow t p) (place : ObjectKey) (c d : Cluster) : Prop where
  templated : d.find? t place = c.find? t place
  provisioned : d.find? p place = c.find? p place
  resolves : ∀ o, c.find? t place = some o →
    ((F.resolve o).run Cluster.serve d).1 = ((F.resolve o).run Cluster.serve c).1

variable {F : Flow t p} {c d : Cluster} {key ns name : String}

/-- **Two clusters that look alike to a pass look alike after it, and it ends alike on both.** -/
theorem pass_echoes (hF : F.Discreet) (hc : c.Sound) (hd : d.Sound)
    (hkey : wellFormedKey? key = some (ns, name)) (h : F.Alike ⟨ns, name⟩ c d)
    (time time' : String) :
    Echoes c [(t, ⟨ns, name⟩), (p, ⟨ns, name⟩)] ((F.pass time key).runOn c)
      ((F.pass time' key).runOn d) := by
  obtain ⟨uid, hone⟩ := run_pass_has (F := F) hc hkey time
  obtain ⟨uid', hother⟩ := run_pass_has (F := F) hd hkey time'
  rw [h.templated, h.provisioned] at hother
  have hsame : F.effect time' uid' (fun o => ((F.resolve o).run Cluster.serve d).1)
        (c.find? t ⟨ns, name⟩) (c.find? p ⟨ns, name⟩) =
      F.effect time' uid' (fun o => ((F.resolve o).run Cluster.serve c).1)
        (c.find? t ⟨ns, name⟩) (c.find? p ⟨ns, name⟩) := by
    cases ho : c.find? t ⟨ns, name⟩ with
    | none => rfl
    | some o =>
      cases c.find? p ⟨ns, name⟩ with
      | none => exact congrArg (F.provisioning time' uid' o) (h.resolves o ho)
      | some s => rfl
  have heffect := effect_since hF hc ⟨ns, name⟩ (wellFormedKey?_ne hkey).2 time' time uid' uid
    fun o => ((F.resolve o).run Cluster.serve c).1
  rw [hsame] at hother
  constructor
  · rw [Outcome.endingSince, Outcome.endingSince, Pass.runOn_result, Pass.runOn_result,
      hone.result, hother.result]
    exact congrArg Effect.result heffect
  · have hwarnings := warnings_pass (F := F) hF.quiet hkey time' d
    rw [h.templated, h.provisioned, ← warnings_pass (F := F) hF.quiet hkey time c] at hwarnings
    exact hwarnings
  · intro k place hmem
    rw [Cluster.since, Cluster.since, Pass.runOn_cluster, Pass.runOn_cluster]
    simp only [List.mem_cons, Prod.mk.injEq, List.not_mem_nil, or_false] at hmem
    rcases hmem with ⟨rfl, rfl⟩ | ⟨rfl, rfl⟩
    · rw [hone.templated, hother.templated]
      exact congrArg Effect.templated heffect
    · rw [hone.provisioned, hother.provisioned]
      exact congrArg Effect.provisioned heffect

/-- A pass writes to nothing but what stands under its key. -/
theorem pass_frame (hc : c.Sound) (hkey : wellFormedKey? key = some (ns, name)) (time : String)
    {place : ObjectKey} (hplace : (k, place) ∉ [(t, ⟨ns, name⟩), (p, ⟨ns, name⟩)]) :
    ((F.pass time key).runOn c).cluster.find? k place = c.find? k place := by
  obtain ⟨uid, hhas⟩ := run_pass_has (F := F) hc hkey time
  rw [Pass.runOn_cluster]
  apply hhas.beyond
  rintro ⟨rfl | rfl, rfl⟩
  · simp at hplace
  · simp at hplace

end Flow

/-! ## Secrets -/

namespace Cluster

variable {c d : Cluster}

/-- A secret that is to be published, and the binding for which. -/
def publication? (c : Cluster) (place : ObjectKey) : Option (Secret × TemplatedBinding) := do
  let secret ← c.find? .secret place
  let binding ← c.managedBinding? secret
  return (secret, binding)

/-- What is to be published follows from the secret and from the binding that it leads to. -/
theorem publication?_congr {place : ObjectKey}
    (hsecret : d.find? .secret place = c.find? .secret place)
    (hbinding : ∀ secret, c.find? .secret place = some secret →
      d.managedBinding? secret = c.managedBinding? secret) :
    d.publication? place = c.publication? place := by
  unfold publication?
  rw [hsecret]
  cases hfound : c.find? .secret place with
  | none => rfl
  | some secret =>
    rw [Option.bind_eq_bind, Option.bind_some, Option.bind_eq_bind, Option.bind_some,
      hbinding secret hfound]

end Cluster

namespace Secret

variable {c d : Cluster} {key ns name published : String} {provisioned : Secret}
  {binding : TemplatedBinding}

/-- What publishing a secret leaves under the published name is also its result. -/
theorem run_follow_eq (hc : c.Sound) (hprovisioned : c.find? .secret ⟨ns, name⟩ = some provisioned)
    (hname : name ≠ "") (hpublished : publishedName? name = some published)
    (binding : TemplatedBinding) :
    ∃ uid c', (follow provisioned binding (c.find? .secret ⟨ns, published⟩)).run Cluster.serve c =
        (.ok (copied uid provisioned binding (c.find? .secret ⟨ns, published⟩)), c') ∧
      c'.find? .secret ⟨ns, published⟩ =
        copied uid provisioned binding (c.find? .secret ⟨ns, published⟩) ∧
      ∀ k place, (k, place) ≠ (.secret, ⟨ns, published⟩) → c'.find? k place = c.find? k place := by
  obtain ⟨uid, copy, c', hcopied, hrun, hplace, hwrite⟩ :=
    run_follow_copied hc hprovisioned hname hpublished binding
  rw [← hcopied] at hrun
  refine ⟨uid, c', hrun, ?_, fun k place hne => ?_⟩
  · rw [hcopied]
    rcases hwrite with ⟨rfl, hfound⟩ | hputs
    · exact hfound
    · exact hputs.find?_of_place hplace
  · rcases hwrite with ⟨rfl, -⟩ | hputs
    · rfl
    · refine hputs.find?_of_ne fun hk hto => hne ?_
      rw [hk, hto, hplace]

/-- The result of a pass for a secret, from what is to be published and what stands under the
published name. -/
def ended (uid : String) : Option (Secret × TemplatedBinding) → Option Secret → Option Secret
  | none, _ => none
  | some (provisioned, binding), found => copied uid provisioned binding found

/-- What a pass for a secret leaves under the published name. -/
def leaves (uid : String) : Option (Secret × TemplatedBinding) → Option Secret → Option Secret
  | none, found => found
  | some (provisioned, binding), found => copied uid provisioned binding found

end Secret

section Synchronize

variable {c d : Cluster} {key ns name published : String}

/-- The result of a pass for a secret and what it leaves, from what is to be published. -/
theorem run_synchronizeSecret_eq (hc : c.Sound) (hkey : wellFormedKey? key = some (ns, name))
    (hpublished : publishedName? name = some published) :
    ∃ uid c', (synchronizeSecret key).run Cluster.serve c =
        (.ok (Secret.ended uid (c.publication? ⟨ns, name⟩) (c.find? .secret ⟨ns, published⟩)), c') ∧
      c'.find? .secret ⟨ns, published⟩ =
        Secret.leaves uid (c.publication? ⟨ns, name⟩) (c.find? .secret ⟨ns, published⟩) ∧
      ∀ k place, (k, place) ≠ (.secret, ⟨ns, published⟩) → c'.find? k place = c.find? k place := by
  rw [synchronizeSecret_of_wellFormed hkey hpublished, Pass.run_cached_bind]
  unfold Cluster.publication?
  cases hprovisioned : c.find? .secret ⟨ns, name⟩ with
  | none =>
    have hget : (c.store .secret).get? (some ns) name = none := hprovisioned
    rw [hget]
    exact ⟨"", c, rfl, rfl, fun _ _ _ => rfl⟩
  | some provisioned =>
    have hget : (c.store .secret).get? (some ns) name = some provisioned := hprovisioned
    rw [hget, Secret.visit, (managedBinding_readsOnly provisioned).run_bind_ok
      (c.run_managedBinding provisioned), Option.bind_eq_bind, Option.bind_some]
    cases c.managedBinding? provisioned with
    | none => exact ⟨"", c, rfl, rfl, fun _ _ _ => rfl⟩
    | some binding =>
      exact Secret.run_follow_eq hc hprovisioned (wellFormedKey?_ne hkey).2 hpublished binding

/-- What is to be published is stored, and leads to its binding. -/
theorem Cluster.publication?_eq_some {place : ObjectKey} {provisioned : Secret}
    {binding : TemplatedBinding} (h : c.publication? place = some (provisioned, binding)) :
    c.find? .secret place = some provisioned ∧ c.managedBinding? provisioned = some binding := by
  obtain ⟨secret, hsecret, h⟩ := Option.bind_eq_some_iff.1 h
  obtain ⟨found, hfound, h⟩ := Option.bind_eq_some_iff.1 h
  obtain ⟨rfl, rfl⟩ := Prod.mk.inj (Option.some.inj h)
  exact ⟨hsecret, hfound⟩

/-- A new copy looks the same whatever identity it was given. -/
theorem copied_since (hc : c.Sound) {provisioned : Secret} {binding : TemplatedBinding}
    (hprovisioned : c.find? .secret ⟨ns, name⟩ = some provisioned) (hname : name ≠ "")
    (hpublished : publishedName? name = some published) (uid uid' : String) :
    (Secret.copied uid provisioned binding (c.find? .secret ⟨ns, published⟩)).map
        (Object.since c) =
      (Secret.copied uid' provisioned binding (c.find? .secret ⟨ns, published⟩)).map
        (Object.since c) := by
  cases hfound : c.find? .secret ⟨ns, published⟩ with
  | some existing => rfl
  | none =>
    unfold Secret.copied
    cases hcopy : Secret.publish? provisioned binding with
    | none => rfl
    | some copy =>
      have hplace := Secret.place_of_publish? hcopy (hc.place hprovisioned) hname hpublished
      exact congrArg some (Object.since_stamp (hplace ▸ hfound) uid uid' "1")

/-- Whether two clusters look alike to a pass for a secret: the same is to be published, and the
same stands under the published name. -/
structure Secret.Alike (place target : ObjectKey) (c d : Cluster) : Prop where
  publication : d.publication? place = c.publication? place
  target : d.find? .secret target = c.find? .secret target

/-- Two clusters that look alike to a pass for a secret look alike after it, and it ends alike on
both. -/
theorem synchronizeSecret_echoes (hc : c.Sound) (hd : d.Sound)
    (hkey : wellFormedKey? key = some (ns, name))
    (hpublished : publishedName? name = some published)
    (h : Secret.Alike ⟨ns, name⟩ ⟨ns, published⟩ c d) :
    Echoes c [(.secret, ⟨ns, published⟩)] ((synchronizeSecret key).runOn c)
      ((synchronizeSecret key).runOn d) := by
  obtain ⟨uid, c', hone, hleft, -⟩ := run_synchronizeSecret_eq hc hkey hpublished
  obtain ⟨uid', d', hother, hleft', -⟩ := run_synchronizeSecret_eq hd hkey hpublished
  rw [h.publication, h.target] at hother hleft'
  -- What is published differs at most in an identity that was given out since.
  have hcopied : ∀ {subject}, c.publication? ⟨ns, name⟩ = some subject →
      (Secret.copied uid' subject.1 subject.2 (c.find? .secret ⟨ns, published⟩)).map
          (Object.since c) =
        (Secret.copied uid subject.1 subject.2 (c.find? .secret ⟨ns, published⟩)).map
          (Object.since c) := by
    intro subject hsubject
    obtain ⟨hprovisioned, -⟩ := Cluster.publication?_eq_some hsubject
    exact copied_since hc hprovisioned (wellFormedKey?_ne hkey).2 hpublished uid' uid
  constructor
  · rw [Outcome.endingSince, Outcome.endingSince, Pass.runOn_result, Pass.runOn_result, hone,
      hother]
    refine congrArg Except.ok ?_
    cases hsubject : c.publication? ⟨ns, name⟩ with
    | none => rfl
    | some subject => exact hcopied hsubject
  · have hquiet := synchronizeSecret_quiet key
    exact (hquiet.warnings d).trans (hquiet.warnings c).symm
  · intro k place hmem
    obtain ⟨rfl, rfl⟩ := Prod.mk.inj (List.mem_singleton.1 hmem)
    rw [Cluster.since, Cluster.since, Pass.runOn_cluster, Pass.runOn_cluster, hone, hother, hleft,
      hleft']
    cases hsubject : c.publication? ⟨ns, name⟩ with
    | none => rfl
    | some subject => exact hcopied hsubject

/-- It writes to nothing but the published name. -/
theorem synchronizeSecret_frame (hc : c.Sound) (hkey : wellFormedKey? key = some (ns, name))
    (hpublished : publishedName? name = some published) {place : ObjectKey}
    (hplace : (k, place) ∉ [(Kind.secret, ObjectKey.mk ns published)]) :
    ((synchronizeSecret key).runOn c).cluster.find? k place = c.find? k place := by
  obtain ⟨uid, c', hrun, -, hframe⟩ := run_synchronizeSecret_eq hc hkey hpublished
  rw [Pass.runOn_cluster, hrun]
  exact hframe k place fun h => hplace (List.mem_singleton.2 h)

end Synchronize

/-! ## The three queues -/

namespace QueueKind

variable {c d : Cluster} {q : QueueKind} {plans : PlanResolver} {key ns name : String}

/-- Whether two clusters look alike to a pass for a key. -/
def Alike (q : QueueKind) (plans : PlanResolver) (key : String) (c d : Cluster) : Prop :=
  ∀ ns name, wellFormedKey? key = some (ns, name) →
    match q with
    | .templatedInstance => (instanceFlow plans).Alike ⟨ns, name⟩ c d
    | .templatedBinding => bindingFlow.Alike ⟨ns, name⟩ c d
    | .secret => ∀ published, publishedName? name = some published →
      Secret.Alike ⟨ns, name⟩ ⟨ns, published⟩ c d

theorem kind_not_template (q : QueueKind) : ¬ q.kind.IsTemplate := by
  cases q <;> exact Bool.false_ne_true

/-- No pass writes to a template. -/
theorem owned_not_template (q : QueueKind) : ¬ q.owned.IsTemplate := by
  cases q <;> exact Bool.false_ne_true

/-- What a pass may write to: the secret that is published, or what stands under the key. -/
theorem mem_targets {k : Kind} {place : ObjectKey} (h : (k, place) ∈ q.targets key) :
    ∃ name, wellFormedKey? key = some (place.ns, name) ∧ (k = q.kind ∨ k = q.owned) ∧
      if q = .secret then publishedName? name = some place.name else place.name = name := by
  cases hkey : wellFormedKey? key with
  | none =>
    rw [targets_of_malformed hkey] at h
    cases h
  | some here =>
    obtain ⟨ns, name⟩ := here
    by_cases hq : q = .secret
    · subst hq
      rw [targets_secret hkey, Option.mem_toList, Option.map_eq_some_iff] at h
      obtain ⟨published, hpublished, heq⟩ := h
      obtain ⟨rfl, rfl⟩ := Prod.mk.inj heq
      exact ⟨name, rfl, Or.inl rfl, hpublished⟩
    · rw [targets_of_wellFormed hkey hq] at h
      simp only [List.mem_cons, Prod.mk.injEq, List.not_mem_nil, or_false] at h
      rcases h with ⟨rfl, rfl⟩ | ⟨rfl, rfl⟩
      · exact ⟨name, rfl, Or.inl rfl, by rw [if_neg hq]⟩
      · exact ⟨name, rfl, Or.inr rfl, by rw [if_neg hq]⟩

/-- Templates are never written to. -/
theorem not_template_of_mem_targets {k : Kind} {place : ObjectKey}
    (h : (k, place) ∈ q.targets key) : ¬ k.IsTemplate := by
  obtain ⟨name, -, hk, -⟩ := mem_targets h
  rcases hk with rfl | rfl
  · exact q.kind_not_template
  · exact q.owned_not_template

/-- **Where it sees the same, a pass does the same.** -/
theorem pass_echoes (hc : c.Sound) (hd : d.Sound) (h : q.Alike plans key c d)
    (time time' : String) :
    Echoes c (q.targets key) ((q.pass plans time key).runOn c)
      ((q.pass plans time' key).runOn d) := by
  have hidle : Echoes c [] ((pure none : Pass (Option (Object q.kind))).runOn c)
      ((pure none : Pass (Option (Object q.kind))).runOn d) := ⟨rfl, rfl, by simp⟩
  cases hkey : wellFormedKey? key with
  | none =>
    rw [pass_of_malformed hkey, pass_of_malformed hkey, targets_of_malformed hkey]
    exact hidle
  | some place =>
    obtain ⟨ns, name⟩ := place
    have halike := h ns name hkey
    cases q with
    | templatedInstance =>
      rw [targets_of_wellFormed hkey (by decide), pass_templatedInstance, pass_templatedInstance]
      exact Flow.pass_echoes (Flow.instanceFlow_discreet plans) hc hd hkey halike time time'
    | templatedBinding =>
      rw [targets_of_wellFormed hkey (by decide), pass_templatedBinding, pass_templatedBinding]
      exact Flow.pass_echoes Flow.bindingFlow_discreet hc hd hkey halike time time'
    | secret =>
      show Echoes c _ ((synchronizeSecret key).runOn c) ((synchronizeSecret key).runOn d)
      rw [targets_secret hkey]
      cases hpublished : publishedName? name with
      | none =>
        rw [synchronizeSecret_of_unpublished hkey hpublished]
        exact hidle
      | some published =>
        exact synchronizeSecret_echoes hc hd hkey hpublished (halike published hpublished)

/-- **A pass leaves alone what is not among its targets.** -/
theorem pass_frame (hc : c.Sound) (q : QueueKind) (plans : PlanResolver) (time : String) {k : Kind}
    {place : ObjectKey} (h : (k, place) ∉ q.targets key) :
    ((q.pass plans time key).runOn c).cluster.find? k place = c.find? k place := by
  cases hkey : wellFormedKey? key with
  | none =>
    rw [pass_of_malformed hkey]
    rfl
  | some place =>
    obtain ⟨ns, name⟩ := place
    cases q with
    | templatedInstance =>
      rw [targets_of_wellFormed hkey (by decide)] at h
      rw [pass_templatedInstance]
      exact Flow.pass_frame hc hkey time h
    | templatedBinding =>
      rw [targets_of_wellFormed hkey (by decide)] at h
      rw [pass_templatedBinding]
      exact Flow.pass_frame hc hkey time h
    | secret =>
      rw [targets_secret hkey] at h
      show ((synchronizeSecret key).runOn c).cluster.find? k _ = _
      cases hpublished : publishedName? name with
      | none =>
        rw [synchronizeSecret_of_unpublished hkey hpublished]
        rfl
      | some published =>
        rw [hpublished] at h
        exact synchronizeSecret_frame hc hkey hpublished h

end QueueKind

end ServiceTemplates
