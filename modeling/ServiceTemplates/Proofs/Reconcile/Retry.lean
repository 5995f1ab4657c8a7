import ServiceTemplates.Proofs.Reconcile.Publish
import ServiceTemplates.Proofs.Reconcile.Resume

/-!
# Trying again

Each write of a pass may fail, with or without effect. Main statement:
`QueueKind.retry_converges`, after any number of disturbed attempts an undisturbed pass
ends and leaves things as if it had been the first one.
-/

namespace ServiceTemplates

variable {k : Kind}

/-! ## Passes are over as soon as a write is refused -/

/-- A refused report ends the pass, with or without an error. -/
theorem recordStatus_endsOnRefusal (obj : Object k) :
    (recordStatus obj).EndsOnRefusal fun _ => True := by
  refine .ask ?_ fun reply => ?_
  · rintro e reply ⟨⟩
    show ∃ result, (if e.isNotFound then pure obj else Pass.fail e) = Pass.done result ∧ True
    split
    · exact ⟨_, rfl, trivial⟩
    · exact ⟨_, rfl, trivial⟩
  · cases reply with
    | ok written => exact .done _
    | error e =>
      show (if e.isNotFound then pure obj else Pass.fail e : Pass (Object k)).EndsOnRefusal _
      split
      · exact .done _
      · exact .done _

theorem rejectUnmanaged_readsOnly {t p : Kind} {α : Type} {K : Kind → Prop} (o : Object t)
    (s : Object p) : (rejectUnmanaged o s : Pass α).ReadsOnly K :=
  .bind (.count _) fun _ => .bind (.warn _ _ _) fun _ => .fail _

namespace Flow

variable {t p : Kind} (F : Flow t p)

/-- Reporting is over with its only write. -/
theorem report_endsOnRefusal (time : String) (ready : Object t × Object p) :
    (F.report time ready).EndsOnRefusal fun _ => True := by
  unfold Flow.report
  dsimp only
  split
  · exact .done _
  · exact recordStatus_endsOnRefusal _

/-- A refusal to store what was resolved is passed on. -/
theorem storeApplied_endsOnRefusal (o : Object t) :
    (F.storeApplied o).EndsOnRefusal fun result => ∃ e, result = .error e := by
  refine .bind (.of_readsOnly (F.resolve_readsOnly o)) (fun spec => ?_) fun e => ⟨e, rfl⟩
  split
  · exact .done _
  · exact .update _

/-- So is a refused creation. -/
theorem createFor_endsOnRefusal (o : Object t) :
    (F.createFor o).EndsOnRefusal fun result => ∃ e, result = .error e := by
  refine .bind (.of_readsOnly (K := F.Sources) (.ofExcept _)) (fun desired => ?_) fun e => ⟨e, rfl⟩
  refine .bind (.create desired) (fun s => ?_) fun e => ⟨e, rfl⟩
  exact .of_readsOnly (K := F.Sources) (.bind (.count _) fun _ => .pure _)

theorem proceed_endsOnRefusal (time : String) (o : Object t) (provisioned : Option (Object p)) :
    (F.proceed time o provisioned).EndsOnRefusal fun _ => True := by
  have hreport : ∀ ready, (some <$> F.report time ready).EndsOnRefusal fun _ => True :=
    fun ready => (F.report_endsOnRefusal time ready).map some
  cases provisioned with
  | none =>
    rw [proceed_none]
    exact .bind (F.storeApplied_endsOnRefusal o)
      (fun o => .bind (F.createFor_endsOnRefusal o) hreport fun _ => trivial) fun _ => trivial
  | some s =>
    by_cases hctl : s.metadata.isControlledBy o
    · by_cases hsync : F.inSync o.spec s.spec
      · rw [proceed_of_inSync time hctl hsync]
        exact hreport _
      · rw [proceed_of_drift time hctl hsync]
        refine .bind (.update _) (fun updated => ?_) fun _ => trivial
        exact .bind (.of_readsOnly (K := F.Sources) (.count _)) (fun _ => hreport _) fun _ => trivial
    · rw [proceed_of_foreign time hctl]
      exact .of_readsOnly (K := F.Sources) (rejectUnmanaged_readsOnly o s)

/-- **A pass of a flow ends with the first write that is refused.** -/
theorem pass_endsOnRefusal (time key : String) :
    (F.pass time key).EndsOnRefusal fun _ => True := by
  cases hkey : wellFormedKey? key with
  | none =>
    rw [pass_of_malformed hkey]
    exact .done _
  | some place =>
    obtain ⟨ns, name⟩ := place
    rw [pass_of_wellFormed hkey]
    have hcached : ∀ k, (Pass.cached k (some ns) name).ReadsOnly fun _ => True := fun k =>
      .cached trivial _ _
    refine .bind (.of_readsOnly (hcached t)) (fun found => ?_) fun _ => trivial
    cases found with
    | none => exact .done _
    | some o =>
      exact .bind (.of_readsOnly (hcached p)) (F.proceed_endsOnRefusal time o) fun _ => trivial

/-- **However often a pass was disturbed, the next one ends as the first would have.** -/
theorem pass_converges {F : Flow t p} (hagain : F.ResolvesAgain) {c : Cluster} (hc : c.Orderly)
    (key : String) (attempts : List Pass.Attempt) (time time' : String) :
    undatedEnd ((F.pass time' key).run Cluster.serve
      (attempts.foldl (Pass.Attempt.after fun time => F.pass time key) c)) =
        undatedEnd ((F.pass time key).run Cluster.serve c) :=
  Pass.resumes_after_attempts (fun time => F.pass_endsOnRefusal time key)
    (fun _ hc time => resumable_pass hagain hc key time) hc attempts time time'

end Flow

/-! ## Published secrets -/

section Secrets

variable {key ns name published : String} {c : Cluster} {provisioned : Secret}
  {binding : TemplatedBinding}

/-- The pass for a secret that leads to a binding. -/
theorem run_synchronizeSecret (hkey : wellFormedKey? key = some (ns, name))
    (hpublished : publishedName? name = some published)
    (hprovisioned : c.find? .secret ⟨ns, name⟩ = some provisioned)
    (hbinding : ((managedBinding provisioned).run Cluster.serve c).1 = .ok (some binding)) :
    (synchronizeSecret key).run Cluster.serve c =
      (Secret.follow provisioned binding (c.find? .secret ⟨ns, published⟩)).run Cluster.serve c := by
  have hget : (c.store .secret).get? (some ns) name = some provisioned := hprovisioned
  rw [synchronizeSecret_of_wellFormed hkey hpublished, Pass.run_cached_bind, hget]
  exact (managedBinding_readsOnly provisioned).run_bind_ok hbinding _

/-- What is created or updated under the published name is found up to date afterwards. -/
theorem run_synchronizeSecret_after (hkey : wellFormedKey? key = some (ns, name))
    (hpublished : publishedName? name = some published)
    (hprovisioned : c.find? .secret ⟨ns, name⟩ = some provisioned)
    (hbinding : ((managedBinding provisioned).run Cluster.serve c).1 = .ok (some binding))
    {c' : Cluster} {stored : Secret} (hputs : c.Puts stored c')
    (hplace : stored.place = ⟨ns, published⟩)
    (hfollow : Secret.follow provisioned binding (some stored) = pure (some stored)) :
    (synchronizeSecret key).run Cluster.serve c' = (.ok (some stored), c') := by
  have hne : name ≠ published := (publishedName?_ne hpublished).symm
  have hprovisioned' : c'.find? .secret ⟨ns, name⟩ = some provisioned := by
    rw [hputs.find?_of_ne fun _ => by rw [hplace]; simpa using hne, hprovisioned]
  -- The write is to the secrets, whereas the binding is found in two other stores.
  have hstores : ∀ k, (k = Kind.serviceBinding ∨ k = .templatedBinding) → c'.store k = c.store k := by
    rintro k (rfl | rfl)
    · exact hputs.store _ nofun
    · exact hputs.store _ nofun
  have hbinding' := ((managedBinding_readsOnly provisioned).run_congr hstores).trans hbinding
  rw [run_synchronizeSecret hkey hpublished hprovisioned' hbinding', hputs.find?_of_place hplace,
    hfollow]
  rfl

/-- Publishing can be interrupted at any point and taken up again. -/
theorem resumable_follow (hkey : wellFormedKey? key = some (ns, name)) (hc : c.Orderly)
    (hpublished : publishedName? name = some published)
    (hprovisioned : c.find? .secret ⟨ns, name⟩ = some provisioned)
    (hbinding : ((managedBinding provisioned).run Cluster.serve c).1 = .ok (some binding)) :
    Pass.Resumable (fun _ => synchronizeSecret key) Cluster.Orderly undatedEnd
      (Secret.follow provisioned binding (c.find? .secret ⟨ns, published⟩)) c := by
  have hhere : ∀ _ : String, undatedEnd ((synchronizeSecret key).run Cluster.serve c) =
      undatedEnd ((Secret.follow provisioned binding
        (c.find? .secret ⟨ns, published⟩)).run Cluster.serve c) := fun _ =>
    congrArg undatedEnd (run_synchronizeSecret hkey hpublished hprovisioned hbinding)
  cases hs : c.find? .secret ⟨ns, published⟩ with
  | none =>
    rw [hs] at hhere
    unfold Secret.follow at hhere ⊢
    cases hcopy : Secret.publish? provisioned binding with
    | none =>
      rw [hcopy] at hhere
      exact Pass.resumable_done hc hhere
    | some copy =>
      rw [hcopy] at hhere
      have hplace := Secret.place_of_publish? hcopy (hc.sound.place hprovisioned)
        (wellFormedKey?_ne hkey).2 hpublished
      obtain ⟨c', hwrite, hputs⟩ := c.create_of_none (hplace ▸ hs)
      refine Pass.resumable_create_bind hwrite hc hhere ?_
      refine Pass.resumable_bind_ok (K := fun _ => True) (.count _) rfl ?_
      refine Pass.resumable_done (hc.puts hputs rfl nofun) fun _ => ?_
      rw [run_synchronizeSecret_after hkey hpublished hprovisioned hbinding hputs hplace
        (Secret.publishes_created hcopy _ _).follow_eq]
  | some existing =>
    rw [hs] at hhere
    unfold Secret.follow at hhere ⊢
    dsimp only at hhere ⊢
    by_cases hctl : existing.metadata.isControlledBy provisioned
    · rw [if_pos hctl] at hhere ⊢
      cases hrefreshed : Secret.refresh? existing provisioned binding with
      | none =>
        rw [hrefreshed] at hhere
        exact Pass.resumable_done hc hhere
      | some refreshed =>
        rw [hrefreshed] at hhere
        obtain ⟨contents, hcontents, -⟩ := Secret.refresh?_eq_some hrefreshed
        have hmetadata : refreshed.metadata = existing.metadata := by rw [hcontents]
        have hplace : refreshed.place = ⟨ns, published⟩ :=
          (congrArg ObjectKey.ofMetadata hmetadata).trans (hc.sound.place hs)
        obtain ⟨c', hwrite, hputs⟩ := hc.sound.replace_read hs refreshed hmetadata
        refine Pass.resumable_update_bind hwrite hc hhere ?_
        refine Pass.resumable_bind_ok (K := fun _ => True) (.count _) rfl ?_
        refine Pass.resumable_done (hc.puts hputs rfl nofun) fun _ => ?_
        rw [run_synchronizeSecret_after hkey hpublished hprovisioned hbinding hputs hplace
          (Secret.publishes_updated hctl hrefreshed).follow_eq]
    -- A copy that something else controls is not touched.
    · rw [if_neg hctl] at hhere ⊢
      exact Pass.resumable_done hc hhere

/-- **A secret can be published again wherever it was interrupted.** -/
theorem resumable_synchronizeSecret (hc : c.Orderly) (key : String) :
    Pass.Resumable (fun _ => synchronizeSecret key) Cluster.Orderly undatedEnd
      (synchronizeSecret key) c := by
  rcases synchronizeSecret_cases key with h | ⟨ns, name, published, hkey, hpublished⟩
  · rw [h]
    exact Pass.resumable_done hc fun _ => rfl
  · have hpass := synchronizeSecret_of_wellFormed hkey hpublished
    rw [hpass]
    refine Pass.resumable_bind_ok (K := fun _ => True) (.cached trivial _ _) rfl ?_
    show Pass.Resumable _ _ _ (Secret.visit ns published (c.find? .secret ⟨ns, name⟩)) c
    have hhere : (synchronizeSecret key).run Cluster.serve c =
        (Secret.visit ns published (c.find? .secret ⟨ns, name⟩)).run Cluster.serve c := by
      rw [hpass]
      rfl
    rw [← hpass]
    cases hprovisioned : c.find? .secret ⟨ns, name⟩ with
    | none =>
      rw [hprovisioned] at hhere
      exact Pass.resumable_done hc fun _ => congrArg undatedEnd hhere
    | some provisioned =>
      rw [hprovisioned] at hhere
      have hreads := managedBinding_readsOnly provisioned
      cases hbinding : ((managedBinding provisioned).run Cluster.serve c).1 with
      | error e =>
        refine Pass.resumable_bind_error hreads hbinding hc fun _ => ?_
        rw [hhere, Secret.visit, hreads.run_bind_error hbinding]
      | ok found =>
        refine Pass.resumable_bind_ok hreads hbinding ?_
        cases found with
        | none =>
          refine Pass.resumable_done hc fun _ => ?_
          rw [hhere, Secret.visit, hreads.run_bind_ok hbinding]
          rfl
        | some binding =>
          refine Pass.resumable_bind_ok (K := fun _ => True) (.cached trivial _ _) rfl ?_
          exact resumable_follow hkey hc hpublished hprovisioned hbinding

/-- A pass for a secret ends with the first write that is refused, too. -/
theorem synchronizeSecret_endsOnRefusal (key : String) :
    (synchronizeSecret key).EndsOnRefusal fun _ => True := by
  have hcached : ∀ ns name, (Pass.cached .secret ns name).ReadsOnly fun _ => True := fun ns name =>
    .cached trivial _ _
  have hcounted : ∀ (counter : Counter) (s : Secret),
      (Pass.count counter >>= fun _ => pure (some s)).ReadsOnly fun _ => True := fun counter s =>
    .bind (.count _) fun _ => .pure _
  rcases synchronizeSecret_cases key with h | ⟨ns, name, published, hkey, hpublished⟩
  · rw [h]
    exact .done _
  · rw [synchronizeSecret_of_wellFormed hkey hpublished]
    refine .bind (.of_readsOnly (hcached _ _)) (fun found => ?_) fun _ => trivial
    cases found with
    | none => exact .done _
    | some provisioned =>
      refine .bind (.of_readsOnly (managedBinding_readsOnly provisioned)) (fun found => ?_)
        fun _ => trivial
      cases found with
      | none => exact .done _
      | some binding =>
        refine .bind (.of_readsOnly (hcached _ _)) (fun found => ?_) fun _ => trivial
        unfold Secret.follow
        cases found with
        | none =>
          dsimp only
          split
          · exact .done _
          · exact .bind (.create _) (fun _ => .of_readsOnly (hcounted _ _)) fun _ => trivial
        | some existing =>
          dsimp only
          split
          · split
            · exact .done _
            · exact .bind (.update _) (fun _ => .of_readsOnly (hcounted _ _)) fun _ => trivial
          · exact .done _

end Secrets

/-! ## The three queues -/

/-- **Retry converges.** In a sound cluster whose templates have plain parameters, let any
number of passes for a key be disturbed by failing writes. A pass without failures then has
the result, and leaves in every store the objects, that it would have had and left in the
beginning, except for the times at which statuses were recorded. -/
theorem QueueKind.retry_converges (q : QueueKind) {c : Cluster} (hsound : c.Sound)
    (hplain : c.PlainTemplates) (key : String) (attempts : List Pass.Attempt)
    (time time' : String) :
    let disturbed := attempts.foldl (Pass.Attempt.after fun time => q.pass noPlans time key) c
    let retried := (q.pass noPlans time' key).runOn disturbed
    let undisturbed := (q.pass noPlans time key).runOn c
    retried.result.map (Option.map Object.undated) =
        undisturbed.result.map (Option.map Object.undated) ∧
      ∀ k place, (retried.cluster.find? k place).map Object.undated =
        (undisturbed.cluster.find? k place).map Object.undated := by
  intro disturbed retried undisturbed
  have hc : c.Orderly := ⟨hsound, hplain⟩
  have hends : undatedEnd ((q.pass noPlans time' key).run Cluster.serve disturbed) =
      undatedEnd ((q.pass noPlans time key).run Cluster.serve c) := by
    cases q with
    | templatedInstance =>
      simp only [disturbed, pass_templatedInstance]
      exact Flow.pass_converges instanceFlow_resolvesAgain hc key attempts time time'
    | templatedBinding =>
      simp only [disturbed, pass_templatedBinding]
      exact Flow.pass_converges bindingFlow_resolvesAgain hc key attempts time time'
    | secret =>
      exact Pass.resumes_after_attempts (fun _ => synchronizeSecret_endsOnRefusal key)
        (fun c hc _ => resumable_synchronizeSecret hc key) hc attempts time time'
  rw [Pass.runOn_result, Pass.runOn_result, Pass.runOn_cluster, Pass.runOn_cluster]
  refine ⟨congrArg Prod.fst hends, fun k place => ?_⟩
  exact congrFun (congrFun (congrArg Prod.snd hends) k) place

/-- The undisturbed pass makes up for a lost update and a refused creation. -/
theorem QueueKind.retry_converges_lost_update :
    let template : Object .clusterInstanceTemplate :=
      { metadata := { name := some "small" }
        spec := {
          plan := .ofClusterExternal "mysql" "small"
          parameters := some (.ofJson (.ofFields [("size", .ofInt 5)])) } }
    let inst : TemplatedInstance :=
      { metadata := { name := some "db", ns := some "default" }
        spec := { parameters := some (.ofJson (.ofFields [("backup", .bool true)])) } }
    let c := ((Cluster.empty.insert template).2.insert inst).2
    let attempts : List Pass.Attempt :=
      [⟨"noon", [.lost .exchange]⟩, ⟨"one", [.refused .exchange]⟩]
    let disturbed := attempts.foldl
      (Pass.Attempt.after fun time => QueueKind.templatedInstance.pass noPlans time "default/db") c
    let retried := (QueueKind.templatedInstance.pass noPlans "two" "default/db").runOn disturbed
    let undisturbed := (QueueKind.templatedInstance.pass noPlans "noon" "default/db").runOn c
    c.Sound ∧ c.PlainTemplates ∧
      retried.result.map (Option.map Object.undated) =
        undisturbed.result.map (Option.map Object.undated) ∧
      ∀ k place, (retried.cluster.find? k place).map Object.undated =
        (undisturbed.cluster.find? k place).map Object.undated := by
  intro template inst c attempts disturbed retried undisturbed
  have hsound : c.Sound := (Cluster.sound_empty.insert template).insert inst
  have hplain : c.PlainTemplates :=
    (Cluster.plainTemplates_empty.insert template (plainParameters_some rfl)).insert
      inst plainParameters_none
  exact ⟨hsound, hplain, QueueKind.templatedInstance.retry_converges hsound hplain _ attempts _ _⟩

end ServiceTemplates
