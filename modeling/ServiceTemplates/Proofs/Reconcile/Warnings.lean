import ServiceTemplates.Proofs.Reconcile.Effect
import ServiceTemplates.Proofs.Reconcile.Publish

/-!
# What passes warn of

A pass warns of one thing only: that it found something provisioned under another
controller. Which warnings it raises can therefore be read off what stands under its key.
Main statements: `Flow.warnings_pass` and `synchronizeSecret_quiet`.
-/

namespace ServiceTemplates

/-! ## Passes that warn of nothing -/

namespace Pass

variable {α β : Type}

/-- The warnings that a pass raises when it has a cluster to itself. -/
def warnings (p : Pass α) (c : Cluster) : List Warning := Note.warnings (p.runOn c).notes

/-- The notes of a run are those of its first request and of what comes after it. -/
theorem notes_ask (r : Request) (next : r.Reply → Pass α) (c : Cluster) :
    ((ask r next).runOn c).notes =
      r.notes ++ ((next (c.serve r).1).runOn (c.serve r).2).notes := by
  -- What was let known before is what the notes begin with.
  have hbegin : ∀ (p : Pass α) (c : Cluster) (notes : List Note),
      (p.run Cluster.answer (c, notes)).2.2 = notes ++ (p.run Cluster.answer (c, [])).2.2 := by
    intro p
    induction p with
    | done result => exact fun c notes => (List.append_nil notes).symm
    | ask r next ih =>
      intro c notes
      rw [run_ask, run_ask, Cluster.answer_eq, Cluster.answer_eq, ih _ _ (notes ++ r.notes),
        ih _ _ ([] ++ r.notes), List.nil_append, List.append_assoc]
  show ((ask r next).run Cluster.answer (c, [])).2.2 = _
  rw [run_ask, Cluster.answer_eq]
  exact hbegin _ _ _

/-- A look-up warns of nothing. -/
theorem warnings_cached_bind (k : Kind) (ns : Option String) (name : String)
    (f : Option (Object k) → Pass β) (c : Cluster) :
    (Pass.cached k ns name >>= f).warnings c = (f ((c.store k).get? ns name)).warnings c := by
  show Note.warnings ((ask (.cached k ns name) f).runOn c).notes = _
  rw [notes_ask]
  rfl

/-- A pass that warns of nothing, whatever it is answered. -/
inductive Quiet : Pass α → Prop
  | done (result : Except Error α) : Quiet (done result)
  | ask {r : Request} {next : r.Reply → Pass α} (here : Note.warnings r.notes = [])
      (later : ∀ reply, Quiet (next reply)) : Quiet (ask r next)

namespace Quiet

/-- **A quiet pass warns of nothing.** -/
theorem warnings {p : Pass α} (h : p.Quiet) (c : Cluster) : p.warnings c = [] := by
  induction h generalizing c with
  | done result => rfl
  | ask here _ ih =>
    rw [Pass.warnings, notes_ask, Note.warnings, List.filterMap_append]
    exact List.append_eq_nil_iff.2 ⟨here, ih _ _⟩

/-- Quiet passes one after the other are quiet. -/
theorem bind {p : Pass α} (hp : p.Quiet) {f : α → Pass β} (hf : ∀ a, (f a).Quiet) :
    (p >>= f).Quiet := by
  induction hp with
  | done result =>
    cases result with
    | ok a => exact hf a
    | error e => exact .done _
  | ask here _ ih => exact .ask here ih

theorem pure (a : α) : (pure a : Pass α).Quiet := .done _

theorem fail (e : Error) : (Pass.fail e : Pass α).Quiet := .done _

theorem ofExcept (result : Except Error α) : (Pass.ofExcept result).Quiet := .done _

theorem count (counter : Counter) : (Pass.count counter).Quiet := .ask rfl fun _ => .done _

theorem cached (k : Kind) (ns : Option String) (name : String) : (Pass.cached k ns name).Quiet :=
  .ask rfl fun _ => .done _

theorem cachedList (k : Kind) (ns : Option String) (filter : LabelFilter) :
    (Pass.cachedList k ns filter).Quiet :=
  .ask rfl fun _ => .done _

theorem create {k : Kind} (obj : Object k) : (Pass.create obj).Quiet := .ask rfl fun _ => .done _

theorem update {k : Kind} (obj : Object k) : (Pass.update obj).Quiet := .ask rfl fun _ => .done _

/-- Recording a status is quiet also where the object is gone. -/
theorem recordStatus {k : Kind} (obj : Object k) : (recordStatus obj).Quiet := by
  refine .bind (.ask rfl fun _ => .done _) fun reply => ?_
  split
  · exact .pure _
  · split
    · exact .pure _
    · exact .fail _

end Quiet

end Pass

/-! ## Resolving templates -/

theorem foldTiers_quiet {Defaults : Type} [Mergeable Defaults] (tiers : List (Tier × Defaults)) :
    (foldTiers tiers).Quiet := by
  unfold foldTiers
  generalize (Mergeable.blank : Defaults) = merged
  induction tiers generalizing merged with
  | nil => exact .pure merged
  | cons tier tiers ih =>
    rw [List.foldlM_cons]
    exact .bind (.bind (.count _) fun _ => .ofExcept _) ih

/-- That no template is found, or that too many are, is an error and no warning. -/
theorem resolveInstance_quiet (plans : PlanResolver) (inst : TemplatedInstance) :
    (resolveInstance plans inst).Quiet := by
  rw [resolveInstance_eq]
  refine .bind (.cachedList _ _ _) fun namespaced => .bind (.cachedList _ _ _) fun cluster => ?_
  refine .bind (.cachedList _ _ _) fun brokers => .bind (.ofExcept _) fun broker => ?_
  dsimp only
  split
  · split
    · exact .fail _
    · exact .pure _
  · refine .bind (foldTiers_quiet _) fun effective => ?_
    split
    · refine .bind (.ofExcept _) fun plan => ?_
      split
      · exact .pure _
      · exact .pure _
    · exact .pure _

theorem resolveBinding_quiet (binding : TemplatedBinding) : (resolveBinding binding).Quiet := by
  unfold resolveBinding
  refine .bind (.cached _ _ _) fun found => ?_
  cases found with
  | none => exact .fail _
  | some inst =>
    refine .bind (.cachedList _ _ _) fun namespaced => ?_
    refine .bind (.cachedList _ _ _) fun cluster => .bind (.cachedList _ _ _) fun brokers => ?_
    exact foldTiers_quiet _

/-! ## The passes of a flow -/

namespace Flow

variable {t p : Kind}

/-- What a pass warns of when it finds `o` to be brought in line and `s` provisioned. -/
def warnings : Option (Object t) → Option (Object p) → List Warning
  | some o, some s =>
    if s.metadata.isControlledBy o then []
    else [⟨o.reference, unmanagedReason, (unmanaged s).message?.getD ""⟩]
  | _, _ => []

variable (F : Flow t p)

/-- Reporting is quiet, whether there is something to report or not. -/
theorem report_quiet (time : String) (ready : Object t × Object p) :
    (some <$> F.report time ready).Quiet := by
  refine .bind ?_ fun _ => .pure _
  unfold Flow.report
  dsimp only
  split
  · exact .pure _
  · exact .recordStatus _

variable {F}

/-- Only what something else controls is warned about. -/
theorem proceed_quiet (hresolve : ∀ o, (F.resolve o).Quiet) (time : String) {o : Object t}
    {found : Option (Object p)} (hctl : ∀ s ∈ found, s.metadata.isControlledBy o) :
    (F.proceed time o found).Quiet := by
  refine .bind ?_ (F.report_quiet time)
  cases found with
  | none =>
    refine .bind (.bind (hresolve o) fun spec => ?_) fun o' => ?_
    · split
      · exact .pure _
      · exact .update _
    · exact .bind (.ofExcept _) fun _ => .bind (.create _) fun _ => .bind (.count _) fun _ => .pure _
  | some s =>
    have hprepare : F.prepare o (some s) = F.pushChanges o s := if_pos (hctl s rfl)
    rw [hprepare, Flow.pushChanges]
    split
    · exact .pure _
    · exact .bind (.update _) fun _ => .bind (.count _) fun _ => .pure _

/-- **A pass warns of what it finds under another controller, and of nothing else.** -/
theorem warnings_pass (hresolve : ∀ o, (F.resolve o).Quiet) {key ns name : String}
    (hkey : wellFormedKey? key = some (ns, name)) (time : String) (c : Cluster) :
    (F.pass time key).warnings c =
      warnings (c.find? t ⟨ns, name⟩) (c.find? p ⟨ns, name⟩) := by
  rw [pass_of_wellFormed hkey, Pass.warnings_cached_bind]
  -- Of the four ways in which a pass may go on, only the last is not quiet.
  cases ho : c.find? t ⟨ns, name⟩ with
  | none =>
    have hget : (c.store t).get? (some ns) name = none := ho
    rw [hget]
    rfl
  | some o =>
    have hget : (c.store t).get? (some ns) name = some o := ho
    rw [hget, Flow.visit, Pass.warnings_cached_bind]
    show (F.proceed time o (c.find? p ⟨ns, name⟩)).warnings c = _
    cases hs : c.find? p ⟨ns, name⟩ with
    | none =>
      have hctl : ∀ s ∈ (none : Option (Object p)), s.metadata.isControlledBy o := by simp
      exact (proceed_quiet hresolve time hctl).warnings c
    | some s =>
      by_cases hctl : s.metadata.isControlledBy o
      · have hwarnings : warnings (some o) (some s) = [] := if_pos hctl
        have howned : ∀ s' ∈ some s, s'.metadata.isControlledBy o := by simpa using hctl
        rw [hwarnings]
        exact (proceed_quiet hresolve time howned).warnings c
      · rw [proceed_of_foreign time hctl]
        exact (if_neg hctl).symm

end Flow

theorem instanceFlow_resolve_quiet (plans : PlanResolver) (inst : TemplatedInstance) :
    ((instanceFlow plans).resolve inst).Quiet :=
  .bind (resolveInstance_quiet plans inst) fun _ => .bind (.ofExcept _) fun _ => .pure _

theorem bindingFlow_resolve_quiet (binding : TemplatedBinding) :
    (bindingFlow.resolve binding).Quiet :=
  .bind (resolveBinding_quiet binding) fun _ => .bind (.ofExcept _) fun _ => .pure _

/-! ## Secrets -/

/-- A secret that is not to be published goes without a warning. -/
theorem managedBinding_quiet (secret : Secret) : (managedBinding secret).Quiet := by
  unfold managedBinding
  dsimp only
  split
  · exact .pure _
  · refine .bind (.cached _ _ _) fun found => ?_
    split
    · exact .pure _
    · split
      · exact .pure _
      · exact .cached _ _ _

/-- So does one in whose place another one stands. -/
theorem Secret.follow_quiet (provisioned : Secret) (binding : TemplatedBinding)
    (found : Option Secret) : (Secret.follow provisioned binding found).Quiet := by
  unfold Secret.follow
  split
  · split
    · exact .pure _
    · exact .bind (.create _) fun _ => .bind (.count _) fun _ => .pure _
  · split
    · split
      · exact .pure _
      · exact .bind (.update _) fun _ => .bind (.count _) fun _ => .pure _
    · exact .pure _

/-- **A pass for a secret warns of nothing.** -/
theorem synchronizeSecret_quiet (key : String) : (synchronizeSecret key).Quiet := by
  rcases synchronizeSecret_cases key with h | ⟨ns, name, published, hkey, hpublished⟩
  · rw [h]
    exact .pure _
  · rw [synchronizeSecret_of_wellFormed hkey hpublished]
    refine .bind (.cached _ _ _) fun found => ?_
    cases found with
    | none => exact .pure _
    | some provisioned =>
      show (managedBinding provisioned >>= Secret.publishFor ns published provisioned).Quiet
      refine .bind (managedBinding_quiet provisioned) fun found => ?_
      cases found with
      | none => exact .pure _
      | some binding => exact .bind (.cached _ _ _) (Secret.follow_quiet provisioned binding)

end ServiceTemplates
