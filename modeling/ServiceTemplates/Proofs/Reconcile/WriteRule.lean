import ServiceTemplates.Operation.Wake
import ServiceTemplates.Proofs.Pass.Lagging
import ServiceTemplates.Proofs.Reconcile.Publish

/-!
# What passes may write

A pass writes nothing but the objects of its key, and replaces nothing but what it knows: an
object that it read or wrote before, with its metadata and so with its version. Which objects
those are is read off the tree of the pass, as a rule that it heeds. Main statement:
`QueueKind.pass_heeds`.
-/

namespace ServiceTemplates

/-! ## Rules about writing -/

/-- Whether `obj` is what is known of a target, with other contents; where it is of an
`owned` kind, it is controlled by what was read for the key. -/
def MayReplace (t owned : Kind) (key : String) (targets : List (Kind × ObjectKey))
    (said : List Interaction) {k : Kind} (obj : Object k) : Prop :=
  (k, obj.place) ∈ targets ∧ ∃ base : Object k, Knows said base ∧ obj.metadata = base.metadata ∧
    (k = owned → ∃ owner : Object t, ReadFor key said owner ∧ base.metadata.isControlledBy owner)

/-- Whether a request writes nothing but targets and replaces nothing but what it may. -/
def WritesTargets (t owned : Kind) (key : String) (targets : List (Kind × ObjectKey))
    (said : List Interaction) : Request → Prop
  | .create k obj => (k, obj.place) ∈ targets
  | .update _ obj => MayReplace t owned key targets said obj
  | .updateStatus _ obj => MayReplace t owned key targets said obj
  | _ => True

/-- Whether objects of two kinds are looked up by the first two requests only. -/
def LooksUpFirst (t p : Kind) (said : List Interaction) : Request → Prop
  | .cached k _ _ => k = t ∨ k = p → said.length < 2
  | _ => True

theorem WritesTargets.of_readsOnly {t owned : Kind} {key : String}
    {targets : List (Kind × ObjectKey)} {said : List Interaction} {K : Kind → Prop} {r : Request}
    (h : r.ReadsOnly K) : WritesTargets t owned key targets said r := by
  cases r <;> trivial

/-- Templates are looked up at any time. -/
theorem LooksUpFirst.of_readsOnly {t p : Kind} {said : List Interaction} {K : Kind → Prop}
    {r : Request} (h : r.ReadsOnly K) (ht : ¬ K t) (hp : ¬ K p) : LooksUpFirst t p said r := by
  cases r with
  | cached k ns name =>
    rintro (rfl | rfl)
    · exact absurd h ht
    · exact absurd h hp
  | _ => trivial

namespace Pass

variable {α : Type} {rule : List Interaction → Request → Prop} {said : List Interaction} {k : Kind}

/-- What comes after a request may rely on what is credible of the reply. -/
theorem heeds_attempt_bind {β : Type} {r : Request} {g : r.Reply → Except Error β} {f : β → Pass α}
    (here : rule said r)
    (later : ∀ reply b, g reply = .ok b → Interaction.Credible ⟨r, reply⟩ →
      (f b).Heeds rule (said ++ [⟨r, reply⟩])) : (Pass.attempt r g >>= f).Heeds rule said := by
  refine ⟨here, fun reply hreply => ?_⟩
  show ((Pass.done (g reply)).bind f).Heeds rule _
  cases hb : g reply with
  | error e => trivial
  | ok b => exact later reply b hb hreply

theorem heeds_create_bind {obj : Object k} {f : Object k → Pass α}
    (here : rule said (.create k obj))
    (later : ∀ o, o.place = obj.place → (f o).Heeds rule (said ++ [⟨.create k obj, .ok o⟩])) :
    (Pass.create obj >>= f).Heeds rule said := by
  refine heeds_attempt_bind here fun reply o ho hreply => ?_
  obtain rfl : reply = .ok o := ho
  exact later o (hreply o rfl)

theorem heeds_update_bind {obj : Object k} {f : Object k → Pass α}
    (here : rule said (.update k obj))
    (later : ∀ o, o.place = obj.place → (f o).Heeds rule (said ++ [⟨.update k obj, .ok o⟩])) :
    (Pass.update obj >>= f).Heeds rule said := by
  refine heeds_attempt_bind here fun reply o ho hreply => ?_
  obtain rfl : reply = .ok o := ho
  exact later o (hreply o rfl)

theorem heeds_count_bind {counter : Counter} {f : Unit → Pass α}
    (here : rule said (.count counter))
    (later : (f ()).Heeds rule (said ++ [⟨.count counter, ()⟩])) :
    (Pass.count counter >>= f).Heeds rule said :=
  ⟨here, fun _ _ => later⟩

theorem heeds_recordStatus {β : Type} {obj : Object k} {f : Object k → β}
    (here : rule said (.updateStatus k obj)) : (f <$> recordStatus obj).Heeds rule said := by
  refine ⟨here, fun reply _ => ?_⟩
  cases reply with
  | ok o => trivial
  | error e =>
    -- Gone or not, the object is asked for no more.
    show Pass.Heeds rule (Pass.bind (ite _ _ _) _) _
    split <;> trivial

end Pass

/-! ## The rule of a flow -/

namespace Flow

variable {t p : Kind} {F : Flow t p} {key ns name : String}

/-- The rule of a flow for a key, by which a namespace and a name are given. -/
def Rule (t p : Kind) (key ns name : String) (said : List Interaction) (r : Request) : Prop :=
  WritesTargets t p key [(t, ⟨ns, name⟩), (p, ⟨ns, name⟩)] said r ∧ LooksUpFirst t p said r

theorem rule_of_readsOnly {said : List Interaction} {r : Request} (h : r.ReadsOnly F.Sources) :
    Rule t p key ns name said r :=
  ⟨.of_readsOnly h, .of_readsOnly h F.templated_not_source F.provisioned_not_source⟩

/-- A templated object may be replaced under the metadata with which it is known. -/
theorem rule_replace {said : List Interaction} {o : Object t} (hplace : o.place = ⟨ns, name⟩)
    (hknown : Knows said o) (htp : t ≠ p) {obj : Object t} (hobj : obj.metadata = o.metadata) :
    MayReplace t p key [(t, ⟨ns, name⟩), (p, ⟨ns, name⟩)] said obj := by
  have hkey : obj.place = ⟨ns, name⟩ := by
    rw [← hplace, Object.place, hobj]
    rfl
  refine ⟨?_, o, hknown, hobj, fun h => absurd h htp⟩
  rw [hkey]
  exact List.mem_cons_self

/-- A report is written on an object that is known. -/
theorem report_heeds {said : List Interaction} {ready : Object t × Object p} (time : String)
    (hplace : ready.1.place = ⟨ns, name⟩) (hknown : Knows said ready.1) :
    (some <$> F.report time ready).Heeds (Rule t p key ns name) said := by
  unfold Flow.report
  dsimp only
  split
  · trivial
  · exact Pass.heeds_recordStatus ⟨rule_replace hplace hknown F.templated_ne_provisioned rfl, trivial⟩

/-- What is created stands under the key, and the request is reported on as it was last known. -/
theorem create_heeds {said : List Interaction} {o : Object t} (time : String) (hname : name ≠ "")
    (hplace : o.place = ⟨ns, name⟩) (hknown : Knows said o) :
    (F.createFor o >>= fun ready => some <$> F.report time ready).Heeds
      (Rule t p key ns name) said := by
  cases hbuild : F.build o with
  | error e =>
    rw [createFor_of_error hbuild]
    trivial
  | ok desired =>
    have hdesired : desired.place = ⟨ns, name⟩ :=
      Object.place_of_provisioned hplace hname (F.build_metadata hbuild)
    rw [createFor_of_ok hbuild]
    refine Pass.heeds_create_bind ⟨?_, trivial⟩ fun s _ => ?_
    · show (p, desired.place) ∈ _
      rw [hdesired]
      simp
    · refine Pass.heeds_count_bind ⟨trivial, trivial⟩ (report_heeds time hplace ?_)
      exact (hknown.append _).append _

/-- Once both objects are looked up, the pass heeds the rule whichever way it goes. -/
theorem proceed_heeds {said : List Interaction} {o : Object t} {found : Option (Object p)}
    (time : String) (hkey : wellFormedKey? key = some (ns, name)) (hplace : o.place = ⟨ns, name⟩)
    (hfound : Found said ns name o)
    (hprovisioned : ∀ s, found = some s → s.place = ⟨ns, name⟩ ∧ Found said ns name s) :
    (F.proceed time o found).Heeds (Rule t p key ns name) said := by
  obtain ⟨-, hname⟩ := wellFormedKey?_ne hkey
  cases found with
  | none =>
    rw [proceed_none, Flow.storeApplied, Pass.bind_assoc]
    refine .bind_of_readsOnly (F.resolve_readsOnly o) (fun more r hr => rule_of_readsOnly hr)
      fun more spec => ?_
    have hknown : Knows (said ++ more) o := hfound.knows.append more
    split
    · exact create_heeds time hname hplace hknown
    · refine Pass.heeds_update_bind
        ⟨rule_replace hplace hknown F.templated_ne_provisioned rfl, trivial⟩ fun stored hstored => ?_
      -- The status is written on what was stored, which the pass knows from the reply.
      have hlast : ⟨.update t { o with spec := spec }, .ok stored⟩ ∈
          said ++ more ++ [(⟨.update t { o with spec := spec }, .ok stored⟩ : Interaction)] :=
        List.mem_append_right _ (List.mem_singleton_self _)
      exact create_heeds time hname (hstored.trans hplace) ⟨_, hlast, rfl⟩
  | some s =>
    obtain ⟨hs, hsfound⟩ := hprovisioned s rfl
    by_cases hctl : s.metadata.isControlledBy o
    · by_cases hsync : F.inSync o.spec s.spec
      · rw [proceed_of_inSync time hctl hsync]
        exact report_heeds time hplace hfound.knows
      · rw [proceed_of_drift time hctl hsync]
        refine Pass.heeds_update_bind ⟨⟨?_, s, hsfound.knows, rfl, fun _ => ?_⟩, trivial⟩
          fun updated _ => Pass.heeds_count_bind ⟨trivial, trivial⟩ (report_heeds time hplace ?_)
        · show (p, s.place) ∈ _
          rw [hs]
          simp
        · exact ⟨o, ⟨ns, name, hkey, hfound⟩, hctl⟩
        · exact (hfound.append _).knows.append _
    · rw [proceed_of_foreign time hctl]
      exact Pass.heeds_count_bind ⟨trivial, trivial⟩ ⟨⟨trivial, trivial⟩, fun _ _ => trivial⟩

/-- **The passes of a flow replace nothing but what they know and write nothing but the
two objects of their key.** -/
theorem pass_heeds (hkey : wellFormedKey? key = some (ns, name)) (time : String) :
    (F.pass time key).Heeds (Rule t p key ns name) [] := by
  rw [pass_of_wellFormed hkey]
  refine ⟨⟨trivial, fun _ => by simp⟩, fun found hfound => ?_⟩
  cases found with
  | none => trivial
  | some o =>
    refine ⟨⟨trivial, fun _ => by simp⟩, fun found hprovisioned => ?_⟩
    refine proceed_heeds time hkey (hfound o rfl) (by simp [Found]) fun s hs => ?_
    subst hs
    exact ⟨hprovisioned s rfl, by simp [Found]⟩

end Flow

/-! ## The rule for secrets -/

namespace Secret

variable {key ns name published : String}

def Rule (key ns published : String) : List Interaction → Request → Prop :=
  WritesTargets .secret .secret key [(.secret, ⟨ns, published⟩)]

/-- A copy is created under the published name, or refreshed if the catalog secret controls it. -/
theorem follow_heeds {said : List Interaction} {provisioned : Secret} {found : Option Secret}
    (binding : TemplatedBinding) (hkey : wellFormedKey? key = some (ns, name))
    (hpublished : publishedName? name = some published)
    (hplace : provisioned.place = ⟨ns, name⟩) (hprovisioned : Found said ns name provisioned)
    (hfound : ∀ s, found = some s → s.place = ⟨ns, published⟩ ∧ Knows said s) :
    (follow provisioned binding found).Heeds (Rule key ns published) said := by
  obtain ⟨-, hname⟩ := wellFormedKey?_ne hkey
  unfold follow
  cases found with
  | none =>
    dsimp only
    split
    · trivial
    · next copy hcopy =>
      have hcopied := place_of_publish? hcopy hplace hname hpublished
      refine Pass.heeds_create_bind ?_ fun s _ => Pass.heeds_count_bind trivial trivial
      show (Kind.secret, copy.place) ∈ _
      rw [hcopied]
      simp
  | some existing =>
    dsimp only
    split
    · next hctl =>
      split
      · trivial
      · next refreshed hrefreshed =>
        obtain ⟨contents, rfl, -, -⟩ := refresh?_eq_some hrefreshed
        obtain ⟨hexisting, hknown⟩ := hfound existing rfl
        refine Pass.heeds_update_bind ⟨?_, existing, hknown, rfl, fun _ => ?_⟩
          fun s _ => Pass.heeds_count_bind trivial trivial
        · show (Kind.secret, existing.place) ∈ _
          rw [hexisting]
          simp
        · exact ⟨provisioned, ⟨ns, name, hkey, hprovisioned⟩, hctl⟩
    · trivial

/-- **A pass replaces no secret but the published one of its key, and that only under the
control of the catalog secret.** -/
theorem synchronize_heeds (hkey : wellFormedKey? key = some (ns, name))
    (hpublished : publishedName? name = some published) :
    (synchronizeSecret key).Heeds (Rule key ns published) [] := by
  rw [synchronizeSecret_of_wellFormed hkey hpublished]
  refine ⟨trivial, fun found hfound => ?_⟩
  cases found with
  | none => trivial
  | some provisioned =>
    refine .bind_of_readsOnly (managedBinding_readsOnly provisioned)
      (fun more r hr => WritesTargets.of_readsOnly hr) fun more found => ?_
    cases found with
    | none => trivial
    | some binding =>
      refine ⟨trivial, fun found hcredible => ?_⟩
      refine follow_heeds binding hkey hpublished (hfound provisioned rfl) ?_ fun s hs => ?_
      · simp [Found]
      · subst hs
        have hfound : Found ([⟨.cached .secret (some ns) name, some provisioned⟩] ++ more ++
            [⟨.cached .secret (some ns) published, some s⟩]) ns published s := by simp [Found]
        exact ⟨hcredible s rfl, hfound.knows⟩

end Secret

/-! ## The three queues -/

namespace QueueKind

/-- The places at which a pass for a key may write: the object of the key and what is
provisioned for it, or the secret that is published for it. -/
def targets (q : QueueKind) (key : String) : List (Kind × ObjectKey) :=
  match wellFormedKey? key, q with
  | none, _ => []
  | some (ns, name), .secret =>
    ((publishedName? name).map fun published => (Kind.secret, ObjectKey.mk ns published)).toList
  | some (ns, name), q => [(q.kind, ⟨ns, name⟩), (q.owned, ⟨ns, name⟩)]

variable {q : QueueKind} {key ns name : String}

theorem targets_of_malformed (h : wellFormedKey? key = none) : q.targets key = [] := by
  simp only [targets, h]

/-- A flow may write to the two objects of its key. -/
theorem targets_of_wellFormed (h : wellFormedKey? key = some (ns, name)) (hq : q ≠ .secret) :
    q.targets key = [(q.kind, ⟨ns, name⟩), (q.owned, ⟨ns, name⟩)] := by
  cases q with
  | secret => exact absurd rfl hq
  | _ => simp only [targets, h]

/-- A secret may be written under its published name only. -/
theorem targets_secret (h : wellFormedKey? key = some (ns, name)) :
    QueueKind.secret.targets key = ((publishedName? name).map fun published =>
      (Kind.secret, ObjectKey.mk ns published)).toList := by
  simp only [targets, h]

/-- **Whatever a pass writes is among its targets, and what it replaces is what it knows.** -/
theorem pass_heeds (q : QueueKind) (plans : PlanResolver) (time key : String) :
    (q.pass plans time key).Heeds (WritesTargets q.kind q.owned key (q.targets key)) [] := by
  cases hkey : wellFormedKey? key with
  | none =>
    rw [pass_of_malformed hkey]
    trivial
  | some place =>
    obtain ⟨ns, name⟩ := place
    cases q with
    | templatedInstance =>
      rw [pass_templatedInstance, targets_of_wellFormed hkey (by decide)]
      exact (Flow.pass_heeds hkey time).mono fun _ _ h => h.1
    | templatedBinding =>
      rw [pass_templatedBinding, targets_of_wellFormed hkey (by decide)]
      exact (Flow.pass_heeds hkey time).mono fun _ _ h => h.1
    | secret =>
      rw [targets_secret hkey]
      show (synchronizeSecret key).Heeds _ _
      rcases synchronizeSecret_cases key with hnothing | ⟨ns', name', published, hkey', hpublished⟩
      · rw [hnothing]
        trivial
      · obtain ⟨rfl, rfl⟩ := Prod.mk.inj (Option.some.inj (hkey.symm.trans hkey'))
        rw [hpublished]
        exact Secret.synchronize_heeds hkey hpublished

end QueueKind

end ServiceTemplates
