import ServiceTemplates.Proofs.Reconcile.WriteRule
import ServiceTemplates.Proofs.Store.Version

/-!
# Writing beside a lagging cache

What a pass reads may be outdated, and others may write while it runs. All the same, a
pass replaces nothing but what it knows: every replacement carries the version of an
object that the pass read or wrote, and the store refuses it when another version stands
there by then. Main statement: `QueueKind.pass_writes_safely`.
-/

namespace ServiceTemplates

/-! ## What a step can change -/

/-- Whether under no key one version ever belonged to two different objects. -/
def VersionsNeverRepeat (seen : List Cluster) : Prop :=
  ∀ c ∈ seen, ∀ c' ∈ seen, ∀ k key (o o' : Object k),
    c.find? k key = some o → c'.find? k key = some o' → o.version = o'.version → o = o'

namespace VersionsNeverRepeat

variable {seen : List Cluster} {live after : Cluster} {k : Kind} {stored : Object k}

/-- Fewer states repeat no more versions. -/
theorem mono {seen' : List Cluster} (h : VersionsNeverRepeat seen)
    (hsub : ∀ c ∈ seen', c ∈ seen) : VersionsNeverRepeat seen' :=
  fun c hc c' hc' => h c (hsub c hc) c' (hsub c' hc')

theorem singleton (c : Cluster) : VersionsNeverRepeat [c] := by
  intro c₁ h₁ c₂ h₂ k key o o' ho ho' _
  rw [List.mem_singleton.1 h₁] at ho
  rw [List.mem_singleton.1 h₂] at ho'
  exact Option.some.inj (ho.symm.trans ho')

/-- A write under a new version repeats none. -/
theorem puts (h : VersionsNeverRepeat seen) (hlive : live ∈ seen) (hputs : live.Puts stored after)
    (hnew : ∀ c ∈ seen, ∀ o, c.find? k stored.place = some o → stored.version ≠ o.version) :
    VersionsNeverRepeat (after :: seen) := by
  have hafter : ∀ c ∈ seen, ∀ k' key (o o' : Object k'), after.find? k' key = some o →
      c.find? k' key = some o' → o.version = o'.version → o = o' := by
    intro c hc k' key o o' ho ho' hversion
    rcases hputs.find?_cases ho with ho | ⟨rfl, rfl, rfl⟩
    · exact h live hlive c hc k' key o o' ho ho' hversion
    · exact absurd hversion (hnew c hc o' ho')
  intro c₁ h₁ c₂ h₂ k' key o o' ho ho' hversion
  rcases List.mem_cons.1 h₁ with rfl | hseen₁
  · rcases List.mem_cons.1 h₂ with rfl | hseen₂
    · exact Option.some.inj (ho.symm.trans ho')
    · exact hafter c₂ hseen₂ k' key o o' ho ho' hversion
  · rcases List.mem_cons.1 h₂ with rfl | hseen₂
    · exact (hafter c₁ hseen₁ k' key o' o ho' ho hversion.symm).symm
    · exact h c₁ hseen₁ c₂ hseen₂ k' key o o' ho ho' hversion

/-- Nor does a write to an object that nobody else has written to. -/
theorem puts_successor (h : VersionsNeverRepeat seen) (hlive : live ∈ seen)
    {current obj : Object k} (hputs : live.Puts (Store.successor current obj) after)
    (hcurrent : ∀ c ∈ seen, c.find? k obj.place = some current) :
    VersionsNeverRepeat (after :: seen) := by
  refine h.puts hlive hputs fun c hc o ho => ?_
  obtain rfl := Option.some.inj ((hcurrent c hc).symm.trans ho)
  exact nextVersion_ne _

end VersionsNeverRepeat

/-- Whether all that a step changes are `targets`, and what it replaces was known to the
pass and, where it is of an `owned` kind, controlled by what the pass read for its key. -/
def Step.Careful (t owned : Kind) (key : String) (targets : List (Kind × ObjectKey))
    (earlier : List Interaction) (e : Step) : Prop :=
  ∀ k place, e.after.find? k place ≠ e.before.find? k place →
    (k, place) ∈ targets ∧
      ∀ o, e.before.find? k place = some o →
        (∀ desired, e.request ≠ .create k desired) ∧ Knows earlier o ∧
          (k = owned → ∃ owner : Object t, ReadFor key earlier owner ∧
            o.metadata.isControlledBy owner)

/-- What a write puts into place is all that it changes. -/
theorem Cluster.Puts.eq_of_changed {c c' : Cluster} {k : Kind} {stored : Object k}
    (h : c.Puts stored c') {k' : Kind} {place : ObjectKey}
    (hchanged : c'.find? k' place ≠ c.find? k' place) : k' = k ∧ place = stored.place := by
  refine Decidable.byContradiction fun hne => hchanged ?_
  exact h.find?_of_ne fun hk hplace => hne ⟨hk, hplace⟩

namespace Step.Careful

variable {t owned : Kind} {key : String} {targets : List (Kind × ObjectKey)}
  {earlier : List Interaction}

theorem of_unchanged {e : Step} (h : e.after = e.before) :
    Step.Careful t owned key targets earlier e :=
  fun k place hchanged => absurd (congrArg (Cluster.find? · k place) h) hchanged

/-- A creation replaces nothing. -/
theorem of_create {live after : Cluster} {k : Kind} {desired stored : Object k}
    (htarget : (k, desired.place) ∈ targets) (h : live.create desired = (.ok stored, after))
    (i : Interaction) : Step.Careful t owned key targets earlier ⟨i, live, after⟩ := by
  intro k' place hchanged
  obtain ⟨hplace, hnone, hputs⟩ := Cluster.puts_of_create h
  obtain ⟨rfl, rfl⟩ := hputs.eq_of_changed hchanged
  rw [hplace]
  refine ⟨htarget, fun o ho => ?_⟩
  -- Nothing stood there before, so there is no `o`.
  have hsome : live.find? k' desired.place = some o := ho
  rw [hnone] at hsome
  cases hsome

end Step.Careful

namespace LaggingRun

variable {α : Type} {p rest : Pass α} {seen : List Cluster} {live after : Cluster}
  {trace : List Step} {t owned : Kind} {key : String} {targets : List (Kind × ObjectKey)}

/-- A version makes sure that what is replaced is what is known. -/
theorem replaces_known (run : LaggingRun p seen live trace rest)
    (hversions : VersionsNeverRepeat seen) {k : Kind} {obj stored : Object k}
    (hmay : MayReplace t owned key targets (said trace) obj)
    (h : live.replace obj = (.ok stored, after)) :
    ∃ base : Object k, live.find? k obj.place = some base ∧ Knows (said trace) base ∧
      (k = owned → ∃ owner : Object t, ReadFor key (said trace) owner ∧
        base.metadata.isControlledBy owner) := by
  obtain ⟨-, base, hknown, hmetadata, hctl⟩ := hmay
  obtain ⟨-, -, current, hcurrent, hsame⟩ := Cluster.puts_of_replace h
  obtain ⟨c, hc, hbase⟩ := run.stored_of_knows hknown
  have hplace : obj.place = base.place := congrArg ObjectKey.ofMetadata hmetadata
  have hversion : obj.version = base.version := congrArg Metadata.resourceVersion hmetadata
  have hversioned : base.version.isSome := (run.sound c hc).versioned hbase
  -- What stands there has the version of what is known, and is therefore the same object.
  have heq : current = base := by
    refine hversions live run.live_mem c hc k base.place current base (hplace ▸ hcurrent) hbase ?_
    rw [hsame (by rwa [hversion]), hversion]
  exact ⟨base, heq ▸ hcurrent, hknown, hctl⟩

/-- A replacement changes one target, which was known and controlled. -/
theorem careful_of_replace (run : LaggingRun p seen live trace rest)
    (hversions : VersionsNeverRepeat seen) {k : Kind} {obj stored : Object k}
    (hmay : MayReplace t owned key targets (said trace) obj)
    (h : live.replace obj = (.ok stored, after)) {i : Interaction}
    (hi : ∀ k desired, i.request ≠ .create k desired) :
    Step.Careful t owned key targets (said trace) ⟨i, live, after⟩ := by
  intro k' place hchanged
  obtain ⟨hplace, hputs, -⟩ := Cluster.puts_of_replace h
  obtain ⟨rfl, rfl⟩ := hputs.eq_of_changed hchanged
  obtain ⟨base, hbase, hknown, hctl⟩ := run.replaces_known hversions hmay h
  rw [hplace]
  refine ⟨hmay.1, fun o ho => ?_⟩
  obtain rfl : base = o := Option.some.inj (hbase.symm.trans ho)
  exact ⟨hi k', hknown, hctl⟩

/-- **A step that heeds the rule changes nothing but targets, and replaces nothing but
what is known and controlled.** -/
theorem careful (run : LaggingRun p seen live trace rest) (hversions : VersionsNeverRepeat seen)
    {r : Request} {reply : r.Reply} (hrule : WritesTargets t owned key targets (said trace) r)
    (h : r.Answers seen live reply after) :
    Step.Careful t owned key targets (said trace) ⟨⟨r, reply⟩, live, after⟩ := by
  cases r with
  | create k desired =>
    cases reply with
    | error e => exact .of_unchanged (Cluster.create_error h)
    | ok stored => exact .of_create hrule h _
  | update k obj =>
    cases reply with
    | error e => exact .of_unchanged (Cluster.replace_error h)
    | ok stored => exact run.careful_of_replace hversions hrule h (by simp)
  | updateStatus k obj =>
    cases reply with
    | error e => exact .of_unchanged (Cluster.replace_error h)
    | ok stored => exact run.careful_of_replace hversions hrule h (by simp)
  | _ => exact .of_unchanged h.after_eq

/-- **Along a run of a pass that heeds the rule, every step is careful.** -/
theorem careful_of_heeds (hp : p.Heeds (WritesTargets t owned key targets) [])
    (run : LaggingRun p seen live trace rest) (hversions : VersionsNeverRepeat seen)
    {earlier later : List Step} {e : Step} (h : trace = earlier ++ e :: later) :
    Step.Careful t owned key targets (said earlier) e := by
  obtain ⟨seen', next, hrun, hanswers, hsub⟩ := run.split h
  refine hrun.careful (fun c hc c' hc' => hversions c (hsub c hc) c' (hsub c' hc')) ?_ hanswers
  exact run.heeds hp h

end LaggingRun

/-! ## How a pass begins -/

namespace Pass

variable {α : Type} {k : Kind} {ns name : String}

/-- Whether a pass, of which `rest` is left after what was `said`, begins with a look-up: this is
its next request, or was its first one, and what came of the reply is as `goesOn` says. -/
def LooksUp (k : Kind) (ns name : String)
    (goesOn : Option (Object k) → List Interaction → Pass α → Prop) (said : List Interaction)
    (rest : Pass α) : Prop :=
  (said = [] ∧ ∃ next, rest = .ask (.cached k (some ns) name) next) ∨
    ∃ found more, said = ⟨.cached k (some ns) name, found⟩ :: more ∧ goesOn found more rest

theorem Follows.looksUp {f : Option (Object k) → Pass α}
    {goesOn : Option (Object k) → List Interaction → Pass α → Prop} {said : List Interaction}
    {rest : Pass α} (h : (Pass.cached k (some ns) name >>= f).Follows said rest)
    (hgoesOn : ∀ found more, (f found).Follows more rest → goesOn found more rest) :
    LooksUp k ns name goesOn said rest := by
  rcases h.of_ask with ⟨rfl, rfl⟩ | ⟨found, more, rfl, hmore⟩
  · exact Or.inl ⟨rfl, _, rfl⟩
  · exact Or.inr ⟨found, more, rfl, hgoesOn found more hmore⟩

end Pass

/-- Whether a pass that looks up an object of a kind `k` ends if there is none, and otherwise
looks up one of kind `l` under the same key, if there is such a kind. -/
def Pass.BeginsAt (k : Kind) (l? : Option Kind) (ns name : String) (said : List Interaction)
    (rest : Pass (Option (Object k))) : Prop :=
  Pass.LooksUp k ns name (fun found more rest =>
    match found with
    | none => more = [] ∧ rest = .done (.ok none)
    | some _ => ∀ l, l? = some l → Pass.LooksUp l ns name (fun _ _ _ => True) more rest) said rest

/-- **The pass of a flow looks up the object of its key and then what is provisioned for it.** -/
theorem Flow.pass_beginsAt {t p : Kind} {F : Flow t p} {key ns name time : String}
    (hkey : wellFormedKey? key = some (ns, name)) {said : List Interaction}
    {rest : Pass (Option (Object t))} (h : (F.pass time key).Follows said rest) :
    Pass.BeginsAt t (some p) ns name said rest := by
  rw [pass_of_wellFormed hkey] at h
  refine h.looksUp fun found more hvisit => ?_
  cases found with
  | none => exact Pass.Follows.of_done hvisit
  | some o =>
    rintro l ⟨⟩
    have hlookup : (Pass.cached p (some ns) name >>= F.proceed time o).Follows more rest := hvisit
    exact hlookup.looksUp fun _ _ _ => trivial

/-- The pass for a secret looks it up first. -/
theorem Secret.pass_beginsAt {key ns name published : String}
    (hkey : wellFormedKey? key = some (ns, name))
    (hpublished : publishedName? name = some published) {said : List Interaction}
    {rest : Pass (Option Secret)} (h : (synchronizeSecret key).Follows said rest) :
    Pass.BeginsAt .secret none ns name said rest := by
  rw [synchronizeSecret_of_wellFormed hkey hpublished] at h
  refine h.looksUp fun found more hvisit => ?_
  cases found with
  | none => exact Pass.Follows.of_done hvisit
  | some provisioned => exact nofun

/-! ## What something else controls -/

/-- Whether a pass that was to find out that something else controls `provisioned` has
written nothing, and has ended, if it has, with that cause and one warning. -/
def RejectsUnmanaged {t p : Kind} (o : Object t) (provisioned : Object p) {α : Type}
    (said : List Interaction) (rest : Pass α) : Prop :=
  (∀ i ∈ said, i.request.ReadsOnly fun _ => True) ∧
    ∀ result, rest = .done result →
      let cause := Error.unmanagedResource p.name provisioned.nsOrEmpty provisioned.displayName
      result = .error cause ∧
        Note.warnings (said.flatMap fun i => i.request.notes) =
          [⟨o.reference, unmanagedReason, cause.message?.getD ""⟩]

/-- What is looked up of these two kinds is looked up by the first two requests. -/
theorem LooksUpFirst.mem_take {t p : Kind} {said : List Interaction} {i : Interaction}
    (hfirst : ∀ earlier later i, said = earlier ++ i :: later → LooksUpFirst t p earlier i.request)
    (hi : i ∈ said) {k : Kind} {ns : Option String} {name : String}
    (hrequest : i.request = .cached k ns name) (hk : k = t ∨ k = p) : i ∈ said.take 2 := by
  obtain ⟨earlier, later, rfl⟩ := List.append_of_mem hi
  have hlookup := hfirst earlier later i rfl
  rw [hrequest] at hlookup
  have hlength : earlier.length < 2 := hlookup hk
  -- At most one request came before.
  rcases earlier with _ | ⟨first, _ | ⟨second, earlier⟩⟩
  · exact List.mem_cons_self
  · exact List.mem_cons_of_mem _ List.mem_cons_self
  · simp only [List.length_cons] at hlength
    omega

/-- After quiet reading, a rejection counts, warns once and ends. -/
theorem follows_rejectUnmanaged {t p : Kind} {o : Object t} {s : Object p} {α : Type}
    (before : List Interaction) {said : List Interaction} {rest : Pass α}
    (hreads : ∀ i ∈ before, i.request.ReadsOnly fun _ => True)
    (hquiet : before.flatMap (fun i => i.request.notes) = [])
    (h : (rejectUnmanaged o s : Pass α).Follows said rest) :
    RejectsUnmanaged o s (before ++ said) rest := by
  -- The path breaks off before the count, before the warning, or is complete.
  rcases h.of_ask with ⟨rfl, rfl⟩ | ⟨_, said₁, rfl, hcounted⟩
  · exact ⟨by simpa using hreads, nofun⟩
  rcases Pass.Follows.of_ask hcounted with ⟨rfl, rfl⟩ | ⟨_, said₂, rfl, hwarned⟩
  · refine ⟨?_, nofun⟩
    simpa [or_imp, forall_and, Request.ReadsOnly] using hreads
  obtain ⟨rfl, rfl⟩ := Pass.Follows.of_done hwarned
  refine ⟨?_, ?_⟩
  · simpa [or_imp, forall_and, Request.ReadsOnly] using hreads
  · rintro result hresult
    obtain rfl := Pass.done.inj hresult
    refine ⟨rfl, ?_⟩
    rw [List.flatMap_append, hquiet]
    rfl

namespace Flow

variable {t p : Kind} {F : Flow t p}

/-- **A pass that reads an object under another controller writes nothing and ends with
that cause.** -/
theorem rejects_of_foreign {key time : String} {said : List Interaction}
    {rest : Pass (Option (Object t))} (h : (F.pass time key).Follows said rest)
    (hsaid : ∀ i ∈ said, i.Credible) {o : Object t} {s : Object p} (ho : ReadFor key said o)
    (hs : ReadFor key said s) (hctl : ¬ s.metadata.isControlledBy o) :
    RejectsUnmanaged o s said rest := by
  obtain ⟨ns, name, hkey, ho⟩ := ho
  rw [readFor_iff hkey] at hs
  have hfirst : ∀ earlier later i, said = earlier ++ i :: later → LooksUpFirst t p earlier i.request :=
    fun earlier later i hsplit => by simpa using (h.heeds (pass_heeds hkey time) hsaid hsplit).2
  -- Nothing later looks these two kinds up, so they were found by the first two requests.
  have ho := LooksUpFirst.mem_take hfirst ho rfl (Or.inl rfl)
  have hs := LooksUpFirst.mem_take hfirst hs rfl (Or.inr rfl)
  have htp := F.templated_ne_provisioned
  rw [pass_of_wellFormed hkey] at h
  rcases h.of_ask with ⟨rfl, -⟩ | ⟨found, said₁, rfl, hvisit⟩
  · cases ho
  cases found with
  | none =>
    obtain ⟨rfl, -⟩ := Pass.Follows.of_done hvisit
    simp at ho
  | some o' =>
    rcases Pass.Follows.of_ask hvisit with ⟨rfl, -⟩ | ⟨found, said₂, rfl, hproceed⟩
    · simp [htp.symm] at hs
    · obtain rfl : o = o' := by simpa [htp] using ho
      obtain rfl : some s = found := by simpa [htp.symm] using hs
      have hreject : (F.proceed time o (some s)).Follows said₂ rest := hproceed
      rw [proceed_of_foreign time hctl] at hreject
      exact follows_rejectUnmanaged [_, _] (by simp [Request.ReadsOnly]) rfl hreject

end Flow

/-! ## Two runs -/

/-- A conflict says that the object is there. -/
theorem Error.not_isNotFound {e : Error} (h : e.isConflict) : ¬ e.isNotFound := by
  cases e with
  | refused status =>
    have hcode : status.code = 409 := by simpa [isConflict] using h
    simp [isNotFound, hcode]
  | conflict => simp [isNotFound]
  | _ => cases h

/-- A report on another version than the present one ends a pass. -/
theorem LaggingRun.refused_report {α : Type} {k : Kind} {q : Pass α} {seen : List Cluster}
    {live : Cluster} {trace : List Step} {obj : Object k} {f : Object k → α}
    (run : LaggingRun q seen live trace (f <$> recordStatus obj)) {e : Error}
    (hrefused : live.replace obj = (.error e, live)) (hconflict : e.isConflict) :
    LaggingRun q (live :: seen) live
      (trace ++ [⟨⟨.updateStatus k obj, .error e⟩, live, live⟩]) (.done (.error e)) := by
  have hdone : (if e.isNotFound then pure obj else Pass.fail e : Pass (Object k)).bind
      (fun o => pure (f o)) = .done (.error e) := by
    rw [if_neg (Error.not_isNotFound hconflict)]
    rfl
  have hnext := run.step (r := .updateStatus k obj) hrefused
  exact hdone ▸ hnext

namespace Flow

variable {t p : Kind} {F : Flow t p} {key ns name : String} {c c' : Cluster} {o o' : Object t}
  {s : Object p}

/-- A request that somebody else has changed since it was looked up is pushed down as it was, and
the report on it is refused. -/
theorem exists_outdated_push (hkey : wellFormedKey? key = some (ns, name)) (time : String)
    (hc : c.Sound) (hc' : c'.Sound) (ho : c.find? t ⟨ns, name⟩ = some o)
    (ho' : c'.find? t ⟨ns, name⟩ = some o') (hmoved : o'.version ≠ o.version)
    (hs : c'.find? p ⟨ns, name⟩ = some s) (hctl : s.metadata.isControlledBy o)
    (hdrift : ¬ F.inSync o.spec s.spec) (hstatus : o.status = none) :
    let pushed := Store.successor s { s with spec := F.refresh o.spec s.spec }
    ∃ left earlier i later e, c'.Puts pushed left ∧ e.isConflict ∧
      LaggingRun (F.pass time key) [left, left, left, c', c', c', c] left
        (earlier ++ ⟨i, c', left⟩ :: later) (.done (.error e)) := by
  intro pushed
  rw [pass_of_wellFormed hkey]
  obtain ⟨left, hwrite, hputs⟩ := hc'.replace_read hs { s with spec := F.refresh o.spec s.spec } rfl
  -- The cache still has the request as it was, what is provisioned is found as it is.
  have hlookup : (Request.cached t (some ns) name).Answers [c', c] c' (some o) c' :=
    ⟨rfl, c, List.mem_cons_of_mem _ List.mem_cons_self, ho.symm⟩
  have hlookup' : (Request.cached p (some ns) name).Answers [c', c', c] c' (some s) c' :=
    ⟨rfl, c', List.mem_cons_self, hs.symm⟩
  have hstart : LaggingRun (Pass.cached t (some ns) name >>= F.visit time ns name) [c] c [] _ :=
    .start (by simpa using hc)
  have hread : LaggingRun _ [c', c', c', c] c' _ (F.proceed time o (some s)) :=
    ((hstart.others hc').step hlookup).step hlookup'
  rw [proceed_of_drift time hctl hdrift] at hread
  have hpushed : LaggingRun _ [left, c', c', c', c] left _ _ := hread.step hwrite
  have hcounted : LaggingRun _ [left, left, c', c', c', c] left _
    (some <$> F.report time (o, pushed)) := hpushed.step rfl
  -- By now another version of the request stands there than the one that is reported on.
  let reported : Object t := { o with status := some (F.observe o.spec pushed time) }
  have hreport : F.report time (o, pushed) = recordStatus reported :=
    if_neg (by simp [reports, hstatus])
  rw [hreport] at hcounted
  have hplace : o.place = ⟨ns, name⟩ := hc.place ho
  have hleft : left.find? t reported.place = some o' := by
    show left.find? t o.place = some o'
    rw [hplace]
    exact (hputs.find?_of_ne fun h => absurd h F.templated_ne_provisioned).trans ho'
  have hversioned : o.version.isSome := hc.versioned ho
  obtain ⟨e, hstale, hconflict⟩ : ∃ e, Store.staleness? o' reported = some e ∧ e.isConflict :=
    Cluster.exists_conflict_of_version_ne hversioned hmoved
  have hrefused := left.replace_of_stale hleft hstale
  exact ⟨left, [_, _], _, [_, _], e, hputs, hconflict, hcounted.refused_report hrefused hconflict⟩

/-- What is found under another controller is counted and warned about, and that is all. -/
theorem exists_rejection (hkey : wellFormedKey? key = some (ns, name)) (time : String)
    (hc : c.Sound) (ho : c.find? t ⟨ns, name⟩ = some o) (hs : c.find? p ⟨ns, name⟩ = some s)
    (hctl : ¬ s.metadata.isControlledBy o) :
    ∃ trace, LaggingRun (F.pass time key) [c, c, c, c, c] c trace
        (.done (.error (.unmanagedResource p.name s.nsOrEmpty s.displayName))) ∧
      ReadFor key (said trace) o ∧ ReadFor key (said trace) s := by
  rw [pass_of_wellFormed hkey]
  have hlookup : (Request.cached t (some ns) name).Answers [c] c (some o) c :=
    ⟨rfl, c, List.mem_cons_self, ho.symm⟩
  have hlookup' : (Request.cached p (some ns) name).Answers [c, c] c (some s) c :=
    ⟨rfl, c, List.mem_cons_self, hs.symm⟩
  have hstart : LaggingRun (Pass.cached t (some ns) name >>= F.visit time ns name) [c] c [] _ :=
    .start (by simpa using hc)
  have hread : LaggingRun _ [c, c, c] c _ (F.proceed time o (some s)) :=
    (hstart.step hlookup).step hlookup'
  rw [proceed_of_foreign time hctl] at hread
  have hcounted : LaggingRun _ [c, c, c, c] c _ _ := hread.step rfl
  have hwarned : LaggingRun _ [c, c, c, c, c] c _ _ := hcounted.step rfl
  refine ⟨_, hwarned, ⟨ns, name, hkey, ?_⟩, ⟨ns, name, hkey, ?_⟩⟩
  · exact List.mem_cons_self
  · exact List.mem_cons_of_mem _ List.mem_cons_self

end Flow

/-! ## The three queues -/

namespace QueueKind

/-- Where the pass for a key begins to look. There is nothing to look for under a malformed key,
nor for a secret that is not to be published. -/
def start? (q : QueueKind) (key : String) : Option (String × String) :=
  match wellFormedKey? key, q with
  | some (ns, name), .secret => (publishedName? name).map fun _ => (ns, name)
  | place, _ => place

/-- How a pass for a key begins. The object of the key is looked up, and after it what is
provisioned for it; a secret alone is followed to its owners first. -/
def Begins (q : QueueKind) (key : String) (said : List Interaction)
    (rest : Pass (Option (Object q.kind))) : Prop :=
  match q.start? key with
  | none => said = [] ∧ rest = .done (.ok none)
  | some (ns, name) =>
    Pass.BeginsAt q.kind (if q = .secret then none else some q.owned) ns name said rest

/-- **Every pass begins as its queue says.** -/
theorem pass_begins {q : QueueKind} {plans : PlanResolver} {time key : String}
    {said : List Interaction} {rest : Pass (Option (Object q.kind))}
    (h : (q.pass plans time key).Follows said rest) : q.Begins key said rest := by
  unfold Begins start?
  cases hkey : wellFormedKey? key with
  | none =>
    rw [pass_of_malformed hkey] at h
    exact Pass.Follows.of_done h
  | some place =>
    obtain ⟨ns, name⟩ := place
    -- The queue is told apart first, since secrets have a condition more.
    cases q with
    | templatedInstance =>
      rw [pass_templatedInstance] at h
      exact Flow.pass_beginsAt hkey h
    | templatedBinding =>
      rw [pass_templatedBinding] at h
      exact Flow.pass_beginsAt hkey h
    | secret =>
      replace h : (synchronizeSecret key).Follows said rest := h
      dsimp only
      cases hpublished : publishedName? name with
      | none =>
        rw [synchronizeSecret_of_unpublished hkey hpublished] at h
        exact Pass.Follows.of_done h
      | some published => exact Secret.pass_beginsAt hkey hpublished h

/-- **A pass beside lagging caches writes safely.** As long as no version returns under a
key, and whatever others write between its steps, a pass changes nothing but its targets.
What it replaces is, at that moment, an object that it read or wrote itself, and is
controlled by what it read for its key where it is of the kind that is provisioned or
published; nothing is replaced by a creation. Every pass looks up the object of its key first,
and what is provisioned for an instance or a binding next; when that is under another
controller, the pass writes nothing and ends with that cause and one warning. -/
theorem pass_writes_safely (q : QueueKind) (plans : PlanResolver) (time key : String)
    {seen : List Cluster} {live : Cluster} {trace : List Step} {rest : Pass (Option (Object q.kind))}
    (run : LaggingRun (q.pass plans time key) seen live trace rest)
    (hversions : VersionsNeverRepeat seen) :
    (∀ earlier e later, trace = earlier ++ e :: later →
      Step.Careful q.kind q.owned key (q.targets key) (said earlier) e) ∧
    q.Begins key (said trace) rest ∧
    (q ≠ .secret → ∀ (o : Object q.kind) (provisioned : Object q.owned),
      ReadFor key (said trace) o → ReadFor key (said trace) provisioned →
      ¬ provisioned.metadata.isControlledBy o → RejectsUnmanaged o provisioned (said trace) rest) ∧
    ∃ seen' live' more result,
      LaggingRun (q.pass plans time key) seen' live' (trace ++ more) (.done result) := by
  refine ⟨fun earlier e later h => ?_, pass_begins run.follows, fun hq o s ho hs hctl => ?_,
    run.finishes⟩
  · exact run.careful_of_heeds (q.pass_heeds plans time key) hversions h
  · cases q with
    | templatedInstance =>
      have hfollows := run.follows
      rw [pass_templatedInstance] at hfollows
      exact Flow.rejects_of_foreign hfollows run.credible ho hs hctl
    | templatedBinding =>
      have hfollows := run.follows
      rw [pass_templatedBinding] at hfollows
      exact Flow.rejects_of_foreign hfollows run.credible ho hs hctl
    | secret => exact absurd rfl hq

/-- A service instance is written for a request that has changed meanwhile; it was under control
and is replaced as it was found. One without a controller is left alone. -/
theorem pass_writes_safely_outdated :
    let place : ObjectKey := ⟨"default", "db"⟩
    let stored (uid : String) (owners : List OwnerReference) : Metadata :=
      { name := some "db", ns := some "default", uid := some uid, resourceVersion := some "1"
        ownerReferences := some owners }
    let inst : TemplatedInstance := { metadata := stored "u-1" [], spec := { updateRequests := 1 } }
    let edited : TemplatedInstance := { inst with spec := { updateRequests := 2 } }
    let provisioned : ServiceInstance :=
      { metadata := stored "u-2" [inst.controllerReference], spec := {} }
    let foreign : ServiceInstance := { metadata := stored "u-2" [], spec := {} }
    let pass := templatedInstance.pass noPlans "noon" "default/db"
    (let before := ((Cluster.empty.insert inst).2.insert provisioned).2
      let now := (before.replace edited).2
      ∃ left earlier i later e,
        LaggingRun pass [left, left, left, now, now, now, before] left
          (earlier ++ ⟨i, now, left⟩ :: later) (.done (.error e)) ∧
        VersionsNeverRepeat [left, left, left, now, now, now, before] ∧ e.isConflict ∧
        now.find? .templatedInstance place ≠ some inst ∧
        left.find? .serviceInstance place ≠ now.find? .serviceInstance place ∧
        Step.Careful .templatedInstance .serviceInstance "default/db"
          [(.templatedInstance, place), (.serviceInstance, place)] (said earlier) ⟨i, now, left⟩) ∧
    (let now := ((Cluster.empty.insert inst).2.insert foreign).2
      ∃ trace result,
        LaggingRun pass [now, now, now, now, now] now trace (.done result) ∧
        VersionsNeverRepeat [now, now, now, now, now] ∧
        Begins .templatedInstance "default/db" (said trace) (.done result) ∧
        RejectsUnmanaged inst foreign (said trace)
          (.done result : Pass (Option TemplatedInstance))) := by
  intro place stored inst edited provisioned foreign pass
  have hpass : pass = (instanceFlow noPlans).pass "noon" "default/db" :=
    pass_templatedInstance noPlans "noon" "default/db"
  have hkey : wellFormedKey? "default/db" = some ("default", "db") := rfl
  have hplaced : ∀ owners : List OwnerReference,
      let s : ServiceInstance := { metadata := stored "u-2" owners, spec := {} }
      let c := ((Cluster.empty.insert inst).2.insert s).2
      c.Sound ∧ c.find? .templatedInstance place = some inst ∧
        c.find? .serviceInstance place = some s := by
    intro owners s c
    have hputs := (Cluster.empty.insert inst).2.puts_insert s
    refine ⟨(Cluster.sound_empty.insert inst).insert s, ?_, hputs.find?_of_place rfl⟩
    exact (hputs.find?_of_ne fun hk => by cases hk).trans
      ((Cluster.empty.puts_insert inst).find?_of_place rfl)
  constructor
  · intro before now
    obtain ⟨hbefore, hinst, hprovisioned⟩ : before.Sound ∧
        before.find? .templatedInstance place = some inst ∧
        before.find? .serviceInstance place = some provisioned := hplaced _
    obtain ⟨now', hwrite, hedited⟩ := hbefore.replace_read hinst edited rfl
    obtain rfl : now = now' := congrArg Prod.snd hwrite
    have hnow : now.find? .templatedInstance place = some (Store.successor inst edited) :=
      hedited.find?_of_place rfl
    have hsame : now.find? .serviceInstance place = some provisioned :=
      (hedited.find?_of_ne fun hk => by cases hk).trans hprovisioned
    have hmoved : (Store.successor inst edited).version ≠ inst.version := nextVersion_ne _
    obtain ⟨left, earlier, i, later, e, hpushed, hconflict, hrun⟩ :=
      Flow.exists_outdated_push (F := instanceFlow noPlans) hkey "noon" hbefore
        (hedited.sound hbefore rfl) hinst hnow hmoved hsame rfl (by decide) rfl
    have hleft : left.find? .serviceInstance place = some _ := hpushed.find?_of_place rfl
    have hversions : VersionsNeverRepeat [left, now, before] := by
      have hfirst : VersionsNeverRepeat [now, before] :=
        (VersionsNeverRepeat.singleton before).puts_successor List.mem_cons_self hedited
          fun c hc => by rw [List.mem_singleton.1 hc]; exact hinst
      refine hfirst.puts_successor List.mem_cons_self hpushed fun c hc => ?_
      rcases List.mem_pair.1 hc with rfl | rfl
      · exact hsame
      · exact hprovisioned
    have hseen : VersionsNeverRepeat [left, left, left, now, now, now, before] :=
      hversions.mono (by simp)
    rw [← hpass] at hrun
    refine ⟨left, earlier, i, later, e, hrun, hseen, hconflict, ?_, ?_, ?_⟩
    · rw [hnow]
      intro h
      exact hmoved (congrArg Object.version (Option.some.inj h))
    · rw [hleft, hsame]
      intro h
      exact nextVersion_ne _ (congrArg Object.version (Option.some.inj h))
    · exact (pass_writes_safely _ _ _ _ hrun hseen).1 earlier _ later rfl
  · intro now
    obtain ⟨hnow, hinst, hforeign⟩ := hplaced []
    obtain ⟨trace, hrun, hread, hread'⟩ :=
      Flow.exists_rejection (F := instanceFlow noPlans) hkey "noon" hnow hinst hforeign (by decide)
    have hversions : VersionsNeverRepeat [now, now, now, now, now] :=
      (VersionsNeverRepeat.singleton now).mono (by simp)
    rw [← hpass] at hrun
    obtain ⟨-, hbegins, hrejects, -⟩ := pass_writes_safely _ _ _ _ hrun hversions
    exact ⟨trace, _, hrun, hversions, hbegins, hrejects nofun _ _ hread hread' nofun⟩

end QueueKind

end ServiceTemplates
