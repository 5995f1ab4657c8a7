import ServiceTemplates.Proofs.Reconcile.Stage

/-!
# Two passes for one key

Two passes for a key for which nothing is provisioned yet take their turns. Main
statements: `Flow.Setting.before_or_after`, by which something is provisioned or is about
to be, and `Flow.Setting.After.over`, by which the race ends with one creation.
-/

namespace ServiceTemplates

namespace Flow

variable {t p : Kind}

namespace Setting

variable {F : Flow t p} (S : F.Setting)

/-- The race before anything is provisioned. -/
structure Before (times : Bool → String) (T : Object t) (race : Race (Option (Object t))) :
    Prop where
  unread : S.Unread race.cluster
  sound : race.cluster.Sound
  templated : race.cluster.find? t ⟨S.ns, S.name⟩ = some T
  vacant : race.cluster.find? p ⟨S.ns, S.name⟩ = none
  stages : ∀ b, S.Early (times b) T (race.racer b)
  /-- Either nothing was stored, or who stored it is about to create. -/
  progress : T = S.old ∨ (T = S.new ∧
    ∃ b o, S.At (race.racer b) (F.creation (times b) S.new S.desired) (some o) none 0)

/-- The race after `w` has created what is provisioned. -/
structure After (times : Bool → String) (w : Bool) (T : Object t) (s : Object p)
    (race : Race (Option (Object t))) : Prop where
  standing : S.Standing race.cluster T s
  winner : S.Winner (race.racer w)
  loser : S.LateOver s (race.racer !w) ∨ (S.Late (times !w) s (race.racer !w) ∧ S.Moved T ∧
    (T = S.new ∨ ∃ result o, S.At (race.racer w) (.done result) (some o) none 1))

section Race

variable {S} {times : Bool → String} {T : Object t} {s : Object p}
  {race : Race (Option (Object t))}

/-- Where a runner stands before the other one has provisioned is where it may stand afterwards. -/
theorem Early.late {time : String} {x : Racer (Option (Object t))} (h : S.Early time T x)
    (hs : s.spec = S.desired.spec) : S.LateOver s x ∨ S.Late time s x := by
  cases h with
  | starting h => exact Or.inr (.starting hs h)
  | holding o ho h =>
    refine Or.inr (.holding o ?_ hs h)
    rcases ho with rfl | ⟨rfl, -⟩
    · exact S.held_old
    · exact S.held_new
  | storing hdiffers h => exact Or.inr (.storing hdiffers hs h)
  | creating o _ h => exact Or.inr (.creating o hs h)
  | refused o result _ h => exact Or.inl ⟨result, _, _, outcome_unpaired hs, h⟩

/-- What the other runner stores leaves this one where it is. -/
theorem Early.stored {time : String} {x : Racer (Option (Object t))} (h : S.Early time S.old x) :
    S.Early time S.new x := by
  cases h with
  | starting h => exact .starting h
  | holding o ho h => exact .holding o (ho.imp_right fun h => ⟨h.1, rfl⟩) h
  | storing hdiffers h => exact .storing hdiffers h
  | creating o _ h => exact .creating o rfl h
  | refused o result hversion _ => exact absurd rfl hversion

theorem step_eq {b : Bool} {x' : Racer (Option (Object t))} {c' : Cluster}
    (h : (race.racer b).step race.cluster = (x', c')) :
    (race.step b).cluster = c' ∧ (race.step b).racer b = x' :=
  ⟨congrArg Prod.snd h, (race.racer_step_self b).trans (congrArg Prod.fst h)⟩

theorem eq_or_eq_not (b b' : Bool) : b' = b ∨ b' = !b := by
  cases b <;> cases b' <;> simp

theorem forall_bool {P : Bool → Prop} (b : Bool) (h : P b) (h' : P !b) : ∀ b', P b' := by
  intro b'
  rcases eq_or_eq_not b b' with rfl | rfl
  · exact h
  · exact h'

/-- The race is won as soon as something is created. -/
theorem Before.won (h : S.Before times S.new race) {b : Bool} {x' : Racer (Option (Object t))}
    {c' : Cluster} {uid : String} (hstep : (race.racer b).step race.cluster = (x', c'))
    (hputs : race.cluster.Puts (Store.stamp S.desired uid "1") c') (hwinner : S.Winner x') :
    S.After times b S.new (Store.stamp S.desired uid "1") (race.step b) := by
  obtain ⟨hcluster, hracer⟩ := step_eq hstep
  refine ⟨?_, hracer ▸ hwinner, ?_⟩
  · rw [hcluster]
    exact {
      unread := h.unread.puts hputs F.provisioned_not_source
      sound := hputs.sound h.sound rfl
      templated := (hputs.find?_of_ne fun e => absurd e F.templated_ne_provisioned).trans h.templated
      held := S.held_new
      spec := rfl
      provisioned := hputs.find?_of_place S.desired_place
      owners := by rw [Store.stamp, F.build_metadata S.built]; rfl }
  · rw [race.racer_step_not]
    have hspec : (Store.stamp S.desired uid "1").spec = S.desired.spec := rfl
    exact ((h.stages !b).late hspec).imp_right fun h => ⟨h, S.moved_new, Or.inl rfl⟩

/-- A turn that writes nothing leaves both before the creation. -/
theorem Before.stay (h : S.Before times T race) {b : Bool} {x' : Racer (Option (Object t))}
    (hstep : (race.racer b).step race.cluster = (x', race.cluster))
    (h' : S.Early (times b) T x')
    (hprogress : T = S.new → T ≠ S.old → (∃ o, S.At x' (F.creation (times b) S.new S.desired)
        (some o) none 0) ∨
      ∃ o, S.At (race.racer !b) (F.creation (times !b) S.new S.desired) (some o) none 0) :
    S.Before times T (race.step b) := by
  obtain ⟨hcluster, hracer⟩ := step_eq hstep
  refine ⟨hcluster ▸ h.unread, hcluster ▸ h.sound, hcluster ▸ h.templated, hcluster ▸ h.vacant,
    forall_bool b (hracer ▸ h') (race.racer_step_not b ▸ h.stages !b), ?_⟩
  by_cases hold : T = S.old
  · exact Or.inl hold
  · have hnew := (h.progress.resolve_left hold).1
    refine Or.inr ⟨hnew, ?_⟩
    rcases hprogress hnew hold with ⟨o, ho⟩ | ⟨o, ho⟩
    · exact ⟨b, o, hracer ▸ ho⟩
    · exact ⟨!b, o, race.racer_step_not b ▸ ho⟩

/-- **One step of the race before anything is provisioned.** -/
theorem Before.step (h : S.Before times T race) (b : Bool) :
    (∃ T', S.Before times T' (race.step b)) ∨ ∃ w T' s, S.After times w T' s (race.step b) := by
  have hcase : T = S.old ∨ T = S.new := h.progress.imp_right And.left
  -- Whoever stored the template creates next; until then nobody else comes to that.
  by_cases hcreating : T = S.new ∧
      ∃ o, S.At (race.racer b) (F.creation (times b) S.new S.desired) (some o) none 0
  · obtain ⟨rfl, o, hat⟩ := hcreating
    obtain ⟨x', c', hstep, ⟨rfl, h'⟩ | ⟨-, htaken, -⟩ | ⟨-, uid, hputs, hwinner⟩⟩ :=
      hat.step_creating h.unread
    · exact Or.inl ⟨_, h.stay hstep (.creating o rfl h') fun _ _ => Or.inl ⟨o, h'⟩⟩
    · rw [h.vacant] at htaken
      cases htaken
    · exact Or.inr ⟨b, _, _, h.won hstep hputs hwinner⟩
  obtain ⟨x', c', hstep, ⟨rfl, h'⟩ | ⟨rfl, hputs, o, h'⟩ | ⟨rfl, uid, hputs, hwinner⟩⟩ :=
    (h.stages b).step h.unread h.templated hcase h.vacant
  · refine Or.inl ⟨T, h.stay hstep h' fun hnew hold => Or.inr ?_⟩
    obtain ⟨-, b', o, hat⟩ := h.progress.resolve_left hold
    obtain rfl : b' = !b := by
      rcases eq_or_eq_not b b' with rfl | hb
      · exact absurd ⟨hnew, o, hat⟩ hcreating
      · exact hb
    exact ⟨o, hat⟩
  · obtain ⟨hcluster, hracer⟩ := step_eq hstep
    refine Or.inl ⟨S.new, ?_, ?_, ?_, ?_, ?_, Or.inr ⟨rfl, b, o, hracer ▸ h'⟩⟩
    · rw [hcluster]
      exact h.unread.puts hputs F.templated_not_source
    · rw [hcluster]
      exact hputs.sound h.sound S.held_new.versioned
    · rw [hcluster]
      exact hputs.find?_of_place (S.new_kin.place.trans S.old_place)
    · rw [hcluster]
      exact (hputs.find?_of_ne fun e => absurd e F.templated_ne_provisioned.symm).trans h.vacant
    · refine forall_bool b (hracer ▸ .creating o rfl h') ?_
      rw [race.racer_step_not]
      exact (h.stages !b).stored
  · exact Or.inr ⟨b, _, _, h.won hstep hputs hwinner⟩

/-- **One step of the race after something is provisioned.** -/
theorem After.step {w : Bool} (h : S.After times w T s race) (b : Bool) :
    ∃ T' s', S.After times w T' s' (race.step b) := by
  -- It is the winner's turn, or the turn of the one that is too late.
  rcases eq_or_eq_not w b with rfl | rfl
  · obtain ⟨x', c', T', hstep, hc', hwinner, hT'⟩ := h.winner.step h.standing
    obtain ⟨hcluster, hracer⟩ := step_eq hstep
    refine ⟨T', s, hcluster ▸ hc', hracer ▸ hwinner, ?_⟩
    rw [race.racer_step_not, hracer]
    rcases h.loser with hover | ⟨hlate, hmoved, hnew | ⟨result, o, hat⟩⟩
    · exact Or.inl hover
    · refine Or.inr ⟨hlate, ?_⟩
      rcases hT' with rfl | ⟨⟨result, o, hat⟩, obj, rfl⟩
      · exact ⟨hmoved, Or.inl hnew⟩
      · subst hnew
        exact ⟨S.moved_successor obj, Or.inr ⟨result, o, hat⟩⟩
    · obtain ⟨x'', hstep', hat'⟩ := hat.step_over h.standing.unread
      obtain ⟨rfl, rfl⟩ := Prod.mk.inj (hstep.symm.trans hstep')
      obtain rfl : T = T' :=
        Option.some.inj (h.standing.templated.symm.trans hc'.templated)
      exact Or.inr ⟨hlate, hmoved, Or.inr ⟨result, o, hat'⟩⟩
  · have hw : (race.step !w).racer w = race.racer w := race.racer_step_of_ne (by simp)
    rcases h.loser with ⟨result, o?, s?, houtcome, hat⟩ | ⟨hlate, hmoved, hwon⟩
    · obtain ⟨x', hstep, hat'⟩ := hat.step_over h.standing.unread
      obtain ⟨hcluster, hracer⟩ := step_eq hstep
      refine ⟨T, s, hcluster ▸ h.standing, hw ▸ h.winner, Or.inl ?_⟩
      exact hracer ▸ ⟨result, o?, s?, houtcome, hat'⟩
    · obtain ⟨x', c', T', s', hstep, hc', hnext⟩ := hlate.step h.standing hmoved
      obtain ⟨hcluster, hracer⟩ := step_eq hstep
      refine ⟨T', s', hcluster ▸ hc', hw ▸ h.winner, ?_⟩
      rw [hw, hracer]
      rcases hnext with hover | ⟨hlate', rfl⟩
      · exact Or.inl hover
      · exact Or.inr ⟨hlate', hmoved, hwon⟩

/-- Both runners start before the creation. -/
theorem before_start (times : Bool → String) :
    S.Before times S.old (Race.start S.start fun b => F.pass (times b) S.key) where
  unread _ _ := rfl
  sound := S.sound
  templated := S.templated
  vacant := S.vacant
  stages _ := .starting ⟨.here _, .nil⟩
  progress := Or.inl rfl

/-- **At every moment the race is before or after the creation.** -/
theorem before_or_after (S : F.Setting) (times : Bool → String) (turns : List Bool) :
    let race := (Race.start S.start fun b => F.pass (times b) S.key).run turns
    (∃ T, S.Before times T race) ∨ ∃ w T s, S.After times w T s race := by
  refine Race.run_induction (P := fun race =>
    (∃ T, S.Before times T race) ∨ ∃ w T s, S.After times w T s race) ?_
    (Or.inl ⟨_, before_start times⟩) turns
  -- On the turns: the first phase may go over into the second, which is never left.
  rintro race b (⟨T, h⟩ | ⟨w, T, s, h⟩)
  · exact h.step b
  · obtain ⟨T', s', h'⟩ := h.step b
    exact Or.inr ⟨w, T', s', h'⟩

/-- Before something is provisioned, not both passes are over. -/
theorem Before.not_over (h : S.Before times T race) : ¬ race.IsOver := by
  intro hover
  rcases h.progress with rfl | ⟨rfl, b, o, hat⟩
  · obtain ⟨result, hresult⟩ := hover true
    -- Only a refused pass could be over, and it was refused because of a newer version.
    rcases h.stages true with hat | ⟨o, -, hat⟩ | ⟨-, hat⟩ | ⟨o, -, hat⟩ | ⟨o, result, hversion, hat⟩
    · have hpass := hat.eq_of_done hresult
      rw [pass_of_wellFormed S.wellFormed] at hpass
      cases hpass
    · cases hat.eq_of_done hresult
    · cases hat.eq_of_done hresult
    · cases hat.eq_of_done hresult
    · exact hversion rfl
  · obtain ⟨result, hresult⟩ := hover b
    cases hat.eq_of_done hresult

/-- **When both passes are over, one creation succeeded, the templated object carries its
template, and what is provisioned is the outcome of what the other pass has found.** -/
theorem After.over {w : Bool} (h : S.After times w T s race) (hover : race.IsOver) :
    race.creations p = 1 ∧ ∃ o? s?, S.Outcome o? s? s.spec ∧
      Log t p S.ns S.name (race.racer !w).said o? s? 0 ∧
        ∃ o, Log t p S.ns S.name (race.racer w).said (some o) none 1 := by
  obtain ⟨result, hresult⟩ := hover w
  have hwinner : ∃ o, Log t p S.ns S.name (race.racer w).said (some o) none 1 := by
    rcases h.winner with ⟨o, status, hat⟩ | ⟨o, _, hat⟩
    · obtain ⟨next, hrecording⟩ := recording_eq (t := t) S.new status
      have hdone := hat.eq_of_done hresult
      rw [hrecording] at hdone
      cases hdone
    · exact ⟨o, hat.log⟩
  obtain ⟨result', hresult'⟩ := hover !w
  have hloser : S.LateOver s (race.racer !w) := by
    refine h.loser.resolve_right fun hlate => ?_
    rcases hlate.1 with ⟨-, hat⟩ | ⟨o, -, -, hat⟩ | ⟨-, -, hat⟩ | ⟨o, -, hat⟩ | ⟨-, -, hat⟩ |
      ⟨o, found, status, -, -, hat⟩
    · have hpass := hat.eq_of_done hresult'
      rw [pass_of_wellFormed S.wellFormed] at hpass
      cases hpass
    · cases hat.eq_of_done hresult'
    · cases hat.eq_of_done hresult'
    · cases hat.eq_of_done hresult'
    · cases hat.eq_of_done hresult'
    · obtain ⟨next, hrecording⟩ := recording_eq o status
      have hdone := hat.eq_of_done hresult'
      rw [hrecording] at hdone
      cases hdone
  obtain ⟨_, o?, s?, houtcome, hat⟩ := hloser
  obtain ⟨o, hlog⟩ := hwinner
  refine ⟨?_, o?, s?, houtcome, hat.log, o, hlog⟩
  rw [race.creations_eq p w, hlog.created, hat.log.created]

end Race

end Setting

end Flow

end ServiceTemplates
