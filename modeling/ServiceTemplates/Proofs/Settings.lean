import ServiceTemplates.Proofs.Text.Casing
import ServiceTemplates.Proofs.Text.Numeral
import ServiceTemplates.Settings

/-!
# What settings follow from

A number is what its text denotes within the range of the setting, and its default if there is no
such number; a truth value is what its text says in one of eight words, in any case. A truth value
whose text is none of the words is false, and that is its default only if the default is false: a
misspelled text switches metrics off. Main statement: `ofLookup_followsText`.
-/

namespace ServiceTemplates

/-! ## Spellings -/

def SpellsNumber (bound : Nat) (s : String) (n : Nat) : Prop := Text.Denotes s n ∧ n < bound

/-- Whether a text spells a number of objects that are looked at at a time, of which there is
always one. -/
def SpellsThreads (s : String) (threads : Nat) : Prop :=
  ∃ n, SpellsNumber (2 ^ 64) s n ∧ threads = Nat.max 1 n

def truthWords : Bool → List String
  | true => ["true", "1", "yes", "on"]
  | false => ["false", "0", "no", "off"]

def SpellsTruth (s : String) (b : Bool) : Prop :=
  ∃ word ∈ truthWords b, Text.IsWordInAnyCase word s

theorem isPlainSmall_of_truthWords (b : Bool) :
    ∀ word ∈ truthWords b, ∀ w ∈ word.toList, Text.IsPlainSmall w := by
  have hall : ((truthWords b).all fun word => word.toList.all (Text.IsPlainSmall ·)) = true := by
    cases b <;> decide +kernel
  simpa using hall

theorem spellsTruth_iff {s : String} {b : Bool} :
    SpellsTruth s b ↔ Text.lowerCase s ∈ truthWords b := by
  have hplain := isPlainSmall_of_truthWords b
  constructor
  · rintro ⟨word, hword, hs⟩
    rwa [(Text.lowerCase_eq_iff (hplain word hword) s).2 hs]
  · intro hs
    exact ⟨_, hs, (Text.lowerCase_eq_iff (hplain _ hs) s).1 rfl⟩

/-! ## Following a text -/

/-- What a setting has to be: the value that its text spells, or else, if there is no text or it
spells nothing, the default. -/
structure FollowsText {α : Type} (Spells : String → α → Prop) (text : Option String)
    (fallback value : α) : Prop where
  of_spelling : ∀ s v, text = some s → Spells s v → value = v
  of_no_spelling : (∀ s v, text = some s → ¬ Spells s v) → value = fallback

namespace FollowsText

variable {α : Type} {Spells : String → α → Prop}

/-- A setting follows its text if that is read exactly where it spells something. -/
theorem of_reader {read : String → Option α} (h : ∀ s v, read s = some v ↔ Spells s v)
    (text : Option String) (fallback : α) :
    FollowsText Spells text fallback ((text.bind read).getD fallback) where
  of_spelling := by
    rintro s v rfl hv
    rw [Option.bind_some, (h s v).2 hv, Option.getD_some]
  of_no_spelling := by
    intro hnone
    have hread : text.bind read = none := by
      apply Option.eq_none_iff_forall_ne_some.2
      intro v hv
      obtain ⟨s, hs, hv⟩ := Option.bind_eq_some_iff.1 hv
      exact hnone s v hs ((h s v).1 hv)
    rw [hread, Option.getD_none]

/-- What is made of a setting follows the text as the setting does. -/
theorem map {text : Option String} {fallback value : α} (h : FollowsText Spells text fallback value)
    {β : Type} (f : α → β) :
    FollowsText (fun s w => ∃ v, Spells s v ∧ w = f v) text (f fallback) (f value) where
  of_spelling := by
    rintro s _ hs ⟨v, hv, rfl⟩
    rw [h.of_spelling s v hs hv]
  of_no_spelling := by
    intro hnone
    rw [h.of_no_spelling fun s v hs hv => hnone s (f v) hs ⟨v, hv, rfl⟩]

end FollowsText

variable (lookup : Lookup) (name : String)

theorem numberSetting_followsText (bound fallback : Nat) :
    FollowsText (SpellsNumber bound) (lookup name) fallback
      (numberSetting lookup name bound fallback) :=
  .of_reader (fun _ _ => Text.numeral?_trim_eq_some_iff) (lookup name) fallback

/-! ## Truth values -/

variable {lookup name} {s : String}

theorem flagSetting_eq_true_iff (h : lookup name = some s) (fallback : Bool) :
    flagSetting lookup name fallback = true ↔ SpellsTruth s true := by
  rw [spellsTruth_iff, flagSetting, h]
  simp [truthWords]

theorem flagSetting_of_spelling {b : Bool} (h : lookup name = some s) (hb : SpellsTruth s b)
    (fallback : Bool) : flagSetting lookup name fallback = b := by
  cases b with
  | true => exact (flagSetting_eq_true_iff h fallback).2 hb
  | false =>
    rw [Bool.eq_false_iff, Ne, flagSetting_eq_true_iff h]
    intro htrue
    -- No word stands for both truth values.
    have hdisjoint : ∀ word ∈ truthWords true, word ∉ truthWords false := by decide
    exact hdisjoint _ (spellsTruth_iff.1 htrue) (spellsTruth_iff.1 hb)

/-- A truth value is false where its text is none of the words. -/
theorem flagSetting_of_no_spelling (h : lookup name = some s) (hs : ∀ b, ¬ SpellsTruth s b)
    (fallback : Bool) : flagSetting lookup name fallback = false := by
  rw [Bool.eq_false_iff, Ne, flagSetting_eq_true_iff h]
  exact hs true

/-- A truth value follows its text, unless it is true by default and the text is none of the
words. -/
theorem flagSetting_followsText_iff {fallback : Bool} :
    FollowsText SpellsTruth (lookup name) fallback (flagSetting lookup name fallback) ↔
      (fallback = true → ∀ s, lookup name = some s → ∃ b, SpellsTruth s b) := by
  constructor
  · rintro h rfl s hs
    by_contra hnone
    rw [not_exists] at hnone
    -- The default would be true, and a text that spells nothing is taken for false.
    have htrue := h.of_no_spelling fun s' b hs' => by
      obtain rfl := Option.some.inj (hs.symm.trans hs')
      exact hnone b
    rw [flagSetting_of_no_spelling hs hnone] at htrue
    cases htrue
  · intro h
    refine ⟨fun s b hs hb => flagSetting_of_spelling hs hb fallback, fun hnone => ?_⟩
    cases htext : lookup name with
    | none => rw [flagSetting, htext]
    | some s =>
      have hs : ∀ b, ¬ SpellsTruth s b := fun b => hnone s b htext
      rw [flagSetting_of_no_spelling htext hs]
      cases fallback with
      | false => rfl
      | true =>
        obtain ⟨b, hb⟩ := h rfl s htext
        exact absurd hb (hs b)

/-! ## All settings -/

/-- **Settings follow their texts**, with one exception: metrics are on by default, and they are
switched off by every text that is none of the words for a truth value. -/
theorem ofLookup_followsText (lookup : Lookup) :
    let settings := ControllerSettings.ofLookup lookup
    let server := ServerSettings.ofLookup lookup
    let standard : ControllerSettings := {}
    let serverStandard : ServerSettings := {}
    let number := SpellsNumber (2 ^ 64)
    FollowsText SpellsThreads (lookup "WORKER_THREADS") standard.workerThreads
      settings.workerThreads ∧
    FollowsText number (lookup "BACKOFF_START_MS") standard.backoffStart settings.backoffStart ∧
    FollowsText number (lookup "BACKOFF_MAX_MS") standard.backoffMax settings.backoffMax ∧
    FollowsText number (lookup "CACHE_SYNC_TIMEOUT_SECS") standard.cacheSyncTimeout
      settings.cacheSyncTimeout ∧
    FollowsText number (lookup "RESYNC_PERIOD_SECS") standard.resyncPeriod settings.resyncPeriod ∧
    FollowsText (SpellsNumber (2 ^ 16)) (lookup "METRICS_PORT") serverStandard.socket
      server.socket ∧
    FollowsText number (lookup "SERVER_STARTUP_TIMEOUT_SECS") serverStandard.startupTimeout
      server.startupTimeout ∧
    FollowsText number (lookup "SERVER_POLL_INTERVAL_MS") serverStandard.pollInterval
      server.pollInterval ∧
    FollowsText SpellsTruth (lookup "LOG_ENABLE_COLOR") standard.logColor settings.logColor ∧
    (FollowsText SpellsTruth (lookup "ENABLE_METRICS") standard.enableMetrics
        settings.enableMetrics ↔
      ∀ s, lookup "ENABLE_METRICS" = some s → ∃ b, SpellsTruth s b) ∧
    (∀ s, lookup "ENABLE_METRICS" = some s → (∀ b, ¬ SpellsTruth s b) →
      settings.enableMetrics = false) := by
  intro settings server standard serverStandard number
  refine ⟨?_, numberSetting_followsText .., numberSetting_followsText ..,
    numberSetting_followsText .., numberSetting_followsText .., numberSetting_followsText ..,
    numberSetting_followsText .., numberSetting_followsText .., ?_, ?_, ?_⟩
  · exact (numberSetting_followsText lookup "WORKER_THREADS" (2 ^ 64) 2).map (Nat.max 1)
  · exact flagSetting_followsText_iff.2 fun h => nomatch h
  · exact flagSetting_followsText_iff.trans ⟨fun h => h rfl, fun h _ => h⟩
  · exact fun s hs hnone => flagSetting_of_no_spelling hs hnone true

/-- Metrics are off for someone who asks for them in a word that is not among the eight. -/
theorem ofLookup_metrics_misspelled :
    let lookup : Lookup := fun name => if name = "ENABLE_METRICS" then some "enabled" else none
    let standard : ControllerSettings := {}
    (∀ b, ¬ SpellsTruth "enabled" b) ∧ standard.enableMetrics = true ∧
      (ControllerSettings.ofLookup lookup).enableMetrics = false ∧
      ¬ FollowsText SpellsTruth (lookup "ENABLE_METRICS") standard.enableMetrics
        (ControllerSettings.ofLookup lookup).enableMetrics := by
  intro lookup standard
  have hnone : ∀ b, ¬ SpellsTruth "enabled" b := by
    intro b
    rw [spellsTruth_iff]
    cases b <;> decide +kernel
  have htext : lookup "ENABLE_METRICS" = some "enabled" := rfl
  have hoff : (ControllerSettings.ofLookup lookup).enableMetrics = false :=
    flagSetting_of_no_spelling htext hnone true
  refine ⟨hnone, rfl, hoff, ?_⟩
  intro h
  obtain ⟨b, hb⟩ := flagSetting_followsText_iff.1 h rfl "enabled" htext
  exact hnone b hb

end ServiceTemplates
