import Mathlib.Data.List.Induction
import Mathlib.Data.List.Infix
import ServiceTemplates.Proofs.Store.Sound
import ServiceTemplates.Proofs.Store.Version

/-!
# Histories of a store

A store is filled from outside and then used by clients, whose calls come in any order. What
a call does to the objects is said once (`Store.answer_cases`); what becomes of an object in
between two calls follows from it by induction on the calls (`Store.leads_after`). As long as
the versions stay within their range they only go up, so that a version names one state of an
object. Main statement: `Store.consistent_along`.
-/

namespace ServiceTemplates

variable {k : Kind}

/-! ## Calls -/

/-- What a client asks of a store. For a creation the store draws an identity. -/
inductive Call (k : Kind) where
  | get (ns : Option String) (name : String)
  | list (ns : Option String) (filter : LabelFilter)
  | create (obj : Object k) (uid : String)
  | update (obj : Object k)
  | updateStatus (obj : Object k)

namespace Call

@[reducible] def Reply : Call k → Type
  | get _ _ => Option (Object k)
  | list _ _ => List (Object k)
  | create _ _ => Except Error (Object k)
  | update _ => Except Error (Object k)
  | updateStatus _ => Except Error (Object k)

/-- The object that is to replace another one. -/
def replacement? : Call k → Option (Object k)
  | update obj => some obj
  | updateStatus obj => some obj
  | _ => none

/-- The object that a call has written; none for a read and for a write that was refused. -/
def written? : (call : Call k) → call.Reply → Option (Object k)
  | create _ _, reply => reply.toOption
  | update _, reply => reply.toOption
  | updateStatus _, reply => reply.toOption
  | _, _ => none

def Refused : (call : Call k) → call.Reply → Prop
  | create _ _, reply => ∃ e, reply = .error e
  | update _, reply => ∃ e, reply = .error e
  | updateStatus _, reply => ∃ e, reply = .error e
  | _, _ => False

end Call

namespace Store

def answer (s : Store k) : (call : Call k) → call.Reply × Store k
  | .get ns name => (s.get? ns name, s)
  | .list ns filter => (s.list ns filter, s)
  | .create obj uid => s.create uid obj
  | .update obj => s.replace obj
  | .updateStatus obj => s.replace obj

/-- A store that was filled from outside, with the identities for objects that have none. -/
def seed (objects : List (Object k × String)) : Store k :=
  objects.foldl (fun s entry => s.put (seeded entry.1 entry.2)) empty

def after (s : Store k) (calls : List (Call k)) : Store k :=
  calls.foldl (fun s call => (s.answer call).2) s

/-- Some calls with the replies that they get. -/
def said (s : Store k) : List (Call k) → List ((call : Call k) × call.Reply)
  | [] => []
  | call :: rest => ⟨call, (s.answer call).1⟩ :: (s.answer call).2.said rest

/-- How many of some calls write. -/
def successes (s : Store k) (calls : List (Call k)) : Nat :=
  (s.said calls).countP fun e => (e.1.written? e.2).isSome

/-- Whether an object stands under each key as it should: it has that key, an identity and a
version. -/
structure Sound (s : Store k) : Prop where
  place : ∀ {key obj}, s.objects.find? key = some obj → obj.place = key
  identified : ∀ {key obj}, s.objects.find? key = some obj → obj.metadata.uid.isSome
  versioned : ∀ {key obj}, s.objects.find? key = some obj → obj.version.isSome

/-- Whether all versions can still be followed by another one. -/
def VersionsInRange (s : Store k) : Prop :=
  ∀ obj ∈ s.all, versionNumber obj.version < 0xFFFFFFFFFFFFFFFF

instance (s : Store k) : Decidable s.VersionsInRange :=
  inferInstanceAs (Decidable (∀ obj ∈ s.all, _))

/-! ## One call -/

/-- What stands under a key is listed. -/
theorem mem_all_of_find? {s : Store k} {key : ObjectKey} {obj : Object k}
    (h : s.objects.find? key = some obj) : obj ∈ s.all :=
  List.mem_map.2 ⟨(key, obj), SortedMap.mem_entries_iff.2 h, rfl⟩

/-- What a write puts into place of what stands there: a new object where there is none, and
otherwise a successor. -/
inductive Puts (s : Store k) (stored : Object k) : Prop
  | created (vacant : s.objects.find? stored.place = none)
      (uid : stored.metadata.uid.isSome) (version : stored.version.isSome)
  | replaced {current : Object k} (found : s.objects.find? stored.place = some current)
      (uid : stored.metadata.uid = current.metadata.uid)
      (version : stored.version = some (nextVersion current.version))

/-- A call leaves the store alone or writes one object. -/
theorem answer_cases (s : Store k) (call : Call k) :
    (call.written? (s.answer call).1 = none ∧ (s.answer call).2 = s) ∨
      ∃ stored, call.written? (s.answer call).1 = some stored ∧
        (s.answer call).2 = s.write stored ∧ s.Puts stored := by
  have hreplace : ∀ obj : Object k,
      ((s.replace obj).1.toOption = none ∧ (s.replace obj).2 = s) ∨
        ∃ stored, (s.replace obj).1.toOption = some stored ∧
          (s.replace obj).2 = s.write stored ∧ s.Puts stored := by
    intro obj
    cases h : s.replace obj with
    | mk reply s' =>
      cases reply with
      | error e => exact Or.inl ⟨rfl, replace_eq_of_error h⟩
      | ok stored =>
        obtain ⟨current, hfound, -, rfl, rfl⟩ := replace_eq_ok_iff.1 h
        exact Or.inr ⟨_, rfl, rfl, .replaced hfound rfl rfl⟩
  cases call with
  | get ns name => exact Or.inl ⟨rfl, rfl⟩
  | list ns filter => exact Or.inl ⟨rfl, rfl⟩
  | update obj => exact hreplace obj
  | updateStatus obj => exact hreplace obj
  | create obj uid =>
    show ((s.create uid obj).1.toOption = none ∧ (s.create uid obj).2 = s) ∨ ∃ stored,
      (s.create uid obj).1.toOption = some stored ∧ (s.create uid obj).2 = s.write stored ∧ _
    cases h : s.objects.find? (.ofMetadata obj.metadata) with
    | some found =>
      rw [create_of_isSome s uid obj (by rw [h]; rfl)]
      exact Or.inl ⟨rfl, rfl⟩
    | none =>
      rw [create_of_isNone s uid obj h]
      exact Or.inr ⟨_, rfl, rfl, .created h rfl rfl⟩

/-- What was written stands in its place, and nothing else has changed. -/
theorem find?_of_written {s : Store k} {call : Call k} {stored : Object k}
    (h : call.written? (s.answer call).1 = some stored) (key : ObjectKey) :
    (s.answer call).2.objects.find? key =
      if key = stored.place then some stored else s.objects.find? key := by
  rcases s.answer_cases call with ⟨hnone, -⟩ | ⟨stored', hstored', hwrite, -⟩
  · rw [hnone] at h
    cases h
  · obtain rfl := Option.some.inj (hstored'.symm.trans h)
    rw [hwrite]
    exact find?_write s stored' key

/-- What a creation finds, if it succeeds. -/
theorem vacant_of_created {s : Store k} {obj stored : Object k} {uid : String}
    (h : (s.create uid obj).1 = .ok stored) :
    stored = stamp obj uid "1" ∧ s.objects.find? obj.place = none := by
  cases hfound : s.objects.find? (.ofMetadata obj.metadata) with
  | some found =>
    rw [create_of_isSome s uid obj (by rw [hfound]; rfl)] at h
    cases h
  | none =>
    rw [create_of_isNone s uid obj hfound] at h
    exact ⟨(Except.ok.inj h).symm, hfound⟩

/-- What a replacement finds, if it succeeds. -/
theorem written_of_replacement {s : Store k} {call : Call k} {obj stored : Object k}
    (hobj : call.replacement? = some obj)
    (hstored : call.written? (s.answer call).1 = some stored) :
    ∃ current, s.objects.find? obj.place = some current ∧ staleness? current obj = none ∧
      stored = successor current obj := by
  have hreplace : (s.replace obj).1.toOption = some stored := by
    cases call with
    | update obj' => exact Option.some.inj hobj ▸ hstored
    | updateStatus obj' => exact Option.some.inj hobj ▸ hstored
    | _ => cases hobj
  cases h : s.replace obj with
  | mk reply s' =>
    rw [h] at hreplace
    cases reply with
    | error e => cases hreplace
    | ok written =>
      obtain rfl : written = stored := Option.some.inj hreplace
      obtain ⟨current, hfound, hfresh, hsucc, -⟩ := replace_eq_ok_iff.1 h
      exact ⟨current, hfound, hfresh, hsucc⟩

/-- A refused call has written nothing. -/
theorem written?_eq_none_of_refused {call : Call k} {reply : call.Reply}
    (h : call.Refused reply) : call.written? reply = none := by
  cases call with
  | get ns name => exact h.elim
  | list ns filter => exact h.elim
  | create obj uid => obtain ⟨e, rfl⟩ := h; rfl
  | update obj => obtain ⟨e, rfl⟩ := h; rfl
  | updateStatus obj => obtain ⟨e, rfl⟩ := h; rfl

/-- A refused call leaves no trace. -/
theorem answer_of_refused {s : Store k} {call : Call k} (h : call.Refused (s.answer call).1) :
    (s.answer call).2 = s := by
  rcases s.answer_cases call with ⟨-, hsame⟩ | ⟨stored, hstored, -⟩
  · exact hsame
  · rw [written?_eq_none_of_refused h] at hstored
    cases hstored

/-- A store stays sound when something with identity and version is put into it. -/
theorem Sound.put {s : Store k} (hs : s.Sound) {obj : Object k} (huid : obj.metadata.uid.isSome)
    (hversion : obj.version.isSome) : (s.put obj).Sound := by
  have hcases : ∀ {key found}, (s.put obj).objects.find? key = some found →
      (key = obj.place ∧ found = obj) ∨ s.objects.find? key = some found := by
    intro key found h
    rw [find?_put] at h
    split at h
    · next hkey => exact Or.inl ⟨hkey, (Option.some.inj h).symm⟩
    · exact Or.inr h
  constructor
  · intro key found h
    rcases hcases h with ⟨rfl, rfl⟩ | h
    · rfl
    · exact hs.place h
  · intro key found h
    rcases hcases h with ⟨rfl, rfl⟩ | h
    · exact huid
    · exact hs.identified h
  · intro key found h
    rcases hcases h with ⟨rfl, rfl⟩ | h
    · exact hversion
    · exact hs.versioned h

/-- What holds of the empty store and is kept by each insertion holds of a store that was
filled from outside. -/
theorem seed_induction {P : Store k → Prop} (hempty : P empty)
    (hput : ∀ s obj uid, P s → P (s.put (seeded obj uid))) (objects : List (Object k × String)) :
    P (seed objects) := by
  unfold seed
  generalize (empty : Store k) = s at hempty
  induction objects generalizing s with
  | nil => exact hempty
  | cons entry objects ih => exact ih _ (hput s entry.1 entry.2 hempty)

/-- A seeded store is sound. -/
theorem sound_seed (objects : List (Object k × String)) : (seed objects).Sound :=
  seed_induction ⟨nofun, nofun, nofun⟩ (fun _ _ _ hs => hs.put rfl rfl) objects

/-- Filling a store does not count as writing. -/
theorem writes_seed (objects : List (Object k × String)) : (seed objects).writes = 0 :=
  seed_induction (P := fun s => s.writes = 0) rfl (fun _ _ _ hs => hs) objects

/-- No call makes a sound store unsound. -/
theorem Sound.answer {s : Store k} (hs : s.Sound) (call : Call k) : (s.answer call).2.Sound := by
  rcases s.answer_cases call with ⟨-, hsame⟩ | ⟨stored, -, hwrite, hputs⟩
  · rw [hsame]
    exact hs
  · rw [hwrite]
    cases hputs with
    | created _ uid version =>
      have hput := hs.put uid version
      exact ⟨hput.place, hput.identified, hput.versioned⟩
    | replaced found uid version =>
      have hput := hs.put (uid ▸ hs.identified found) (version ▸ rfl)
      exact ⟨hput.place, hput.identified, hput.versioned⟩

/-! ## What becomes of an object -/

/-- Whether each object of `s` is still there in `s'`, or an object of the same identity with
a later version stands in its place. -/
def Leads (s s' : Store k) : Prop :=
  ∀ key obj, s.objects.find? key = some obj → ∃ obj', s'.objects.find? key = some obj' ∧
    obj'.metadata.uid = obj.metadata.uid ∧
    (obj' = obj ∨ versionNumber obj.version < versionNumber obj'.version)

theorem Leads.refl (s : Store k) : s.Leads s := fun _ obj h => ⟨obj, h, rfl, Or.inl rfl⟩

/-- What becomes of an object in two stages becomes of it in one. -/
theorem Leads.trans {s₁ s₂ s₃ : Store k} (h₁₂ : s₁.Leads s₂) (h₂₃ : s₂.Leads s₃) :
    s₁.Leads s₃ := by
  intro key obj hobj
  obtain ⟨obj', hobj', huid, hlater⟩ := h₁₂ key obj hobj
  obtain ⟨obj'', hobj'', huid', hlater'⟩ := h₂₃ key obj' hobj'
  refine ⟨obj'', hobj'', huid'.trans huid, ?_⟩
  rcases hlater with rfl | hlt
  · exact hlater'
  · rcases hlater' with rfl | hlt'
    · exact Or.inr hlt
    · exact Or.inr (hlt.trans hlt')

/-- Below the greatest number the next version has a greater one. -/
theorem versionNumber_lt_of_next {current : Option String}
    (h : versionNumber current < 0xFFFFFFFFFFFFFFFF) :
    versionNumber current < versionNumber (some (nextVersion current)) := by
  rcases versionNumber_nextVersion current with hnext | ⟨-, hlimit⟩
  · omega
  · omega

/-- **A call leaves an object as it is or moves its version on.** -/
theorem leads_answer {s : Store k} (hrange : s.VersionsInRange) (call : Call k) :
    s.Leads (s.answer call).2 := by
  rcases s.answer_cases call with ⟨-, hsame⟩ | ⟨stored, -, hwrite, hputs⟩
  · rw [hsame]
    exact .refl s
  · rw [hwrite]
    intro key obj hobj
    rw [find?_write]
    split
    · next hkey =>
      refine ⟨stored, rfl, ?_⟩
      cases hputs with
      | created vacant => exact nomatch (hkey ▸ hobj).symm.trans vacant
      | replaced found uid version =>
        obtain rfl := Option.some.inj ((hkey ▸ hobj).symm.trans found)
        refine ⟨uid, Or.inr ?_⟩
        rw [version]
        exact versionNumber_lt_of_next (hrange _ (mem_all_of_find? hobj))
    · exact ⟨obj, hobj, rfl, Or.inl rfl⟩

/-- An object whose version is seen again has not been written in between. -/
theorem Leads.eq_of_version {s₁ s₂ s₃ : Store k} (h₁₂ : s₁.Leads s₂) (h₂₃ : s₂.Leads s₃)
    {key : ObjectKey} {obj obj' : Object k} (hobj : s₁.objects.find? key = some obj)
    (hobj' : s₃.objects.find? key = some obj') (hversion : obj'.version = obj.version) :
    s₂.objects.find? key = some obj := by
  obtain ⟨middle, hmiddle, -, hlater⟩ := h₁₂ key obj hobj
  obtain ⟨last, hlast, -, hlater'⟩ := h₂₃ key middle hmiddle
  obtain rfl := Option.some.inj (hobj'.symm.trans hlast)
  rcases hlater with rfl | hlt
  · exact hmiddle
  · rcases hlater' with rfl | hlt'
    · rw [hversion] at hlt
      exact absurd hlt (lt_irrefl _)
    · rw [hversion] at hlt'
      exact absurd (hlt.trans hlt') (lt_irrefl _)

/-! ## Some calls -/

section Calls

variable {s : Store k} {calls : List (Call k)}

/-- The last call is made where the others have led. -/
theorem after_snoc (s : Store k) (past : List (Call k)) (call : Call k) :
    s.after (past ++ [call]) = ((s.after past).answer call).2 := by
  rw [after, List.foldl_append]
  rfl

/-- The last reply comes after all others. -/
theorem said_snoc (s : Store k) (past : List (Call k)) (call : Call k) :
    s.said (past ++ [call]) = s.said past ++ [⟨call, ((s.after past).answer call).1⟩] := by
  induction past generalizing s with
  | nil => rfl
  | cons first past ih =>
    show _ :: (s.answer first).2.said (past ++ [call]) = _
    rw [ih]
    rfl

theorem Sound.after (hs : s.Sound) (calls : List (Call k)) : (s.after calls).Sound := by
  induction calls generalizing s with
  | nil => exact hs
  | cons call calls ih => exact ih (hs.answer call)

/-- The writes are counted. -/
theorem writes_after (s : Store k) (calls : List (Call k)) :
    (s.after calls).writes = s.writes + s.successes calls := by
  induction calls using List.reverseRecOn with
  | nil => rfl
  | append_singleton past call ih =>
    rw [after_snoc, successes, said_snoc, List.countP_append, ← Nat.add_assoc, ← successes, ← ih]
    rcases (s.after past).answer_cases call with ⟨hnone, hsame⟩ | ⟨stored, hstored, hwrite, -⟩
    · simp [hnone, hsame]
    · simp [hstored, hwrite, write, put]

/-- Objects live on from any point of a history to any later one. -/
theorem leads_after {earlier later : List (Call k)} (h : earlier <+: later)
    (hrange : ∀ past, past <+: later → (s.after past).VersionsInRange) :
    (s.after earlier).Leads (s.after later) := by
  induction later using List.reverseRecOn with
  | nil =>
    obtain rfl := List.prefix_nil.1 h
    exact .refl _
  | append_singleton past call ih =>
    rcases List.prefix_concat_iff.1 h with rfl | h
    · exact .refl _
    · have hpast : past <+: past ++ [call] := List.prefix_append past [call]
      rw [after_snoc]
      exact (ih h fun past' h' => hrange past' (h'.trans hpast)).trans
        (leads_answer (hrange past hpast) call)

end Calls

/-! ## Whole histories -/

/-- What clients can rely on while they make some calls. -/
structure ConsistentAlong (s : Store k) (calls : List (Call k)) : Prop where
  /-- Every object stands under its own key and has an identity and a version. -/
  sound : ∀ past, past <+: calls → (s.after past).Sound
  /-- What stands under a key stays there, or something of the same identity does. -/
  identity : ∀ earlier later, earlier <+: later → later <+: calls → ∀ key obj,
    (s.after earlier).objects.find? key = some obj →
      ∃ obj', (s.after later).objects.find? key = some obj' ∧
        obj'.metadata.uid = obj.metadata.uid
  /-- A version that is seen twice under a key has stood there unchanged all the time. -/
  norepeat : ∀ earlier between later, earlier <+: between → between <+: later →
    later <+: calls → ∀ key obj obj', (s.after earlier).objects.find? key = some obj →
      (s.after later).objects.find? key = some obj' → obj'.version = obj.version →
        (s.after between).objects.find? key = some obj
  /-- What a look-up is told is what stands there. -/
  read : ∀ past ns name, past ++ [.get ns name] <+: calls →
    ((s.after past).answer (.get ns name)).1 = (s.after past).objects.find? ⟨ns.getD "", name⟩
  /-- What a call says that it has written stands in its place afterwards, and under every other
  key what stood there before. -/
  written : ∀ past call, past ++ [call] <+: calls → ∀ stored,
    call.written? ((s.after past).answer call).1 = some stored →
      (s.after (past ++ [call])).objects.find? stored.place = some stored ∧
      ∀ key, key ≠ stored.place →
        (s.after (past ++ [call])).objects.find? key = (s.after past).objects.find? key
  /-- What is created is what was asked for, where nothing stood. -/
  created : ∀ past obj uid, past ++ [.create obj uid] <+: calls → ∀ stored,
    ((s.after past).answer (.create obj uid)).1 = .ok stored →
      stored = stamp obj uid "1" ∧ (s.after past).objects.find? obj.place = none
  /-- What replaces an object has the contents that were asked for, the identity of what stood
  there and the next version. -/
  contents : ∀ past call, past ++ [call] <+: calls → ∀ obj stored,
    call.replacement? = some obj → call.written? ((s.after past).answer call).1 = some stored →
      ∃ current, (s.after past).objects.find? obj.place = some current ∧
        stored = successor current obj
  /-- What replaces an object under the name of its version replaces just that object, and
  whoever has seen the version has missed nothing. -/
  replaced : ∀ past call, past ++ [call] <+: calls → ∀ obj stored,
    call.replacement? = some obj → obj.version.isSome →
      call.written? ((s.after past).answer call).1 = some stored →
        ∃ current, (s.after past).objects.find? obj.place = some current ∧
          current.version = obj.version ∧ stored = successor current obj ∧
          ∀ earlier between, earlier <+: between → between <+: past → ∀ seen,
            (s.after earlier).objects.find? obj.place = some seen →
              seen.version = obj.version →
                seen = current ∧ (s.after between).objects.find? obj.place = some current
  /-- A refused call changes neither the objects nor the count of writes. -/
  refused : ∀ past call, past ++ [call] <+: calls →
    call.Refused ((s.after past).answer call).1 → s.after (past ++ [call]) = s.after past
  /-- The writes that are counted are the creations and the replacements that succeeded. -/
  counted : ∀ past, past <+: calls → (s.after past).writes = s.successes past

/-- **A store is consistent whatever its clients do.** Let a store be filled from outside and
then used by any calls, in any order, as long as the versions stay within their range. -/
theorem consistent_along (objects : List (Object k × String)) (calls : List (Call k))
    (hrange : ∀ past, past <+: calls → ((seed objects).after past).VersionsInRange) :
    (seed objects).ConsistentAlong calls := by
  have hleads : ∀ earlier later, earlier <+: later → later <+: calls →
      ((seed objects).after earlier).Leads ((seed objects).after later) :=
    fun earlier later h hlater => leads_after h fun past hpast => hrange past (hpast.trans hlater)
  constructor
  case sound => exact fun past _ => (sound_seed objects).after past
  case identity =>
    intro earlier later h hlater key obj hobj
    obtain ⟨obj', hobj', huid, -⟩ := hleads earlier later h hlater key obj hobj
    exact ⟨obj', hobj', huid⟩
  case norepeat =>
    intro earlier between later h h' hlater key obj obj' hobj hobj' hversion
    exact (hleads _ _ h (h'.trans hlater)).eq_of_version (hleads _ _ h' hlater) hobj hobj' hversion
  case read => exact fun _ _ _ _ => rfl
  case written =>
    intro past call _ stored hstored
    rw [after_snoc]
    have hfind := find?_of_written hstored
    refine ⟨(hfind stored.place).trans (if_pos rfl), fun key hkey => ?_⟩
    exact (hfind key).trans (if_neg hkey)
  case created => exact fun past obj uid _ stored hstored => vacant_of_created hstored
  case contents =>
    intro past call _ obj stored hobj hstored
    obtain ⟨current, hcurrent, -, hsucc⟩ := written_of_replacement hobj hstored
    exact ⟨current, hcurrent, hsucc⟩
  case replaced =>
    intro past call hcall obj stored hobj hversioned hstored
    have hpast : past <+: calls := (List.prefix_append past [call]).trans hcall
    obtain ⟨current, hcurrent, hfresh, hsucc⟩ := written_of_replacement hobj hstored
    have hversion := (Cluster.staleness?_eq_none_iff hversioned).1 hfresh
    refine ⟨current, hcurrent, hversion, hsucc, ?_⟩
    intro earlier between h h' seen hseen hsame
    -- What carries the version at both ends has stood there all the time.
    have hunchanged : ∀ middle, earlier <+: middle → middle <+: past →
        ((seed objects).after middle).objects.find? obj.place = some seen := fun middle h h' =>
      (hleads _ _ h (h'.trans hpast)).eq_of_version (hleads _ _ h' hpast) hseen hcurrent
        (hversion.trans hsame.symm)
    obtain rfl := Option.some.inj ((hunchanged past (h.trans h') (List.prefix_refl past)).symm.trans
      hcurrent)
    exact ⟨rfl, hunchanged between h h'⟩
  case refused =>
    intro past call _ hrefused
    rw [after_snoc]
    exact answer_of_refused hrefused
  case counted =>
    intro past _
    rw [writes_after, writes_seed, Nat.zero_add]

/-- A version that is no number counts as zero. Of two replacements in its name the second is
refused and leaves the contents of the first in place; one that names no version is not. -/
theorem consistent_along_odd_version :
    let obj (version : Option String) (externalId : String) : TemplatedInstance :=
      { metadata := { name := some "db", ns := some "default", resourceVersion := version }
        spec := { externalId := externalId } }
    let s : Store .templatedInstance := seed [(obj (some "first") "old", "u-1")]
    let replacements : List (Call .templatedInstance) :=
      [.update (obj (some "first") "one"), .update (obj (some "first") "two")]
    let calls := replacements ++ [.updateStatus (obj none "three"), .create (obj none "four") "u-2"]
    let shown (s : Store .templatedInstance) :=
      (s.objects.find? ⟨"default", "db"⟩).map fun o =>
        (o.metadata.uid, o.version, TemplatedInstanceSpec.externalId o.spec)
    s.ConsistentAlong calls ∧ (s.after calls).writes = 2 ∧
      shown (s.after replacements) = some (some "u-1", some "1", "one") ∧
      shown (s.after calls) = some (some "u-1", some "2", "three") := by
  intro obj s replacements calls shown
  have hrange : ∀ past ∈ calls.inits, (s.after past).VersionsInRange := by decide +kernel
  have hconsistent : s.ConsistentAlong calls :=
    consistent_along _ calls fun past hpast => hrange past (List.mem_inits past calls |>.2 hpast)
  refine ⟨hconsistent, ?_, by decide +kernel, by decide +kernel⟩
  have hsuccesses : s.successes calls = 2 := by decide +kernel
  rw [hconsistent.counted calls (List.prefix_refl calls), hsuccesses]

end Store

end ServiceTemplates
