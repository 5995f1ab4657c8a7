import ServiceTemplates.Proofs.Json.Path
import ServiceTemplates.Proofs.Template.Tiers

/-!
# Which tier a parameter comes from

The parameter documents of several tiers are merged from the broadest to the narrowest.
Path by path the last document that decides the path has the final word: it supplies the
value that is no object, it makes an object stand there, or it cuts the path off so that
nothing of a broader tier comes back below. Main statement: `mergeAll_precedence`.
-/

namespace ServiceTemplates

/-- Parameter documents merged from the first to the last. -/
def mergeAll (docs : List Document) : Except Error (Option Document) :=
  docs.foldlM (fun merged d => mergeParameters merged (some d)) none

/-- Whether `d` is the last of some documents that decides a path. -/
def LastDeciding (docs : List Document) (path : List String) (d : Document) : Prop :=
  ∃ before after, docs = before ++ d :: after ∧ d.json.Decides path ∧
    ∀ e ∈ after, ¬ e.json.Decides path

theorem lastDeciding_iff {docs : List Document} {path : List String} {d : Document} :
    LastDeciding docs path d ↔ LastWith (·.json.Decides path) docs d := Iff.rfl

/-! ## One document more -/

theorem mergeAll_append_singleton (docs : List Document) (d : Document) :
    mergeAll (docs ++ [d]) = (mergeAll docs).bind fun merged => mergeParameters merged (some d) := by
  simp only [mergeAll, List.foldlM_append, List.foldlM_cons, List.foldlM_nil]
  cases docs.foldlM (fun merged d => mergeParameters merged (some d)) none with
  | error e => rfl
  | ok merged => cases h : mergeParameters merged (some d) <;> simp [bind, Except.bind, h]; rfl

theorem lastDeciding_append_singleton {docs : List Document} {path : List String}
    {d e : Document} :
    LastDeciding (docs ++ [d]) path e ↔
      (d.json.Decides path ∧ e = d) ∨ (¬ d.json.Decides path ∧ LastDeciding docs path e) := by
  rw [lastDeciding_iff, lastWith_append_singleton, lastDeciding_iff]

/-! ## The invariant of the fold -/

/-- The merge of some documents shows at the end of a path what the last one that decides
the path shows, and nothing if none decides it. -/
structure ShowsLast (docs : List Document) (path : List String) (merged : Document) : Prop where
  isObject : merged.json.isObject
  decided : ∀ d, LastDeciding docs path d → Json.sight path merged.json = Json.sight path d.json
  undecided : (∀ d ∈ docs, ¬ d.json.Decides path) → Json.sight path merged.json = none

theorem showsLast_singleton {d : Document} (hd : d.json.isObject) (path : List String) :
    ShowsLast [d] path d where
  isObject := hd
  decided e he := by
    have he : LastDeciding ([] ++ [d]) path e := he
    obtain ⟨-, rfl⟩ | ⟨-, before, after, h, -⟩ := lastDeciding_append_singleton.1 he
    · rfl
    · simp at h
  undecided h := Json.sight_eq_none_of_not_decides (h d (by simp))

theorem ShowsLast.overlay {docs : List Document} {path : List String} {merged d : Document}
    (h : ShowsLast docs path merged) (hd : d.json.isObject) :
    ShowsLast (docs ++ [d]) path (merged.overlay d) where
  isObject := (Json.isObject_overlay _ _).trans hd
  decided e he := by
    obtain ⟨hyes, hno⟩ := Json.sight_overlay merged.json hd path
    rcases lastDeciding_append_singleton.1 he with ⟨hdec, rfl⟩ | ⟨hdec, he⟩
    · exact hyes hdec
    · exact (hno hdec).trans (h.decided e he)
  undecided hnone := by
    obtain ⟨-, hno⟩ := Json.sight_overlay merged.json hd path
    refine (hno (hnone d (by simp))).trans (h.undecided fun e he => hnone e ?_)
    exact List.mem_append_left _ he

/-- Documents that are objects can always be merged, and the merge keeps the invariant. -/
theorem mergeAll_showsLast {docs : List Document} (hne : docs ≠ [])
    (hobj : ∀ d ∈ docs, d.json.isObject) (path : List String) :
    ∃ merged, mergeAll docs = .ok (some merged) ∧ ShowsLast docs path merged := by
  -- From the end of the list, since the last document decides and is merged last.
  induction docs using List.reverseRecOn with
  | nil => exact absurd rfl hne
  | append_singleton docs d ih =>
    have hd : d.json.isObject := hobj d (by simp)
    rcases eq_or_ne docs [] with rfl | hdocs
    · exact ⟨d, rfl, showsLast_singleton hd path⟩
    · obtain ⟨merged, hmerged, hlast⟩ := ih hdocs fun e he => hobj e (List.mem_append_left _ he)
      refine ⟨merged.overlay d, ?_, hlast.overlay hd⟩
      rw [mergeAll_append_singleton, hmerged]
      exact mergeParameters_of_isObject hlast.isObject hd

/-! ## Precedence -/

theorem LastDeciding.mem {docs : List Document} {path : List String} {d : Document}
    (h : LastDeciding docs path d) : d ∈ docs :=
  (lastDeciding_iff.1 h).mem

/-- Unless no document decides a path, there is a last one that does. -/
theorem exists_lastDeciding (docs : List Document) (path : List String) :
    (∀ d ∈ docs, ¬ d.json.Decides path) ∨ ∃ d, LastDeciding docs path d :=
  exists_lastWith (·.json.Decides path) docs

/-- What is seen of the merge, put in terms of the last document that decides the path. -/
theorem ShowsLast.sight_eq_some_iff {docs : List Document} {path : List String}
    {merged : Document} (h : ShowsLast docs path merged) (shown : Option Json) :
    Json.sight path merged.json = some shown ↔
      ∃ d, LastDeciding docs path d ∧ Json.sight path d.json = some shown := by
  constructor
  · intro hshown
    rcases exists_lastDeciding docs path with hnone | ⟨d, hd⟩
    · rw [h.undecided hnone] at hshown
      cases hshown
    · exact ⟨d, hd, (h.decided d hd).symm.trans hshown⟩
  · rintro ⟨d, hd, hshown⟩
    exact (h.decided d hd).trans hshown

/-- **The last tier that decides a path has the final word.** Objects can be merged in any
number, and then: a value that is no object stands at the end of a path of the merge
exactly if the last document that decides the path has it there; an object stands there
exactly if the last one has an object there; and nothing stands there exactly if no
document decides the path or the last one that does cuts it off. -/
theorem mergeAll_precedence {docs : List Document} (hne : docs ≠ [])
    (hobj : ∀ d ∈ docs, d.json.isObject) (path : List String) :
    ∃ merged, mergeAll docs = .ok (some merged) ∧
      (∀ v, ¬ v.isObject →
        (merged.json.at? path = some v ↔
          ∃ d, LastDeciding docs path d ∧ d.json.at? path = some v)) ∧
      ((∃ v, merged.json.at? path = some v ∧ v.isObject) ↔
        ∃ d, LastDeciding docs path d ∧ ∃ v, d.json.at? path = some v ∧ v.isObject) ∧
      (merged.json.at? path = none ↔
        (∀ d ∈ docs, ¬ d.json.Decides path) ∨
          ∃ d, LastDeciding docs path d ∧ d.json.CutsOff path) := by
  obtain ⟨merged, hmerged, hlast⟩ := mergeAll_showsLast hne hobj path
  refine ⟨merged, hmerged, fun v hv => ?_, ?_, ?_⟩
  · have hleaf := hlast.sight_eq_some_iff (some v)
    simp only [Json.sight_eq_leaf_iff, and_iff_left hv] at hleaf
    exact hleaf
  · simpa only [Json.sight_eq_object_iff] using hlast.sight_eq_some_iff none
  · rw [← Json.sight_eq_none_iff]
    constructor
    · intro hnone
      rcases exists_lastDeciding docs path with h | ⟨d, hd⟩
      · exact Or.inl h
      · obtain ⟨-, -, -, hdec, -⟩ := id hd
        refine Or.inr ⟨d, hd, (Json.cutsOff_iff_of_decides (hobj d hd.mem) hdec).2 ?_⟩
        exact Json.sight_eq_none_iff.1 ((hlast.decided d hd).symm.trans hnone)
    · rintro (h | ⟨d, hd, hcut⟩)
      · exact hlast.undecided h
      · obtain ⟨-, -, -, hdec, -⟩ := id hd
        refine (hlast.decided d hd).trans (Json.sight_eq_none_iff.2 ?_)
        exact (Json.cutsOff_iff_of_decides (hobj d hd.mem) hdec).1 hcut

/-- What a middle tier cuts off does not come back when a narrower tier puts an object
there again. -/
theorem mergeAll_precedence_cut_off :
    let broad := Document.ofJson (.ofFields [("a", .ofFields [("b", .ofInt 1)])])
    let middle := Document.ofJson (.ofFields [("a", .ofInt 5)])
    let narrow := Document.ofJson (.ofFields [("a", .ofFields [("c", .ofInt 2)])])
    [broad, middle, narrow] ≠ [] ∧ (∀ d ∈ [broad, middle, narrow], d.json.isObject) ∧
      LastDeciding [broad, middle, narrow] ["a", "b"] middle ∧
      ∃ merged, mergeAll [broad, middle, narrow] = .ok (some merged) ∧
        merged.json.at? ["a", "b"] = none := by
  intro broad middle narrow
  have hobj : ∀ d ∈ [broad, middle, narrow], d.json.isObject := by decide
  have hcut : middle.json.CutsOff ["a", "b"] :=
    ⟨["a"], .ofInt 5, by decide, by decide, by decide, by decide, by decide⟩
  have hnarrow : ¬ narrow.json.Decides ["a", "b"] := by
    have hjson : narrow.json = .object [("a", .object [("c", .ofInt 2)])] := by decide
    rw [hjson, Json.decides_iff_settles rfl, Json.settles_object_cons]
    rintro ⟨v, hv, hsettles⟩
    obtain rfl : Json.object [("c", .ofInt 2)] = v := Option.some.inj hv
    obtain ⟨w, hw, -⟩ := Json.settles_object_cons.1 hsettles
    have hnone : Entries.find? "b" [("c", Json.ofInt 2)] = none := by decide
    exact nomatch hnone.symm.trans hw
  have hlast : LastDeciding [broad, middle, narrow] ["a", "b"] middle :=
    ⟨[broad], [narrow], rfl, Or.inr hcut, by simpa using hnarrow⟩
  obtain ⟨merged, hmerged, -, -, hnone⟩ :=
    mergeAll_precedence (List.cons_ne_nil broad [middle, narrow]) hobj ["a", "b"]
  exact ⟨List.cons_ne_nil _ _, hobj, hlast, merged, hmerged, hnone.2 (Or.inr ⟨middle, hlast, hcut⟩)⟩

end ServiceTemplates
