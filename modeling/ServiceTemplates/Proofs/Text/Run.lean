/-!
# Runs of characters

A text that begins with a run of characters of one sort is divided where the run ends, and only
there. Main statements: `dropWhile_append_of_endsRun`, `append_inj_of_endsRun` and
`append_mark_inj`.
-/

namespace ServiceTemplates

/-- Whether a text is empty or goes on with a character that `p` excludes. -/
def EndsRun (p : Char → Bool) (rest : List Char) : Prop := ∀ c, rest.head? = some c → p c = false

theorem endsRun_nil (p : Char → Bool) : EndsRun p [] := fun _ h => nomatch h

theorem endsRun_cons {p : Char → Bool} {c : Char} (hc : p c = false) (rest : List Char) :
    EndsRun p (c :: rest) := by
  rintro c' ⟨⟩
  exact hc

variable {p : Char → Bool} {a a' r r' : List Char}

theorem dropWhile_append_of_endsRun (ha : ∀ c ∈ a, p c) (hr : EndsRun p r) :
    (a ++ r).dropWhile p = r := by
  rw [List.dropWhile_append_of_pos ha]
  cases r with
  | nil => rfl
  | cons c r => rw [List.dropWhile_cons_of_neg (by simp [hr c rfl])]

/-- A run of characters ends where the first other one stands. -/
theorem append_inj_of_endsRun (ha : ∀ c ∈ a, p c) (ha' : ∀ c ∈ a', p c) (hr : EndsRun p r)
    (hr' : EndsRun p r') (h : a ++ r = a' ++ r') : a = a' ∧ r = r' := by
  have hrest := congrArg (List.dropWhile p) h
  rw [dropWhile_append_of_endsRun ha hr, dropWhile_append_of_endsRun ha' hr'] at hrest
  subst hrest
  exact ⟨List.append_cancel_right h, rfl⟩

/-- What stands before the first mark and what stands after it are told by the text. -/
theorem append_mark_inj {mark : Char} (h : mark ∉ a) (h' : mark ∉ a')
    (hsame : a ++ mark :: r = a' ++ mark :: r') : a = a' ∧ r = r' := by
  have hrun : ∀ {b : List Char}, mark ∉ b → ∀ c ∈ b, decide (c ≠ mark) = true := by
    intro b hb c hc
    exact decide_eq_true fun hmark => hb (hmark ▸ hc)
  have hends : ∀ rest, EndsRun (fun c => decide (c ≠ mark)) (mark :: rest) :=
    endsRun_cons (by simp)
  obtain ⟨hbefore, hrest⟩ := append_inj_of_endsRun (hrun h) (hrun h') (hends r) (hends r') hsame
  exact ⟨hbefore, (List.cons.inj hrest).2⟩

end ServiceTemplates
