import ServiceTemplates.Proofs.Pass.Serve

/-!
# What a pass says and hears

A pass on its way has made requests and got replies. What it knows of the objects in the
stores is what it has found or written on that way. A `Log` sums up what two look-ups found
and how much was created.
-/

namespace ServiceTemplates

/-- A request with its reply. -/
structure Interaction where
  request : Request
  reply : request.Reply

/-- The object that a look-up found or that a write left behind. -/
def Interaction.object? : Interaction → Option AnyObject
  | ⟨.cached k _ _, reply⟩ => (show Option (Object k) from reply).map (Sigma.mk k)
  | ⟨.create k _, reply⟩ => (show Except Error (Object k) from reply).toOption.map (Sigma.mk k)
  | ⟨.update k _, reply⟩ => (show Except Error (Object k) from reply).toOption.map (Sigma.mk k)
  | ⟨.updateStatus k _, reply⟩ =>
    (show Except Error (Object k) from reply).toOption.map (Sigma.mk k)
  | _ => none

/-- Whether an object was found by a look-up or written. -/
def Knows (said : List Interaction) {k : Kind} (o : Object k) : Prop :=
  ∃ i ∈ said, i.object? = some ⟨k, o⟩

/-- Whether the look-up of a name in a namespace found `o`. -/
def Found (said : List Interaction) (ns name : String) {k : Kind} (o : Object k) : Prop :=
  ⟨.cached k (some ns) name, some o⟩ ∈ said

theorem Found.knows {said : List Interaction} {ns name : String} {k : Kind} {o : Object k}
    (h : Found said ns name o) : Knows said o :=
  ⟨_, h, rfl⟩

/-- What is known is not forgotten. -/
theorem Knows.append {said : List Interaction} {k : Kind} {o : Object k} (h : Knows said o)
    (more : List Interaction) : Knows (said ++ more) o := by
  obtain ⟨i, hi, ho⟩ := h
  exact ⟨i, List.mem_append_left more hi, ho⟩

theorem Found.append {said : List Interaction} {ns name : String} {k : Kind} {o : Object k}
    (h : Found said ns name o) (more : List Interaction) : Found (said ++ more) ns name o :=
  List.mem_append_left more h

/-- What was found was found before, or just now. -/
theorem found_snoc {said : List Interaction} {i : Interaction} {ns name : String} {k : Kind}
    {o : Object k} : Found (said ++ [i]) ns name o ↔
      Found said ns name o ∨ i = ⟨.cached k (some ns) name, some o⟩ := by
  simp [Found, eq_comm]

/-! ## What was found and created -/

def Interaction.isCreation (k : Kind) : Interaction → Bool
  | ⟨.create k' _, .ok _⟩ => k' = k
  | _ => false

def creations (k : Kind) (said : List Interaction) : Nat := said.countP (Interaction.isCreation k)

/-- A creation counts once. -/
theorem creations_snoc (k : Kind) (said : List Interaction) (i : Interaction) :
    creations k (said ++ [i]) = creations k said + if i.isCreation k then 1 else 0 := by
  simp [creations, List.countP_append, List.countP_singleton]

/-- A name was looked up for two kinds, with what was found, if it was, and some objects of
the second kind were created. -/
structure Log (t p : Kind) (ns name : String) (said : List Interaction) (o? : Option (Object t))
    (s? : Option (Object p)) (created : Nat) : Prop where
  templated : ∀ o : Object t, Found said ns name o ↔ o? = some o
  provisioned : ∀ s : Object p, Found said ns name s ↔ s? = some s
  created : creations p said = created

namespace Log

variable {t p : Kind} {ns name : String} {said : List Interaction} {o? : Option (Object t)}
  {s? : Option (Object p)} {created : Nat}

theorem nil : Log t p ns name [] none none 0 where
  templated o := by simp [Found]
  provisioned s := by simp [Found]
  created := rfl

/-- What looks nothing up adds nothing to what was found. -/
theorem snoc (h : Log t p ns name said o? s? created) {i : Interaction}
    (ht : ∀ ns name, i.request ≠ .cached t ns name) (hp : ∀ ns name, i.request ≠ .cached p ns name) :
    Log t p ns name (said ++ [i]) o? s? (created + if i.isCreation p then 1 else 0) where
  templated o := by
    have hno : i ≠ ⟨.cached t (some ns) name, some o⟩ := fun he => ht _ _ (congrArg _ he)
    simp [found_snoc, hno, h.templated]
  provisioned s := by
    have hno : i ≠ ⟨.cached p (some ns) name, some s⟩ := fun he => hp _ _ (congrArg _ he)
    simp [found_snoc, hno, h.provisioned]
  created := by rw [creations_snoc, h.created]

/-- Reading templates adds nothing to the log. -/
theorem snoc_readsOnly {K : Kind → Prop} (h : Log t p ns name said o? s? created) {i : Interaction}
    (hi : i.request.ReadsOnly K) (ht : ¬ K t) (hp : ¬ K p) :
    Log t p ns name (said ++ [i]) o? s? created := by
  have hcached : ∀ {k}, ¬ K k → ∀ ns name, i.request ≠ .cached k ns name := by
    intro k hk ns name he
    rw [he] at hi
    exact hk hi
  -- A request that only reads neither creates nor looks up what `K` leaves out.
  have hcreation : i.isCreation p = false := by
    obtain ⟨r, reply⟩ := i
    cases r <;> first | rfl | exact hi.elim
  simpa [hcreation] using h.snoc (hcached ht) (hcached hp)

/-- Looking up the templated object adds what was found. -/
theorem snoc_templated (h : Log t p ns name said none s? created) (htp : t ≠ p)
    (found : Option (Object t)) :
    Log t p ns name (said ++ [⟨.cached t (some ns) name, found⟩]) found s? created where
  templated o := by simp [found_snoc, h.templated]
  provisioned s := by
    have hno : (⟨.cached t (some ns) name, found⟩ : Interaction) ≠
        ⟨.cached p (some ns) name, some s⟩ := by
      intro he
      have hrequest := congrArg Interaction.request he
      exact htp (Request.cached.inj hrequest).1
    simp [found_snoc, hno, h.provisioned]
  created := by rw [creations_snoc, h.created]; rfl

/-- Looking up what is provisioned adds what was found. -/
theorem snoc_provisioned (h : Log t p ns name said o? none created) (htp : t ≠ p)
    (found : Option (Object p)) :
    Log t p ns name (said ++ [⟨.cached p (some ns) name, found⟩]) o? found created where
  templated o := by
    have hno : (⟨.cached p (some ns) name, found⟩ : Interaction) ≠
        ⟨.cached t (some ns) name, some o⟩ := by
      intro he
      have hrequest := congrArg Interaction.request he
      exact htp (Request.cached.inj hrequest).1.symm
    simp [found_snoc, hno, h.templated]
  provisioned s := by simp [found_snoc, h.provisioned]
  created := by rw [creations_snoc, h.created]; rfl

end Log

end ServiceTemplates
