import ServiceTemplates.Error
import ServiceTemplates.Pass.Counter
import ServiceTemplates.Resource.ObjectReference
import ServiceTemplates.Store.Selection

/-!
# Passes

A pass is what the controller does with one key: it reads from its caches, writes to
the API server, counts, warns, and ends with a result or a failure. A `Pass` is that
as a tree: each node is one request, with a continuation for every reply. What
answers the requests is left open, so the same pass can be run on one cluster, on a
cache beside a live cluster, on a cluster whose writes fail, or step by step between
the steps of other passes.

A reading request and a writing request is one atomic step. A refused write is a
reply like any other; `Pass.create`, `Pass.update` and `Pass.fetch` turn it into a
failure of the pass.
-/

namespace ServiceTemplates

/-- One interaction of a pass with the world around it. -/
inductive Request where
  | cached (k : Kind) (ns : Option String) (name : String)
  | cachedList (k : Kind) (ns : Option String) (filter : LabelFilter)
  | fetch (k : Kind) (ns name : String)
  | create (k : Kind) (obj : Object k)
  | update (k : Kind) (obj : Object k)
  | updateStatus (k : Kind) (obj : Object k)
  | warn (about : ObjectReference) (reason note : String)
  | count (counter : Counter)

/-- What a request is answered with. -/
@[reducible] def Request.Reply : Request → Type
  | .cached k _ _ => Option (Object k)
  | .cachedList k _ _ => List (Object k)
  | .fetch k _ _ => Except Error (Option (Object k))
  | .create k _ => Except Error (Object k)
  | .update k _ => Except Error (Object k)
  | .updateStatus k _ => Except Error (Object k)
  | .warn _ _ _ => Unit
  | .count _ => Unit

/-- A pass that ends with an `α` or a failure. -/
inductive Pass (α : Type) where
  | done (result : Except Error α)
  /-- The pass makes a request and goes on with the reply. -/
  | ask (request : Request) (next : request.Reply → Pass α)

namespace Pass

variable {α β γ : Type}

/-- A pass followed by one that depends on its result; a failure ends both. -/
def bind : Pass α → (α → Pass β) → Pass β
  | done (.ok a), f => f a
  | done (.error e), _ => done (.error e)
  | ask r next, f => ask r fun reply => (next reply).bind f

instance : Monad Pass where
  pure a := done (.ok a)
  bind := bind

def fail (e : Error) : Pass α := done (.error e)

/-- The pass that ends with a given result or failure. -/
def ofExcept (result : Except Error α) : Pass α := done result

/-- A pass with its failure as a result. -/
def outcome : Pass α → Pass (Except Error α)
  | done result => done (.ok result)
  | ask r next => ask r fun reply => (next reply).outcome

/-- One request, the reply as the result. -/
def request (r : Request) : Pass r.Reply := ask r fun reply => done (.ok reply)

/-- One request that can be refused, a refusal as the failure of the pass. -/
def attempt (r : Request) (reply : r.Reply → Except Error α) : Pass α :=
  ask r fun answer => done (reply answer)

/-! ### The requests, one by one -/

/-- Looks an object up in the cache. -/
def cached (k : Kind) (ns : Option String) (name : String) : Pass (Option (Object k)) :=
  request (.cached k ns name)

def cachedList (k : Kind) (ns : Option String) (filter : LabelFilter) : Pass (List (Object k)) :=
  request (.cachedList k ns filter)

/-- Reads an object from the API server. -/
def fetch (k : Kind) (ns name : String) : Pass (Option (Object k)) :=
  attempt (.fetch k ns name) id

def create {k : Kind} (obj : Object k) : Pass (Object k) := attempt (.create k obj) id

def update {k : Kind} (obj : Object k) : Pass (Object k) := attempt (.update k obj) id

/-- Replaces an object and hands a refusal on as a result. -/
def tryUpdate {k : Kind} (obj : Object k) : Pass (Except Error (Object k)) :=
  request (.update k obj)

/-- Writes the observed state of an object and hands a refusal on as a result. -/
def tryUpdateStatus {k : Kind} (obj : Object k) : Pass (Except Error (Object k)) :=
  request (.updateStatus k obj)

def warn (about : ObjectReference) (reason note : String) : Pass Unit :=
  request (.warn about reason note)

def count (counter : Counter) : Pass Unit := request (.count counter)

/-! ### Laws -/

theorem pure_bind (a : α) (f : α → Pass β) : (pure a : Pass α) >>= f = f a := rfl

theorem bind_pure (p : Pass α) : p >>= pure = p := by
  show p.bind pure = p
  induction p with
  | done result => cases result <;> rfl
  | ask r next ih => simp only [Pass.bind]; congr; funext reply; exact ih reply

theorem bind_assoc (p : Pass α) (f : α → Pass β) (g : β → Pass γ) :
    p >>= f >>= g = p >>= fun a => f a >>= g := by
  show (p.bind f).bind g = p.bind fun a => (f a).bind g
  induction p with
  | done result => cases result <;> rfl
  | ask r next ih => simp only [Pass.bind]; congr; funext reply; exact ih reply

end Pass

end ServiceTemplates
