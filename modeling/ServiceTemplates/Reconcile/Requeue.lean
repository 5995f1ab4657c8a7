import ServiceTemplates.Reconcile.Backoff
import ServiceTemplates.Reconcile.Binding
import ServiceTemplates.Reconcile.Instance
import ServiceTemplates.Reconcile.Secret

/-!
# After a pass

When an object is looked at again. A pass that brought something in line is repeated
after the resync period; one that found nothing to do waits for a change. A failure
that another attempt may mend is retried after a growing delay, any other waits for a
change. Failures are counted per kind and key, since objects of two kinds may share a
key.
-/

namespace ServiceTemplates

inductive Action where
  | awaitChange
  /-- The object is queued again after a delay, in nanoseconds. -/
  | requeue (delay : Nat)
deriving DecidableEq, Inhabited

/-- The kinds whose objects are queued. -/
inductive QueueKind where
  | templatedInstance
  | templatedBinding
  | secret
deriving DecidableEq, Inhabited

namespace QueueKind

@[reducible] def kind : QueueKind → Kind
  | templatedInstance => .templatedInstance
  | templatedBinding => .templatedBinding
  | secret => .secret

def ofKind? : Kind → Option QueueKind
  | .templatedInstance => some templatedInstance
  | .templatedBinding => some templatedBinding
  | .secret => some secret
  | _ => none

/-- The pass for a key of a queue; whether it brought something in line. -/
def synchronize (q : QueueKind) (plans : PlanResolver) (time key : String) : Pass Bool :=
  match q with
  | templatedInstance => Option.isSome <$> synchronizeInstance plans time key
  | templatedBinding => Option.isSome <$> synchronizeBinding time key
  | secret => Option.isSome <$> synchronizeSecret key

end QueueKind

/-- The pass for an object of a queue, counted from beginning to end. -/
def reconcile (q : QueueKind) (plans : PlanResolver) (time : String) (m : Metadata) :
    Pass Bool := do
  Pass.count (.reconciliations q.kind)
  let result ← (q.synchronize plans time m.key).outcome
  Pass.count (.reconciliationDurations q.kind)
  .ofExcept result

/-- When objects are looked at again. -/
structure RetryPolicy where
  backoff : Backoff
  /-- The resync period, in nanoseconds. -/
  resync : Nat
deriving Inhabited

namespace RetryPolicy

/-- The key under which failures of an object are counted. -/
def retryKey (k : Kind) (m : Metadata) : String := k.name ++ ":" ++ m.key

/-- What follows a pass that succeeded. -/
def afterSuccess (p : RetryPolicy) (k : Kind) (m : Metadata) (synced : Bool) :
    Action × RetryPolicy :=
  (if synced then .requeue p.resync else .awaitChange,
    { p with backoff := p.backoff.forget (retryKey k m) })

/-- What follows a pass that failed, and what is counted. -/
def afterFailure (p : RetryPolicy) (k : Kind) (m : Metadata) (e : Error) :
    Action × RetryPolicy × List Counter :=
  let failed := Counter.reconciliationErrors k e.reason
  let key := retryKey k m
  if e.isRetryable then
    let (delay, backoff) := p.backoff.fail key
    (.requeue delay, { p with backoff := backoff }, [failed, .requeues k])
  else (.awaitChange, { p with backoff := p.backoff.forget key }, [failed])

end RetryPolicy

end ServiceTemplates
