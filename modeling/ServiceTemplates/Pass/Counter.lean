import ServiceTemplates.Resource.Kind

/-!
# Counters

What is counted while passes run. Each counter has a name and labels; `Counter.label`
is the form in which both are shown.
-/

namespace ServiceTemplates

inductive WriteOperation where
  | create
  | update
deriving DecidableEq, Inhabited

def WriteOperation.name : WriteOperation → String
  | .create => "create"
  | .update => "update"

inductive Counter where
  | reconciliations (kind : Kind)
  | reconciliationErrors (kind : Kind) (reason : String)
  | reconciliationDurations (kind : Kind)
  | requeues (kind : Kind)
  | writes (kind : Kind) (operation : WriteOperation)
  | unmanagedConflicts (kind : Kind)
  | templatesResolved (tier : Tier)
deriving DecidableEq, Inhabited

namespace Counter

/-- A name with its labels, each label with its value in quotes. -/
def withLabels (name : String) (labels : List (String × String)) : String :=
  let shown := labels.map fun l => l.1 ++ "=\"" ++ l.2 ++ "\""
  "svcat_templates_" ++ name ++ "\x7b" ++ ",".intercalate shown ++ "\x7d"

def label : Counter → String
  | reconciliations k => withLabels "reconciliations_total" [("kind", k.name)]
  | reconciliationErrors k reason =>
    withLabels "reconciliation_errors_total" [("kind", k.name), ("reason", reason)]
  | reconciliationDurations k =>
    withLabels "reconciliation_duration_seconds_count" [("kind", k.name)]
  | requeues k => withLabels "requeues_total" [("kind", k.name)]
  | writes k operation =>
    withLabels "writes_total" [("kind", k.name), ("operation", operation.name)]
  | unmanagedConflicts k => withLabels "unmanaged_conflicts_total" [("kind", k.name)]
  | templatesResolved tier => withLabels "templates_resolved_total" [("tier", tier.name)]

end Counter

end ServiceTemplates
