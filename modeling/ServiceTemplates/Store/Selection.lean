import ServiceTemplates.Resource.Metadata

/-!
# Selecting objects

Templates are selected by the service type that a label gives them. The empty service
type selects everything.
-/

namespace ServiceTemplates

/-- The label that carries the service type of a template. -/
def serviceTypeLabel : String := "templates.servicecatalog.k8s.io/service-type"

/-- A selection of objects by service type; none selects everything. -/
structure LabelFilter where
  serviceType : Option String
deriving DecidableEq, Inhabited

namespace LabelFilter

def everything : LabelFilter := ⟨none⟩

/-- The filter for a service type; an empty one lets everything pass. -/
def forServiceType (serviceType : String) : LabelFilter :=
  if serviceType.isEmpty then everything else ⟨some serviceType⟩

def accepts (f : LabelFilter) (labels : Option (SortedMap String String)) : Bool :=
  match f.serviceType with
  | none => true
  | some wanted => labels.bind (·.find? serviceTypeLabel) == some wanted

def selector? (f : LabelFilter) : Option String :=
  f.serviceType.map fun wanted => serviceTypeLabel ++ "=" ++ wanted

end LabelFilter

/-- Whether an object belongs to a list over a namespace, or over all of them, under a
filter. -/
def Metadata.inScope (m : Metadata) (ns : Option String) (filter : LabelFilter) : Bool :=
  (match ns with
    | none => true
    | some ns => m.ns == some ns)
    && filter.accepts m.labels

end ServiceTemplates
