/-!
# Class and plan references

A service is asked for by class and plan, and each of the two has four spellings:
by external name or by name, cluster-wide or within the namespace. A spelling
counts only if its text is not empty. Merging two references goes spelling by
spelling and prefers the narrower one.
-/

namespace ServiceTemplates

/-- The class and plan of a service, each under up to four spellings. -/
structure PlanReference where
  clusterClassExternalName : Option String := none
  clusterPlanExternalName : Option String := none
  clusterClassName : Option String := none
  clusterPlanName : Option String := none
  /-- External name of a class of the namespace. -/
  classExternalName : Option String := none
  /-- External name of a plan of the namespace. -/
  planExternalName : Option String := none
  className : Option String := none
  planName : Option String := none
deriving DecidableEq, Inhabited

namespace PlanReference

/-- Whether an identifier is there and not empty. -/
def isSet : Option String → Bool
  | some s => !s.isEmpty
  | none => false

/-- The spellings of the class, in the order in which they are shown. -/
def classes (r : PlanReference) : List (Option String) :=
  [r.clusterClassExternalName, r.clusterClassName, r.classExternalName, r.className]

/-- The spellings of the plan, in the order in which they are shown. -/
def plans (r : PlanReference) : List (Option String) :=
  [r.clusterPlanExternalName, r.clusterPlanName, r.planExternalName, r.planName]

/-- A cluster-wide class and plan, by external name. -/
def ofClusterExternal (className planName : String) : PlanReference where
  clusterClassExternalName := some className
  clusterPlanExternalName := some planName

def namesClass (r : PlanReference) : Bool := r.classes.any isSet

def namesPlan (r : PlanReference) : Bool := r.plans.any isSet

def isEmpty (r : PlanReference) : Bool := !r.namesClass && !r.namesPlan

def isComplete (r : PlanReference) : Bool := r.namesClass && r.namesPlan

/-- The first spelling that is set, a dash when there is none. -/
def firstSet (spellings : List (Option String)) : String :=
  ((spellings.find? isSet).getD none).getD "-"

/-- The reference in short: class and plan around a slash. -/
def describe (r : PlanReference) : String := firstSet r.classes ++ "/" ++ firstSet r.plans

/-- One identifier of a merge: the narrower one where it is set. -/
def pick (base upper : Option String) : Option String := if isSet upper then upper else base

/-- The narrower reference `upper` laid over `base`. When one of the two names
nothing, the other is the result as it stands. -/
def merge (base upper : PlanReference) : PlanReference :=
  if upper.isEmpty then base
  else if base.isEmpty then upper
  else
    { clusterClassExternalName := pick base.clusterClassExternalName upper.clusterClassExternalName
      clusterPlanExternalName := pick base.clusterPlanExternalName upper.clusterPlanExternalName
      clusterClassName := pick base.clusterClassName upper.clusterClassName
      clusterPlanName := pick base.clusterPlanName upper.clusterPlanName
      classExternalName := pick base.classExternalName upper.classExternalName
      planExternalName := pick base.planExternalName upper.planExternalName
      className := pick base.className upper.className
      planName := pick base.planName upper.planName }

end PlanReference

end ServiceTemplates
