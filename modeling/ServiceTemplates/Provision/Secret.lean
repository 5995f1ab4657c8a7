import ServiceTemplates.Ownership

/-!
# Published credentials

The catalog writes the credentials of a binding to a secret whose name ends in a
fixed ending. They are published under the name without the ending, with keys renamed
as the templated binding asks; the published secret is controlled by the one it was
copied from.

Several keys may get one name; then the value of the greatest key stays.
-/

namespace ServiceTemplates

/-- What the name of a catalog secret ends in. -/
def shadowEnding : String := "-shadow"

/-- The catalog's secret for a published name. -/
def shadowName (name : String) : String := name ++ shadowEnding

/-- The published name of a catalog secret, if it has the ending and more. -/
def publishedName? (name : String) : Option String :=
  let cs := name.toList
  let ending := shadowEnding.toList
  let kept := cs.take (cs.length - ending.length)
  if ending.isSuffixOf cs && !kept.isEmpty then some (String.ofList kept) else none

def finalKey (renames : SortedMap String String) (key : String) : String :=
  (renames.find? key).getD key

/-- Secret data under the new names of its keys. -/
def rekey (data : SortedMap String (List UInt8)) (renames : SortedMap String String) :
    SortedMap String (List UInt8) :=
  SortedMap.ofList (data.entries.map fun e => (finalKey renames e.1, e.2))

def Secret.publishedData (provisioned : Secret) (binding : TemplatedBinding) :
    SortedMap String (List UInt8) :=
  let contents : SecretContents := provisioned.spec
  let request : TemplatedBindingSpec := binding.spec
  rekey (contents.data.getD ∅) request.secretKeys

/-- The published copy of a catalog secret; none if the name has not the ending. -/
def Secret.publish? (provisioned : Secret) (binding : TemplatedBinding) : Option Secret := do
  let name ← provisioned.metadata.name
  let published ← publishedName? name
  let contents : SecretContents := provisioned.spec
  return {
    metadata := {
      name := some published
      ns := provisioned.metadata.ns
      labels := binding.metadata.labels
      ownerReferences := some [provisioned.controllerReference] }
    spec := { data := some (provisioned.publishedData binding), type := contents.type } }

/-- The published secret with data and type as they ought to be; none if they are. -/
def Secret.refresh? (existing provisioned : Secret) (binding : TemplatedBinding) : Option Secret :=
  let wanted := provisioned.publishedData binding
  let contents : SecretContents := existing.spec
  let source : SecretContents := provisioned.spec
  if contents.data.getD ∅ = wanted ∧ contents.type = source.type then none
  else some { existing with spec := { contents with data := some wanted, type := source.type } }

end ServiceTemplates
