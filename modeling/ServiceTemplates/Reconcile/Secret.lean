import ServiceTemplates.Provision.Secret
import ServiceTemplates.Reconcile.Managed
import ServiceTemplates.Reconcile.Report

/-!
# Publishing credentials

The pass for a secret. It does something for a secret that the catalog wrote for a
templated binding: the credentials are published under the name that the binding
asked for, and kept up to date there. A secret of that name under another controller
is left alone.
-/

namespace ServiceTemplates

/-- The pass for the secret of a key. The result is the published secret; none if the
key is malformed, the secret is gone, or it is not one that is to be published. -/
def synchronizeSecret (key : String) : Pass (Option Secret) := do
  match wellFormedKey? key with
  | none => return none
  | some (ns, name) =>
    match publishedName? name with
    | none => return none
    | some published =>
      match ← Pass.cached .secret (some ns) name with
      | none => return none
      | some provisioned =>
        match ← managedBinding provisioned with
        | none => return none
        | some binding =>
          match ← Pass.cached .secret (some ns) published with
          | none =>
            match Secret.publish? provisioned binding with
            | none => return none
            | some copy =>
              let created ← Pass.create copy
              Pass.count (.writes .secret .create)
              return some created
          | some existing =>
            if existing.metadata.isControlledBy provisioned then
              match Secret.refresh? existing provisioned binding with
              | none => return some existing
              | some refreshed =>
                let updated ← Pass.update refreshed
                Pass.count (.writes .secret .update)
                return some updated
            else return some existing

end ServiceTemplates
