import LifecycleOperator.Proofs.Resource.Reference
import LifecycleOperator.Proofs.Store.Evolution

/-!
# What others leave alone

Others may do much to a store without breaking what its objects are there for: they may
report on a Job, label a Deployment, or add objects of their own.  What has to stay is
told here for each kind: place, name and specification of an installation, the
specification of a workload, and the data of a ConfigMap.
-/

namespace LifecycleOperator

namespace Object

/-- Whatever counts about an object has stayed as it was. -/
def Stays : {kind : Kind} → Object kind → Object kind → Prop
  | .installation, former, later =>
      later.namespaceName = former.namespaceName ∧ later.anyName = former.anyName ∧
        Installation.specification later = Installation.specification former
  | .job, former, later | .deployment, former, later | .statefulSet, former, later =>
      later.bodyField "spec" = former.bodyField "spec"
  | .configMap, former, later => later.bodyField "data" = former.bodyField "data"
  | .secret, _, _ | .service, _, _ | .ingress, _, _ => True

namespace Stays

variable {kind : Kind} {first second third : Object kind}

theorem refl (object : Object kind) : object.Stays object := by
  cases kind <;> simp [Stays]

theorem trans (stays : first.Stays second) (staysOn : second.Stays third) :
    first.Stays third := by
  cases kind
  case installation =>
    obtain ⟨place, named, specified⟩ := stays
    obtain ⟨samePlace, sameName, sameSpecification⟩ := staysOn
    exact ⟨samePlace.trans place, sameName.trans named, sameSpecification.trans specified⟩
  case secret | service | ingress => trivial
  all_goals exact Eq.trans staysOn stays

/-- A workload that stays as it was refers to the same ConfigMaps. -/
theorem references_eq (stays : first.Stays second) : second.references = first.references := by
  cases kind
  case job | deployment | statefulSet => exact references_congr stays
  all_goals rfl

/-- A ConfigMap that stays as it was holds the same data. -/
theorem data_eq {former later : Object .configMap} (stays : former.Stays later) :
    later.bodyField "data" = former.bodyField "data" := stays

end Stays

/-- The status does not count about an installation. -/
theorem stays_withStatus (installation : Installation) (status : Status) :
    Object.Stays installation (Installation.withStatus installation status) :=
  ⟨rfl, rfl, rfl⟩

end Object

/-- Nothing is removed, and whatever counts about the objects stays as it was. -/
abbrev Store.Upholds (before after : Store) : Prop :=
  Store.Evolves (fun _ former later => former.Stays later) (fun _ _ => True) before after

end LifecycleOperator
