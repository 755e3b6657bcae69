import LifecycleOperator.Pass.Rollout

/-!
# Bootstrap

Before the first rollout the configurator runs once, as a Job, and produces the
secrets of the installation.  A gate keeps the rollout back until the Job has
succeeded and the installation owns these secrets.  Owning them is done as far
as it can be: a secret that is missing or cannot be written is passed over.
-/

namespace LifecycleOperator

/-- What a pass sees of the configurator. -/
inductive JobObservation
  | absent
  | running
  | succeeded (pods : Int)
  deriving DecidableEq, Repr, Inhabited

namespace JobObservation

/-- The number of pods of a Job that have succeeded, if the Job tells it. -/
def succeededPods? (job : Object .job) : Option Int :=
  (job.bodyField "status").bind fun status =>
    (status.get? "succeeded").bind Json.integer?

/-- A Job runs until a positive number of its pods has succeeded. -/
def ofJob? : Option (Object .job) → JobObservation
  | none => .absent
  | some job =>
      match succeededPods? job with
      | some pods => if 0 < pods then .succeeded pods else .running
      | none => .running

end JobObservation

/-- Whether the rollout may start. -/
inductive Gate
  | opened
  | closed (progress : Progress)
  deriving DecidableEq, Repr, Inhabited

namespace Metadata

/-- Make a reference the last owner and the only one that controls. -/
def adoptedBy (metadata : Metadata) (reference : OwnerReference) : Metadata :=
  { metadata with
    ownerReferences :=
      some ((metadata.owners.filter fun owner => !owner.isController) ++ [reference]) }

/-- Whether an owner of an identity is among the owners. -/
def isOwnedBy (metadata : Metadata) (uid : String) : Bool :=
  metadata.owners.any fun owner => owner.uid == uid

end Metadata

namespace Pass

def observeJob (installation : Installation) : Pass JobObservation := do
  return .ofJob? (← lookup .job installation.namespaceName installation.jobName)

/-- Write a secret that has been adopted; failing to do so is passed over. -/
def adopt (installation : Installation) (name : String) (secret : Object .secret) :
    Pass Unit :=
  askCluster (.replace .secret installation.namespaceName name secret) fun
    | .ok owned => record installation
        (.adopted installation.anyName name (some owned.reference))
    | .error _ => pure ()

/-- Make a reference the controller of a secret, unless the secret has its owner already. -/
def propagateSecret
    (installation : Installation) (reference : OwnerReference) (name : String) :
    Pass Unit :=
  askCluster (.lookup .secret installation.namespaceName name) fun
    | .ok (some secret) =>
        if secret.metadata.isOwnedBy reference.uid then pure ()
        else adopt installation name
          { secret with metadata := secret.metadata.adoptedBy reference }
    | _ => pure ()

/-- Take each of the secrets in turn. -/
def propagateEach (installation : Installation) (reference : OwnerReference) :
    List String → Pass Unit
  | [] => pure ()
  | name :: rest => do
      propagateSecret installation reference name
      propagateEach installation reference rest

/-- Make an installation the controller of the secrets that the configurator produced. -/
def propagateSecrets (installation : Installation) : Pass Unit :=
  match installation.ownerReference? with
  | none => pure ()
  | some reference => propagateEach installation reference bootstrapSecrets

/-- Start the configurator, with what it is set up with. -/
def startConfigurator (installation : Installation) (profile : DeploymentProfile) :
    Pass Unit := do
  let configurator ← Program.ofExcept (requireService profile configuratorName)
  let _ ← ensure .configMap installation installation.configuratorMapName
    ((Configuration.configuratorData installation.specification.secure).map
      Resource.configMap)
  let _ ← ensure .configMap installation installation.configImportMapName
    (Configuration.configImportData.map Resource.configMap)
  let _ ← ensure .job installation installation.jobName
    (.ok (Resource.configuratorJob installation configurator))

/-- Drive the configurator; the gate opens once it has succeeded. -/
def gate (installation : Installation) (profile : DeploymentProfile) : Pass Gate := do
  match ← observeJob installation with
  | .absent =>
      startConfigurator installation profile
      return .closed .complete
  | .running => return .closed .requeue
  | .succeeded _ =>
      propagateSecrets installation
      return .opened

end Pass

end LifecycleOperator
