import LifecycleOperator.Api.Client
import LifecycleOperator.Console.CommandLine
import LifecycleOperator.Console.ListenAddress
import LifecycleOperator.Controller.Agenda
import LifecycleOperator.Ishtar.Client
import LifecycleOperator.Rest.Release

/-!
# The operator

The operator as a whole: a controller whose passes reach the cluster and the
services of an installation over the wire.
-/

namespace LifecycleOperator

namespace Parameters

/-- A client of a service; the services of an installation certify themselves. -/
def restClient (parameters : Parameters) (agent base : String) : RestClient :=
  ((RestClient.ofBase agent base).withTimeout parameters.httpTimeout).acceptingAnyCertificate
    true

def securityService (parameters : Parameters) (agent : String) : SecurityService :=
  ⟨parameters.restClient agent parameters.securityUrl, parameters.username,
    parameters.password⟩

def ishtarClient (parameters : Parameters) (agent : String) : IshtarClient :=
  ⟨parameters.restClient agent parameters.ishtarUrl, parameters.securityService agent⟩

end Parameters

/-- Everything that the operator is told when it starts. -/
structure Operator where
  /-- What was read from the command line. -/
  parameters : Parameters
  program : String
  /-- The pod in which it runs, if there is one. -/
  pod : Option String
  deriving DecidableEq

namespace Operator

/-- How the operator calls itself towards services. -/
def agent (operator : Operator) : String := Identity.client operator.program

/-- Who publishes the events of the operator. -/
def reporter (operator : Operator) : Reporter :=
  Identity.reporter operator.program operator.pod

def ishtar (operator : Operator) : IshtarClient :=
  operator.parameters.ishtarClient operator.agent

/-! ## Passes over the wire -/

/-- Send the request of a call, if there is one, and read the response. -/
def callCluster (operator : Operator) (call : ClusterCall) :
    Wire (Except Fault call.Result) := do
  match Api.requestOf operator.reporter ⟨← Wire.now⟩ call with
  | .error fault => return .error fault
  | .ok request => .ask (.cluster request) fun response => pure (Api.answerOf call response)

/-- Do what a pass asks for; the credential for ishtar is kept from call to call. -/
def implementPass (operator : Operator) :
    Program.Translator Pass.interface Wire.interface (Option Credential)
  | .cluster call, kept => do
      return (← operator.callCluster call, kept)
  | .fetchRelease url, kept => do
      return (← (Manifest.fetch operator.agent url).attempt, kept)
  | .probe, kept => do
      let health ← operator.ishtar.health kept
      return (health.result, health.kept)

/-! ## The controller over the wire -/

/-- What the operator keeps while it runs. -/
structure Memory where
  credential : Option Credential
  diagnostics : Diagnostics

def implement (operator : Operator) :
    Program.Translator Controller.interface Wire.interface Memory
  | .now, memory => do
      return (← Wire.now, memory)
  | .pause nanoseconds, memory =>
      .ask (.pause nanoseconds) fun _ => pure ((), memory)
  | .present diagnostics, memory => pure ((), { memory with diagnostics })
  | .pass installation, memory => do
      let (outcome, credential) ←
        (Pass.visit installation).translate operator.implementPass memory.credential
      return (outcome, { memory with credential })

/-! ## The life of the operator -/

/-- Make sure that the cluster knows of installations. -/
def checkCluster : Wire Unit :=
  .ask (.cluster Api.checkRequest) fun response =>
    Program.ofExcept ((Api.listed response).map fun _ => ())

def listInstallations : Wire (List Installation) :=
  .ask (.cluster Api.listRequest) fun response => Program.ofExcept (Api.listed response)

/-- Make sure that the diagnostics can be served. -/
def bind (operator : Operator) : Except Fault Nat :=
  let address := operator.parameters.listen
  (ListenAddress.port address).mapError fun problem =>
    .other ("Can not bind to " ++ address ++ ": " ++ problem.message)

/-- The time after which an unfinished installation is passed over again, in milliseconds. -/
def requeue (operator : Operator) : Nat := operator.parameters.requeueSeconds * 1000

/-- Run the operator for a number of turns, or until nothing is left to be done. -/
def live (operator : Operator) (turns : Nat) : Wire Unit := do
  let begin ← Wire.now
  checkCluster
  let _ ← Program.ofExcept operator.bind
  let installations ← listInstallations
  let controller := Controller.first operator.requeue ⟨begin⟩
  let _ ← (controller.attend turns (.ofInstallations begin installations)).translate
    operator.implement ⟨none, controller.diagnostics⟩

/--
Start the operator from its command line and its environment.  Whether a cluster
is configured turns out only after the command line is understood.
-/
def start
    (program : String) (arguments : List String) (environment : String → Option String)
    (isConfigured : Bool) (turns : Nat) : Except UsageProblem (Wire Unit) := do
  let parameters ← Parameters.read arguments environment
  let operator : Operator := ⟨parameters, program, environment "POD_NAME"⟩
  if isConfigured then return operator.live turns
  else return throw (Api.unusable "no cluster is configured")

/-- The code with which the operator ends. -/
def exitCode : Except Fault Unit → Nat
  | .ok () => 0
  | .error _ => 1

end Operator

end LifecycleOperator
