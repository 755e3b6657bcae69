import LifecycleOperator.Api.Document
import LifecycleOperator.Operator.Basic
import LifecycleOperator.Rest.Document

/-!
# The operator as a program

The operator acts on the world through its standard streams: it writes one line
of JSON for every request and reads the response from the next line of its
input.  A line that cannot be read is no response.
-/

namespace LifecycleOperator
namespace Relay

open Json.Member

/-- The streams that lead to the world. -/
structure Streams where
  input : IO.FS.Stream
  output : IO.FS.Stream

/-- Write a request and read the response. -/
def ask (streams : Streams) (request : Json) : IO Json := do
  streams.output.putStrLn request.text
  streams.output.flush
  let line ← streams.input.getLine
  return (Json.read? line).getD .null

/-- The variables of the environment that the operator looks at. -/
def variableNames : List String :=
  Setting.all.map Setting.environmentName ++
    ["POD_NAME", "KUBECONFIG", "KUBERNETES_SERVICE_HOST"]

def answer (streams : Streams) : (call : Wire.Call) → IO call.Answer
  | .cluster request => do
      let response ← ask streams <| Json.ofFields
        [("method", .string request.method), ("path", .string request.path),
          ("body", request.content)]
      return (⟨(int response "code" 503).toNat, text response "body"⟩ : ApiResponse)
  | .web request => do
      let response ← ask streams <| Json.ofFields
        [("url", .string request.url.text), ("request", request.toJson)]
      match response with
      | .object _ => return (.ok (.ofJson response) : Except TransportFault WebResponse)
      | _ => return .error (.noAnswer request.url.text)
  | .now => do
      let response ← ask streams (Json.ofFields [("now", .null)])
      return nat response "nanoseconds"
  | .pause nanoseconds => IO.sleep (nanoseconds / millisecond).toUInt32

def perform {α : Type} (streams : Streams) : Wire α → IO (Except Fault α)
  | .done outcome => return outcome
  | .ask call next => do
      let response ← answer streams call
      perform streams (next response)

/-- So many turns that the operator does not come to an end by itself. -/
def turns : Nat := 1000000000000000

end Relay
end LifecycleOperator

open LifecycleOperator in
/-- Start the operator from its command line and its environment. -/
def main (arguments : List String) : IO UInt32 := do
  let found ← Relay.variableNames.filterMapM fun name =>
    return (← IO.getEnv name).map fun value => (name, value)
  let environment (name : String) : Option String := found.lookup name
  let isConfigured :=
    (environment "KUBECONFIG").isSome || (environment "KUBERNETES_SERVICE_HOST").isSome
  match Operator.start Identity.programName arguments environment isConfigured Relay.turns with
  | .error problem =>
      IO.eprintln problem.name
      return problem.exitCode.toUInt32
  | .ok program =>
      let outcome ← Relay.perform ⟨← IO.getStdin, ← IO.getStdout⟩ program
      match outcome with
      | .ok () => pure ()
      | .error fault => IO.eprintln fault.message
      return (Operator.exitCode outcome).toUInt32
