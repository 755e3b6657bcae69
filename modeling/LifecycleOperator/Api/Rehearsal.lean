import LifecycleOperator.Api.Client
import LifecycleOperator.Store.Rehearsal

/-!
# Rehearsals of the cluster interface

The interface of a cluster in memory.  It keeps objects as they are sent, and
rules can be laid down for requests that are to be answered otherwise.
-/

namespace LifecycleOperator
namespace Api

/-- What an object is kept under. -/
structure ApiKey where
  /-- The name of its kind within paths. -/
  plural : String
  namespaceName : String
  name : String
  deriving DecidableEq, Repr, Inhabited

/-- Where a path leads to. -/
structure Place where
  /-- The name of the kind within the path. -/
  plural : String
  /-- The namespace; none for all of them. -/
  namespaceName : Option String
  name : Option String
  deriving DecidableEq, Repr, Inhabited

namespace Place

/-- The place behind the version of an interface. -/
def ofSegments : List String → Place
  | "namespaces" :: namespaceName :: plural :: rest => ⟨plural, some namespaceName, rest.head?⟩
  | plural :: rest => ⟨plural, none, rest.head?⟩
  | [] => ⟨"", none, none⟩

/-- A path without its query. -/
def withoutQuery (path : String) : String :=
  String.ofList (path.toList.takeWhile (· != '?'))

def ofPath (path : String) : Place :=
  match (withoutQuery path).splitOn "/" with
  | _ :: "api" :: _ :: rest => ofSegments rest
  | _ :: "apis" :: _ :: _ :: rest => ofSegments rest
  | segments => ofSegments segments

end Place

/-- A request that is to be answered in a special way. -/
structure Rule where
  /-- The method that is meant; none for all. -/
  method : Option String
  /-- The name of the kind that is meant; none for all. -/
  plural : Option String
  /-- The name of the object that is meant; none for all. -/
  name : Option String
  response : ApiResponse
  deriving DecidableEq, Repr, Inhabited

namespace Rule

/-- The answer that refuses a request with a status. -/
def refusal (code : Nat) (reason message : String) : ApiResponse :=
  ⟨code, (Json.ofFields
    [("apiVersion", .string "v1"), ("kind", .string "Status"), ("metadata", .object []),
      ("status", .string "Failure"), ("message", .string message),
      ("reason", .string reason), ("code", Json.ofInt code)]).text⟩

/-- Whether something is meant by a part of a rule. -/
def meansPart (expected : Option String) (found : String) : Bool :=
  match expected with
  | none => true
  | some expected => expected == found

def means (rule : Rule) (method plural name : String) : Bool :=
  meansPart rule.method method && meansPart rule.plural plural && meansPart rule.name name

end Rule

/-- The interface of a cluster in memory. -/
structure Server where
  objects : List (ApiKey × Json)
  /-- The special answers; the first one that is meant counts. -/
  rules : List Rule

namespace Server

def empty : Server := ⟨[], []⟩

instance : Inhabited Server := ⟨empty⟩

/-- The name in the metadata of an object; empty if there is none. -/
def nameOf (object : Json) : String :=
  (((object.get? "metadata").bind fun metadata => metadata.get? "name").bind
    Json.string?).getD ""

def put (server : Server) (key : ApiKey) (object : Json) : Server :=
  let others := server.objects.filter fun entry => entry.1 ≠ key
  { server with objects := others ++ [(key, object)] }

/-- Keep an object of a kind in a namespace, under its own name. -/
def insert {kind : Kind} (server : Server) (namespaceName : String) (object : Object kind) :
    Server :=
  server.put ⟨kind.plural, namespaceName, object.metadata.name.getD ""⟩ object.toJson

/-- Forget an object; whether there was one. -/
def erase (server : Server) (key : ApiKey) : Bool × Server :=
  ((server.objects.lookup key).isSome,
    { server with objects := server.objects.filter fun entry => entry.1 ≠ key })

def accepted (code : Nat) (object : Json) : ApiResponse := ⟨code, object.text⟩

/-- There is no object of a name. -/
def missing (key : ApiKey) : ApiResponse :=
  Rule.refusal 404 "NotFound" (key.plural ++ " \"" ++ key.name ++ "\" not found")

/-- There is an object of a name already. -/
def present (key : ApiKey) : ApiResponse :=
  Rule.refusal 409 "AlreadyExists" (key.plural ++ " \"" ++ key.name ++ "\" already exists")

/-- Set the status of an object as another one has it. -/
def withStatusOf (patch object : Json) : Json :=
  match patch.get? "status" with
  | some status => Json.ofFields ((object.fields?.getD []) ++ [("status", status)])
  | none => object

/-- The list of all objects of a kind. -/
def listOf (server : Server) (plural : String) : Json :=
  let items := (server.objects.filter fun entry => entry.1.plural == plural).map Prod.snd
  Json.ofFields
    [("apiVersion", .string "v1"), ("kind", .string "List"), ("metadata", .object []),
      ("items", .array items)]

/-- Answer a request as no rule says otherwise. -/
def serve (server : Server) (request : ApiRequest) (place : Place) : ApiResponse × Server :=
  let body := request.body.getD .null
  let key : ApiKey :=
    ⟨place.plural, place.namespaceName.getD "", place.name.getD (nameOf body)⟩
  if place.plural == "events" then (accepted 201 body, server)
  else
    match request.method, place.name, server.objects.lookup key with
    | "GET", none, _ => (accepted 200 (server.listOf place.plural), server)
    | "GET", some _, some object => (accepted 200 object, server)
    | "POST", _, some _ => (present key, server)
    | "POST", _, none => (accepted 201 body, server.put key body)
    | "PUT", _, some _ => (accepted 200 body, server.put key body)
    | "PATCH", _, some object =>
        let patched := withStatusOf body object
        (accepted 200 patched, server.put key patched)
    | _, _, _ => (missing key, server)

/-- The rule that a request falls under. -/
def ruleFor (server : Server) (request : ApiRequest) (place : Place) : Option Rule :=
  let name := place.name.getD (nameOf (request.body.getD .null))
  server.rules.find? fun rule => rule.means request.method place.plural name

def respond (server : Server) (request : ApiRequest) : ApiResponse × Server :=
  let place := Place.ofPath request.path
  match server.ruleFor request place with
  | some rule => (rule.response, server)
  | none => server.serve request place

/-- Whether a request falls under a rule. -/
def isRuled (server : Server) (request : ApiRequest) : Bool :=
  (server.ruleFor request (Place.ofPath request.path)).isSome

end Server

/-- A request that reached the interface. -/
structure Arrival where
  request : ApiRequest
  isRuled : Bool

/-- The interface of a cluster in memory, with all that a pass meets. -/
structure Rehearsal where
  server : Server
  scenery : Scenery
  reporter : Reporter
  /-- The requests that arrived, from the last one. -/
  arrivals : List Arrival

namespace Rehearsal

def send (rehearsal : Rehearsal) (request : ApiRequest) : ApiResponse × Rehearsal :=
  let (response, server) := rehearsal.server.respond request
  let arrival : Arrival := ⟨request, rehearsal.server.isRuled request⟩
  (response, { rehearsal with server, arrivals := arrival :: rehearsal.arrivals })

def respond : Program.Responder Pass.interface Rehearsal
  | .fetchRelease url, rehearsal => (rehearsal.scenery.release url, rehearsal)
  | .probe, rehearsal =>
      let (answer, scenery) := rehearsal.scenery.probe
      (answer, { rehearsal with scenery })
  | .cluster call, rehearsal =>
      match requestOf rehearsal.reporter ⟨0⟩ call with
      | .error fault => (.error fault, rehearsal)
      | .ok request =>
          let (response, after) := rehearsal.send request
          (answerOf call response, after)

end Rehearsal

end Api
end LifecycleOperator
