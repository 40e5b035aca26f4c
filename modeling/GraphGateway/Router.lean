import GraphGateway.Backend.Forwarding
import GraphGateway.Operation.Extractor

/-!
# Routing

A request is routed by the field of its query: `Router.resolve` finds the
server that the field belongs to, and the request is forwarded to it.

A field belongs to the first server that declares it as a root type or a
type, if that server is active. Otherwise it belongs to the first active
server that has it as a type or as a field of a type. The two look-ups are
separate steps.

How the field is found in the query, and how the request gets to the server,
is up to a `Dispatcher`. That of a `Router` reads the query with one of the
extractors and sends the request over HTTP.
-/

namespace GraphGateway

/-- **How requests are routed**: by which field of their query. -/
structure Router where
  /-- How the field of a query is found. -/
  extractor : ExtractorKind

/-- What a query could be routed to. -/
structure QueryCheck where
  /-- The names of the servers that offer the query's field, in the order
  of their registration. -/
  servers : List String
  deriving DecidableEq, Repr

/-- Whether any server offers the field. -/
def QueryCheck.canServe (c : QueryCheck) : Bool := !c.servers.isEmpty

namespace Registry

/-- The first active server that has a name as a type or a field. -/
def findActiveByField (r : Registry) (name : String) : Except GatewayError Server :=
  match r.active.find? (hasSchema (·.declaresTypeOrField name)) with
  | some server => .ok server
  | none => .error (.noServerFound name)

/-- The names that the active servers offer, under the servers' names; of
servers with one name the last listed counts. -/
def offeredFields (r : Registry) : List (String × List String) :=
  Keyed.ofList (r.active.filterMap fun server =>
    server.schema.map fun schema => (server.name, schema.availableFields))

/-- The names of the active servers that offer a field. -/
def serversOffering (r : Registry) (field : String) : List String :=
  (r.active.filter (hasSchema (·.availableFields.any (· == field)))).map (·.name)

end Registry

namespace Router

/-- **Finds the server that a field belongs to.** -/
def resolve (field : String) : Flow.Fallible Server :=
  let search := Flow.readRegistry fun r => r.findActiveByField field
  Flow.bind (Flow.readRegistry fun r => r.findByField field) fun
    | .ok server => if server.isActive then .done (.ok server) else search
    | .error _ => search

/-- The response that reports an error, or the response itself. -/
def responseOf : Except GatewayError Response → Response
  | .ok response => response
  | .error e => Response.ofError e.message

end Router

/-- **Somebody who dispatches requests**, in whatever way. -/
structure Dispatcher where
  /-- Finds the operation of a query. -/
  extract : String → Except GatewayError Operation
  /-- Brings a request to an address, and waits for the response. -/
  forward : String → Request → Flow.Fallible Response

namespace Dispatcher

/-- **Routes a request** and waits for the response. -/
def route (d : Dispatcher) (request : Request) : Flow.Fallible Response :=
  match d.extract request.query with
  | .error e => .done (.error e)
  | .ok operation =>
    Flow.andThen (Router.resolve operation.field) fun server => d.forward server.endpoint request

/-- Routes a request; a failure becomes a response. -/
def respond (d : Dispatcher) (request : Request) : Flow Response :=
  Flow.bind (d.route request) fun result => .done (Router.responseOf result)

/-- **Routes requests one after another**, up to the first that fails. -/
def routeAll (d : Dispatcher) : List Request → Flow.Fallible (List Response)
  | [] => .done (.ok [])
  | request :: rest =>
    Flow.andThen (d.route request) fun response =>
      Flow.andThen (d.routeAll rest) fun responses => .done (.ok (response :: responses))

end Dispatcher

namespace Router

/-- The dispatcher that sends requests to the servers. -/
def overHttp (router : Router) : Dispatcher where
  extract := router.extractor.extract
  forward := Backend.forward

/-- Routes a request over HTTP. -/
def route (router : Router) (request : Request) : Flow.Fallible Response :=
  router.overHttp.route request

/-- A request is routed over HTTP by the field that the extractor finds. -/
theorem route_eq (router : Router) (request : Request) :
    router.route request = match router.extractor.extract request.query with
      | .error e => .done (.error e)
      | .ok operation => Flow.andThen (resolve operation.field) fun server =>
        Backend.forward server.endpoint request :=
  rfl

/-- Routes a request over HTTP; a failure becomes a response. -/
def respond (router : Router) (request : Request) : Flow Response :=
  router.overHttp.respond request

/-- Routes requests over HTTP, one after another. -/
def routeAll (router : Router) (requests : List Request) : Flow.Fallible (List Response) :=
  router.overHttp.routeAll requests

/-- The names that can be routed, by server. -/
def availableFields : Flow (List (String × List String)) := Flow.readRegistry Registry.offeredFields

/-- **Checks which servers a query could be routed to.** -/
def check (router : Router) (query : String) : Flow.Fallible QueryCheck :=
  match router.extractor.extract query with
  | .error e => .done (.error e)
  | .ok operation =>
    Flow.readRegistry fun r => .ok { servers := r.serversOffering operation.field }

end Router

end GraphGateway
