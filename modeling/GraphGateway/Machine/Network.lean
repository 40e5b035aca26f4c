import GraphGateway.Http.Front
import GraphGateway.Http.Message
import GraphGateway.Program.Basic
import Std.Async
import Std.Http
import Std.Time

/-!
# The clock and the network of the machine

The steps of flows and programs that read the clock, send requests and
listen, taken on the machine that the program runs on; and the answering of
clients, whose flows all work on one registry.
-/

namespace GraphGateway.Machine

open Std.Async (Async)
open Std.Async.TCP (Socket.Server Socket.Client)
open Std.Http.Server (Handler StatelessHandler)

/-! ## The clock -/

/-- Reads the clock. -/
def readClock : IO Time.Instant := do
  let now ← Std.Time.Timestamp.now
  let nanos := now.toNanosecondsSinceUnixEpoch.val
  return { seconds := nanos / 1000000000, nanos := (nanos % 1000000000).toNat }

/-! ## Sending -/

/-- An address as the machine takes it. -/
def machineAddress (address : SocketAddress) : Option Std.Net.SocketAddress :=
  match address.host with
  | .short [a, b, c, d] =>
    some (.v4 ⟨.ofParts a.toUInt8 b.toUInt8 c.toUInt8 d.toUInt8, address.port⟩)
  | .long [a, b, c, d, e, f, g, h] _ =>
    some (.v6 ⟨.ofParts a.toUInt16 b.toUInt16 c.toUInt16 d.toUInt16 e.toUInt16 f.toUInt16
      g.toUInt16 h.toUInt16, address.port⟩)
  | _ => none

/-- The addresses of the host that an address names. -/
def addressesOf (url : Url) : Async (List Std.Net.SocketAddress) := do
  let (name, digits) := Url.splitPort (url.host.getD [])
  let port := ((digits.bind (Whole.ofDigits? 10)).getD 80).toUInt16
  match Address.ofHost? (String.ofList name) with
  | some host => return (machineAddress { host, port }).toList
  | none =>
    let found ← Std.Async.DNS.getAddrInfo (String.ofList name) (toString port.toNat)
    return found.toList.map fun
      | .v4 host => .v4 ⟨host, port⟩
      | .v6 host => .v6 ⟨host, port⟩

/-- Connects to the first of some addresses where someone listens. -/
def connectAny : List Std.Net.SocketAddress → Async (Option Socket.Client)
  | [] => return none
  | address :: rest => do
    try
      let client ← Socket.Client.mk
      client.connect address
      return some client
    catch _ => connectAny rest

/-- Receives octets until an answer can be read. -/
partial def receive (client : Socket.Client) (before : List UInt8) : Async Delivery := do
  let arrived : Option ByteArray ← try client.recv? 65536 catch _ => pure none
  match arrived with
  | none => return (Http.readAnswer before true).getD .noAnswer
  | some octets =>
    let received := before ++ octets.toList
    match Http.readAnswer received false with
    | some delivery => return delivery
    | none => receive client received

/-- Sends a request and waits for the answer. Only hosts that are talked to
in the clear can be reached. -/
def exchange (call : Call) : Async Delivery := do
  try
    if String.ofList call.url.scheme != "http" then return .noAnswer
    match ← connectAny (← addressesOf call.url) with
    | none => return .noAnswer
    | some client =>
      client.send (ByteArray.mk (Http.requestOctets call).toArray)
      receive client []
  catch _ => return .noAnswer

/-- Sends a request and waits for the answer, some seconds at most. -/
def send (patience : Nat) (call : Call) : Async Delivery := do
  let answer : Async (Option Delivery) := return some (← exchange call)
  let giveUp : Async (Option Delivery) := do
    Std.Async.sleep (.ofNat (patience * 1000))
    return none
  return (← Std.Async.Async.race answer giveUp).getD .noAnswer

/-! ## Flows -/

/-- Takes all steps of a flow on a registry that others use as well. -/
def perform {α : Type} (patience : Nat) (registry : IO.Ref Registry) : Flow α → Async α
  | .done result => return result
  | .clock next => do
    let now ← readClock
    perform patience registry (next now)
  | .atomically change next => do
    let now ← readClock
    let before ← registry.modifyGet fun r => (r, change now r)
    perform patience registry (next now before)
  | .send call next => do
    let delivery ← send patience call
    perform patience registry (next delivery)

/-! ## Clients -/

/-- The failure that an error of the machine means for an address. -/
def listenFailureOf (e : IO.Error) : ListenFailure :=
  match e with
  | .resourceBusy _ _ => .taken
  | .permissionDenied _ _ _ => .notAllowed
  | _ => .foreign

/-- Starts to listen on an address. -/
def listen (address : SocketAddress) : IO (Except ListenFailure Socket.Server) := do
  match machineAddress address with
  | none => return .error .foreign
  | some place =>
    try
      let socket ← Socket.Server.mk
      socket.bind place
      socket.listen 1024
      return .ok socket
    catch e => return .error (listenFailureOf e)

/-- The request of a client; its body is none if it breaks off. -/
def requestOf (request : Std.Http.Request Std.Http.Body.Stream) : Async Http.Request := do
  let body : Option ByteArray ←
    try
      let octets : ByteArray ← request.body.readAll
      pure (some octets)
    catch _ => pure none
  return {
    method := toString request.line.method
    target := toString request.line.uri
    body := body.map ByteArray.toList }

/-- The answer to a client. -/
def responseOf (reply : Http.Reply) : Async (Std.Http.Response Std.Http.Body.Any) := do
  let status := (Std.Http.Status.ofCode none reply.status.toUInt16).getD .internalServerError
  let builder := reply.headers.foldl
    (fun (builder : Std.Http.Response.Builder) (name, value) =>
      (builder.header? name value).getD builder)
    (Std.Http.Response.withStatus status)
  let body ← Std.Http.Body.Full.ofString reply.body
  return builder.body (Std.Http.Body.Any.ofBody body)

/-- How clients are answered. -/
def handler (patience : Nat) (registry : IO.Ref Registry) (router : Router) : StatelessHandler :=
  Handler.ofFn fun request => do
    let request ← requestOf request
    let reply ← perform patience registry (Http.handle router request)
    responseOf (reply.sentFor request.method)

/-- Answers the clients that come, for ever. -/
partial def answerAll (socket : Socket.Server) (handler : StatelessHandler) : Async Unit := do
  let client ← socket.accept
  let context ← Std.CancellationContext.new
  Std.Async.background (t := Std.Async.AsyncTask)
    (Std.Http.Server.serveConnection client handler { serverName := none } .empty context)
  answerAll socket handler

end GraphGateway.Machine
