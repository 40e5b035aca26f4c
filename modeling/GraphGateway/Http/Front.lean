import GraphGateway.Http.Playground
import GraphGateway.Registry.Codec
import GraphGateway.Router

/-!
# The HTTP front

Clients reach the gateway over HTTP. `/graphql` takes requests, one or
several at a time; `/health` and `/schema` tell about the registry,
`/playground` is a page to try queries on, and `/` leads there.

A body whose first octet that is not blank is an opening bracket holds
several requests. They are answered with as many responses, or, if one of
them fails, with a single response that reports the failure.
-/

namespace GraphGateway.Http

/-- **What a client sends.** -/
structure Request where
  /-- What is to be done. -/
  method : String
  /-- To what. -/
  target : String
  /-- The body, none if it breaks off. -/
  body : Option (List UInt8)

/-- **What a client gets.** -/
structure Reply where
  /-- The status. -/
  status : Nat
  /-- The headers, with their names in lower case. -/
  headers : List (String × String)
  /-- The body. -/
  body : String
  deriving DecidableEq, Repr

/-- The text behind the first pair of slashes that follows a colon. -/
def behindScheme : List Char → Option (List Char)
  | ':' :: '/' :: '/' :: rest => some rest
  | _ :: rest => behindScheme rest
  | [] => none

/-- The path of a target, without its query and fragment. A target may be
a path, an address with a path, a lone host, or an asterisk. -/
def pathOf (target : String) : String :=
  let isEnd := fun (c : Char) => c == '?' || c == '#'
  let path := fun (s : List Char) => String.ofList (s.takeWhile (!isEnd ·))
  match target.toList with
  | '/' :: rest => path ('/' :: rest)
  | ['*'] => "*"
  | s =>
    match behindScheme s with
    | none => ""
    | some rest =>
      let behind := rest.dropWhile fun c => c != '/' && !isEnd c
      match behind with
      | '/' :: _ => path behind
      | _ => "/"

/-! ## Replies -/

/-- A reply with a plain text. -/
def plain (status : Nat) (text : String) : Reply :=
  { status, headers := [("content-type", "text/plain")], body := text }

/-- A reply with a JSON value. -/
def json (value : Json) : Reply :=
  { status := 200, headers := [("content-type", "application/json")], body := Json.compact value }

/-- A reply with nothing in it. -/
def nothing : Reply := { status := 200, headers := [], body := "" }

/-- Lets pages from anywhere read a reply. -/
def readable (r : Reply) : Reply :=
  { r with headers := r.headers ++ [("access-control-allow-origin", "*")] }

/-- Lets pages from anywhere send requests and read the reply. -/
def shared (r : Reply) : Reply :=
  let r := readable r
  { r with
    headers := r.headers ++
      [("access-control-allow-methods", "POST, GET, OPTIONS"),
        ("access-control-allow-headers", "Content-Type, Authorization")] }

/-- A reply as it is sent to a client that used a method: whoever asks for
the head alone gets no body. -/
def Reply.sentFor (r : Reply) (method : String) : Reply :=
  if method == "HEAD" then { r with body := "" } else r

/-! ## Requests -/

/-- Whether an octet is blank in a body. -/
def isBlankOctet (b : UInt8) : Bool :=
  b == 0x20 || b == 0x09 || b == 0x0A || b == 0x0C || b == 0x0D

/-- Whether a body holds several requests. -/
def isBatch (body : List UInt8) : Bool := (body.dropWhile isBlankOctet).head? == some 0x5B

/-- Whether a request has nothing to ask. -/
def isBlank (r : GraphGateway.Request) : Bool := Text.isAllBlank r.query.toList

/-- The reply to a body that is no request. -/
def malformed (body : List UInt8) (fault : Json.Fault) : Reply :=
  plain 400 ("Invalid JSON: " ++ fault.message body)

/-- The reply to a request that has nothing to ask. -/
def queryMissing : Reply := plain 400 "Query is required"

/-- The reply to several requests. -/
def batchReply : Except GatewayError (List Response) → Reply
  | .ok responses => json (.array (responses.map Response.toJson))
  | .error e => json (Response.ofError e.message).toJson

/-- **Answers a body** with one request or several. -/
def answerBodyBy (d : Dispatcher) (body : List UInt8) : Flow Reply :=
  if isBatch body then
    match Wire.decodeText (.list (.record .request)) body with
    | .error fault => .done (malformed body fault)
    | .ok requests =>
      let requests : List GraphGateway.Request := requests
      if requests.any isBlank then .done queryMissing
      else Flow.bind (d.routeAll requests) fun result => .done (batchReply result)
  else
    match Wire.decodeText (.record .request) body with
    | .error fault => .done (malformed body fault)
    | .ok request =>
      let request : GraphGateway.Request := request
      if isBlank request then .done queryMissing
      else Flow.bind (d.respond request) fun response => .done (json response.toJson)

/-- Answers a body with requests that are sent over HTTP. -/
def answerBody (router : Router) (body : List UInt8) : Flow Reply :=
  answerBodyBy router.overHttp body

/-- What is told about the health of the gateway. -/
def health (total active : Nat) : Json :=
  .object [("servers", .object [("active", .ofNat active), ("total", .ofNat total)]),
    ("status", .string "healthy")]

/-- What is told about the active servers. -/
def overview (servers : List Server) : Json :=
  .object
    [("servers", .array (servers.map Server.toJson)), ("total_servers", .ofNat servers.length)]

/-- **Answers a client.** The health of the gateway is told from two looks
at the registry. -/
def handleBy (d : Dispatcher) (request : Request) : Flow Reply :=
  match pathOf request.target, request.method with
  | "/graphql", "OPTIONS" => .done (shared nothing)
  | "/graphql", "POST" =>
    match request.body with
    | none => .done (shared (plain 400 "Failed to read request body"))
    | some body => Flow.bind (answerBodyBy d body) fun reply => .done (shared reply)
  | "/graphql", _ => .done (shared (plain 405 "Method not allowed"))
  | "/health", "OPTIONS" => .done nothing
  | "/health", "GET" =>
    Flow.bind (Flow.readRegistry Registry.count) fun total =>
      Flow.bind (Flow.readRegistry Registry.activeCount) fun active =>
        .done (json (health total active))
  | "/schema", "OPTIONS" => .done (readable nothing)
  | "/schema", "GET" =>
    Flow.bind (Flow.readRegistry Registry.active) fun servers =>
      .done (readable (json (overview servers)))
  | "/playground", "GET" =>
    .done { status := 200, headers := [("content-type", "text/html")], body := playgroundPage }
  | "/", "GET" => .done { status := 302, headers := [("location", "/playground")], body := "" }
  | _, _ => .done (plain 404 "Not Found")

/-- Answers a client whose requests are sent over HTTP. -/
def handle (router : Router) (request : Request) : Flow Reply := handleBy router.overHttp request

end GraphGateway.Http
