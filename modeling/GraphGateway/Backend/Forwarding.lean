import GraphGateway.Backend.Exchange
import GraphGateway.Wire.Decode
import GraphGateway.Wire.Encode

/-!
# Forwarding requests

A request is sent to a backend as it came, and the backend's answer is
read as a response. Only an answer with the status 200 is accepted.
-/

namespace GraphGateway.Backend

/-- The response that an answer is. -/
def readResponse (endpoint : String) (a : Answer) : Except GatewayError Response :=
  if a.status != 200 then .error (a.refused endpoint)
  else
    match Wire.decodeText (.record .response) a.octets with
    | .ok response => .ok response
    | .error fault => .error (a.unexpected endpoint (fault.message a.octets))

/-- **Forwards a request** to an address. -/
def forward (endpoint : String) (request : Request) : Flow.Fallible Response :=
  Flow.andThen (exchange endpoint request.toJson) fun a => .done (readResponse endpoint a)

end GraphGateway.Backend
