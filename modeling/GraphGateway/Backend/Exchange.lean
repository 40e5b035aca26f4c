import GraphGateway.Flow
import GraphGateway.Json.Printer
import GraphGateway.Text.Sniffed

/-!
# Talking to a backend

Everything that the gateway wants of a backend is one exchange: a JSON
text is sent to the backend's address, and a status and a text come back.
An exchange fails where the address cannot be used, nobody answers, or the
answer breaks off.
-/

namespace GraphGateway.Backend

/-- **What a backend answers.** -/
structure Answer where
  /-- The status. -/
  status : Nat
  /-- The body as text. -/
  body : String
  deriving DecidableEq, Repr

/-- The answer that a delivery brings. -/
def Answer.ofDelivery (endpoint : String) (url : Url) : Delivery → Except GatewayError Answer
  | .noAnswer => .error (.unreachable endpoint (.noAnswer url.text))
  | .answer status body complete =>
    if complete then .ok { status, body := Text.Sniffed.decode body }
    else .error (.unreachable endpoint .cutShort)

/-- **Sends a JSON value** to an address and waits for the answer. -/
def exchange (endpoint : String) (value : Json) : Flow.Fallible Answer :=
  match Url.ofEndpoint endpoint with
  | .error failure => .done (.error (.unreachable endpoint failure))
  | .ok url =>
    .send { url, body := Json.compact value } fun delivery =>
      .done (Answer.ofDelivery endpoint url delivery)

/-- The error of an answer whose status is not accepted. -/
def Answer.refused (a : Answer) (endpoint : String) : GatewayError :=
  .refused endpoint a.status a.body

/-- The error of an answer that does not have the expected form. -/
def Answer.unexpected (a : Answer) (endpoint reason : String) : GatewayError :=
  .unexpectedAnswer endpoint a.status reason a.body

/-- Whether the status says that all went well. -/
def Answer.isSuccess (a : Answer) : Bool := 200 ≤ a.status && a.status < 300

/-- The octets of the body. -/
def Answer.octets (a : Answer) : List UInt8 := Text.Utf8.encode a.body

end GraphGateway.Backend
