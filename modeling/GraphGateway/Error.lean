import GraphGateway.Files.Failure

/-!
# Errors of the gateway

`GatewayError` is everything that can go wrong while the gateway works,
from a query without a field to a registry file that cannot be written.
Each constructor is a cause; `GatewayError.message` is its wording, which
clients see.
-/

namespace GraphGateway

/-- **Why a backend was not heard.** -/
inductive TransportFailure where
  /-- The address is not one that a request can be sent to; the address in
  its normal form, if it has one. -/
  | badAddress (url : Option String)
  /-- Nobody answers at the address. -/
  | noAnswer (url : String)
  /-- The answer breaks off. -/
  | cutShort
  deriving DecidableEq, Repr

/-- The wording of a failure. -/
def TransportFailure.message : TransportFailure → String
  | badAddress none => "builder error"
  | badAddress (some url) => "builder error for url (" ++ url ++ ")"
  | noAnswer url => "error sending request for url (" ++ url ++ ")"
  | cutShort => "error decoding response body"

/-- **Why an address cannot be listened on.** -/
inductive ListenFailure where
  /-- Someone else listens on it. -/
  | taken
  /-- It is the address of another machine. -/
  | foreign
  /-- Only others may listen on it. -/
  | notAllowed
  deriving DecidableEq, Repr

/-- The wording of a failure. -/
def ListenFailure.message : ListenFailure → String
  | taken => "Address already in use (os error 98)"
  | foreign => "Cannot assign requested address (os error 99)"
  | notAllowed => "Permission denied (os error 13)"

/-- **Everything that can go wrong.** -/
inductive GatewayError where
  /-- A query has no field to route it by. -/
  | unreadableQuery (reason : String)
  /-- A block text of a query is indented by part of a character. -/
  | cutCharacter
  /-- No active server has the field. -/
  | noServerFound (field : String)
  /-- A backend was not heard. -/
  | unreachable (endpoint : String) (failure : TransportFailure)
  /-- A backend answered with a status that is not accepted. -/
  | refused (endpoint : String) (status : Nat) (body : String)
  /-- A backend answered with errors. -/
  | backendErrors (endpoint : String) (messages : List String)
  /-- A backend's answer does not have the expected form. -/
  | unexpectedAnswer (endpoint : String) (status : Nat) (reason body : String)
  /-- No server has the id. -/
  | unknownServer (id : String)
  /-- A server has the id already. -/
  | serverExists (id : String)
  /-- A text is not a registry. -/
  | notARegistry (reason : String)
  /-- The configuration cannot be used. -/
  | badConfig (reason : String)
  /-- A configuration file cannot be read as one. -/
  | badConfigFile (path reason : String)
  /-- The file system refused. -/
  | files (failure : FileFailure)
  /-- The address to listen on cannot be listened on. -/
  | cannotListen (failure : ListenFailure)
  deriving DecidableEq, Repr

namespace GatewayError

/-- **The wording of an error.** -/
def message : GatewayError → String
  | unreadableQuery reason => "failed to parse query: " ++ reason
  | cutCharacter => "a block string of the query is indented by part of a character"
  | noServerFound field => "no server found for field " ++ field
  | unreachable endpoint failure => "failed to reach " ++ endpoint ++ ": " ++ failure.message
  | refused endpoint status body =>
    endpoint ++ " returned status " ++ toString status ++ ": " ++ body
  | backendErrors endpoint messages =>
    endpoint ++ " returned GraphQL errors: " ++ String.intercalate "; " messages
  | unexpectedAnswer endpoint status reason _ =>
    "invalid response from " ++ endpoint ++ " (status " ++ toString status ++ "): " ++ reason
  | unknownServer id => "server with ID " ++ id ++ " not found"
  | serverExists id => "server with ID " ++ id ++ " already exists"
  | notARegistry reason => "failed to decode registry data: " ++ reason
  | badConfig reason => "configuration error: " ++ reason
  | badConfigFile path reason => "failed to parse config file " ++ path ++ ": " ++ reason
  | files failure => failure.message
  | cannotListen failure => failure.message

/-- Whether the backend was not heard at all. -/
def isUnreachable : GatewayError → Bool
  | unreachable .. => true
  | _ => false

/-- The status that the backend answered with, where there was an answer
that was not accepted. -/
def answerStatus : GatewayError → Option Nat
  | refused _ status _ => some status
  | unexpectedAnswer _ status _ _ => some status
  | _ => none

end GatewayError

end GraphGateway
