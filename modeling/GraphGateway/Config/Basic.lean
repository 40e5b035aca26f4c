import GraphGateway.Operation.Basic

/-!
# Configuration

A `Config` holds what can be set about a gateway. `Config.default` is
what holds where nothing is set.
-/

namespace GraphGateway

/-- **The settings of a gateway.** -/
structure Config where
  /-- The file that the registry is kept in. -/
  registryFile : String
  /-- Which events are logged. -/
  logLevel : String
  /-- The host to listen on. -/
  host : String
  /-- The port to listen on. -/
  port : UInt16
  /-- How long to wait for a backend, in seconds. -/
  requestTimeoutSecs : UInt64
  /-- How the field of a query is found. -/
  extractor : ExtractorKind
  deriving DecidableEq, Repr

/-- The settings where nothing is set. -/
def Config.default : Config :=
  { registryFile := "kastql-registry.json"
    logLevel := "info"
    host := "0.0.0.0"
    port := 8080
    requestTimeoutSecs := 30
    extractor := .heuristic }

end GraphGateway
