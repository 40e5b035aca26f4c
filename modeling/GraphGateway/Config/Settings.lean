import GraphGateway.Config.Basic
import GraphGateway.Error
import GraphGateway.Number.Whole
import GraphGateway.Text.Quoted

/-!
# Settings

`Settings` are what one source says about a configuration: a file, or the
environment. A source may leave anything open, and `Settings.overlay` lays
what it says over a configuration that is there already. The environment is
read by `Settings.ofEnvironment`, from four variables.
-/

namespace GraphGateway

/-- **What a source says about a configuration.** -/
structure Settings where
  /-- The file that the registry is kept in. -/
  registryFile : Option String
  /-- Which events are logged. -/
  logLevel : Option String
  /-- The host to listen on. -/
  host : Option String
  /-- The port to listen on. -/
  port : Option UInt16
  /-- How long to wait for a backend, in seconds. -/
  requestTimeoutSecs : Option UInt64
  /-- How the field of a query is found. -/
  extractor : Option ExtractorKind
  deriving DecidableEq, Repr

/-- The variables of a process: the text of each that is set. -/
abbrev Environment := String → Option String

namespace Settings

/-- Nothing is said. -/
def empty : Settings := ⟨none, none, none, none, none, none⟩

/-- **A configuration with settings laid over it.** -/
def overlay (s : Settings) (c : Config) : Config :=
  { registryFile := s.registryFile.getD c.registryFile
    logLevel := s.logLevel.getD c.logLevel
    host := s.host.getD c.host
    port := s.port.getD c.port
    requestTimeoutSecs := s.requestTimeoutSecs.getD c.requestTimeoutSecs
    extractor := s.extractor.getD c.extractor }

@[simp] theorem empty_overlay (c : Config) : empty.overlay c = c := rfl

/-- Settings that are laid over a configuration twice say nothing new. -/
@[simp] theorem overlay_overlay (s : Settings) (c : Config) :
    s.overlay (s.overlay c) = s.overlay c := by
  rcases s with ⟨_ | _, _ | _, _ | _, _ | _, _ | _, _ | _⟩ <;> rfl

/-- The port that a variable names. -/
def readPort (text : String) : Except GatewayError UInt16 :=
  match Whole.read 65535 text.toList with
  | .ok n => .ok n.toUInt16
  | .error e =>
    .error (.badConfig ("invalid KASTQL_PORT " ++ Text.quoted text ++ ": " ++ e.message))

/-- **What the environment says.** The timeout and the way to find fields
are not set by it. -/
def ofEnvironment (env : Environment) : Except GatewayError Settings := do
  let port ← (env "KASTQL_PORT").mapM readPort
  return {
    registryFile := env "KASTQL_REGISTRY_FILE"
    logLevel := env "KASTQL_LOG_LEVEL"
    host := env "KASTQL_HOST"
    port
    requestTimeoutSecs := none
    extractor := none }

end Settings

end GraphGateway
