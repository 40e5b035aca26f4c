import GraphGateway.Command.Arguments
import GraphGateway.Command.Program
import GraphGateway.Logging

/-!
# Starting the program

`Command.start` is all that the program does from its arguments on: it
reads them, loads the configuration, decides what to log, and carries out
the command. How it ends is an `Ending`, which says what is written where
and what the program's exit code is.
-/

namespace GraphGateway

open CommandLine (Stop)

/-- **How the program ends.** -/
structure Ending where
  /-- The exit code. -/
  code : UInt32
  /-- What is written to the output. -/
  output : String := ""
  /-- What is written beside the output where the arguments are refused. -/
  complaint : String := ""
  /-- The events that are logged. -/
  events : List LogEvent := []
  /-- Clients to answer, and how long to wait for backends, in seconds. -/
  service : Option (Service × Nat) := none

namespace Command

/-- The variable that says what to log. -/
def logVariable : String := "RUST_LOG"

/-- The text on arguments that are refused. Where there are none at all,
the page of help says what there could be. -/
def complaint (env : Environment) : CommandLine.Refusal → String
  | .nothingSaid => layout.help env none
  | refusal =>
    "error: " ++ refusal.message ++ "\n\nFor more information, try '--help'.\n"

/-- The end of a program whose arguments name nothing to carry out. -/
def stopped (env : Environment) : Stop → Ending
  | .help command => { code := 0, output := layout.help env command }
  | .version => { code := 0, output := layout.versionLine }
  | .refused refusal => { code := 2, complaint := complaint env refusal }

/-- The events that a filter shows. -/
def shown (filter : LogFilter) (events : List LogEvent) : List LogEvent :=
  events.filter filter.shows

/-- The end of a program that fails. -/
def failed (filter : LogFilter) (e : GatewayError) : Ending :=
  { code := 1
    events := shown filter [{ level := .error, target := "kastql", message := e.message }] }

/-- The events of a service that starts. -/
def serviceEvents (config : Config) (s : Service) : List LogEvent :=
  let loaded := "registry loaded servers=" ++ toString s.registry.count ++ " active=" ++
    toString s.registry.activeCount ++ " path=" ++ config.registryFile
  [loaded, "KastQL gateway listening on http://" ++ s.address.text].map fun message =>
    { level := .info, target := "kastql::cli", message }

/-- The end of a program whose command succeeds. -/
def succeeded (filter : LogFilter) (config : Config) : Outcome → Ending
  | .finished report => { code := 0, output := report }
  | .serving service =>
    { code := 0
      events := shown filter (serviceEvents config service)
      service := some (service, config.requestTimeoutSecs.toNat) }

/-- The filter that an invocation logs by. Without a configuration the usual
events are shown. -/
def filterOf (env : Environment) (i : Invocation) (loaded : Except GatewayError Config) :
    LogFilter :=
  LogFilter.choose (env logVariable) i.quiet i.verbose
    (match loaded with
      | .ok config => config.logLevel
      | .error _ => Config.default.logLevel)

/-- **All that the program does.** -/
def start (env : Environment) (arguments : List String) : Program Ending :=
  match Invocation.read env arguments with
  | .error stop => .done (stopped env stop)
  | .ok i =>
    Program.bind (Config.loading env i.config) fun loaded =>
      let filter := filterOf env i loaded
      match loaded with
      | .error e => .done (failed filter e)
      | .ok config =>
        Program.bind (i.command.program config) fun
          | .error e => .done (failed filter e)
          | .ok outcome => .done (succeeded filter config outcome)

end Command

end GraphGateway
