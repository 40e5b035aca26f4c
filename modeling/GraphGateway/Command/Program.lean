import GraphGateway.Command.Basic
import GraphGateway.Command.Report
import GraphGateway.Program.Storage
import GraphGateway.Registry.Registration
import GraphGateway.Router

/-!
# Commands as programs

A command that works on the registry loads it, works on it, and reports. A
command that changes it also saves it, before it reports and only if all
went well; so a report of success means that the file holds the change, and
a failure before that leaves the files as they were.
-/

namespace GraphGateway

/-- **What is needed to answer clients.** -/
structure Service where
  /-- The address that clients reach. -/
  address : SocketAddress
  /-- How requests find their servers. -/
  router : Router
  /-- The servers. -/
  registry : Registry

/-- **How a command ends** that does not fail. -/
inductive Outcome where
  /-- It is done and tells people so. -/
  | finished (report : String)
  /-- It answers clients until it is stopped. -/
  | serving (service : Service)

/-- A flow as a part of a program that waits for backends as long as it is
configured to. -/
def Config.isolate {α : Type} (c : Config) (r : Registry) (flow : Flow α) :
    Program (α × Registry) :=
  Program.ofFlow c.requestTimeoutSecs.toNat r flow

namespace Command

/-- Loads the registry, looks at it by a flow, and reports. -/
def looking {α : Type} (c : Config) (look : Registry → Flow α) (report : Registry → α → String) :
    Program.Fallible Outcome :=
  Program.andThen (Registry.loading c.registryFile) fun r =>
    Program.bind (c.isolate r (look r)) fun (result, _) =>
      .done (.ok (.finished (report r result)))

/-- **Loads the registry, changes it by a flow, saves it and reports.** -/
def changing (c : Config) (change : Flow.Fallible Server) (report : Server → String) :
    Program.Fallible Outcome :=
  Program.andThen (Registry.loading c.registryFile) fun r =>
    Program.bind (c.isolate r change) fun
      | (.error e, _) => .done (.error e)
      | (.ok server, changed) =>
        Program.andThen (changed.saving c.registryFile) fun _ =>
          .done (.ok (.finished (report server)))

/-- Probes servers one after another. -/
def probeAll : List Server → Flow (List (Server × Except GatewayError Unit))
  | [] => .done []
  | server :: rest =>
    Flow.bind (Introspection.probe server.endpoint) fun result =>
      Flow.bind (probeAll rest) fun results => .done ((server, result) :: results)

/-- The error of an address that is none. -/
def badAddress (host : String) (port : UInt16) : GatewayError :=
  .badConfig ("invalid listen address " ++ host ++ ":" ++ toString port.toNat ++
    ": invalid socket address syntax")

/-- Loads the registry and starts to listen. -/
def serving (c : Config) (port : Option UInt16) (host : Option String) :
    Program.Fallible Outcome :=
  Program.andThen (Registry.loading c.registryFile) fun registry =>
    let host := host.getD c.host
    let port := port.getD c.port
    match Address.ofHost? host with
    | none => .done (.error (badAddress host port))
    | some found =>
      let address : SocketAddress := { host := found, port }
      .listen address fun
        | .error e => .done (.error (.cannotListen e))
        | .ok () =>
          .done (.ok (.serving { address, router := { extractor := c.extractor }, registry }))

/-- Writes the configuration that holds where nothing is set. -/
def initialising (file : String) (force : Bool) : Program.Fallible Outcome :=
  let write := Program.andThen (Config.default.saving file) fun _ =>
    .done (.ok (.finished (Report.initialised file)))
  .look file fun found =>
    if found.isOk && !force then
      .done (.error (.badConfig (file ++ " already exists, pass --force to overwrite")))
    else write

/-- **The program of a command.** -/
def program (config : Config) : Command → Program.Fallible Outcome
  | serve port host => serving config port host
  | register registration =>
    changing config registration.register (Report.registered config.registryFile)
  | list =>
    looking config (fun _ => .done ()) fun r _ => Report.listed config.registryFile r
  | remove id => changing config (Registry.removeFlow id) Report.changed
  | activate id => changing config (Registry.activate id) Report.changed
  | deactivate id => changing config (Registry.deactivate id) Report.changed
  | refresh id => changing config (Registry.refresh id) Report.changed
  | status => looking config (fun r => probeAll r.all) fun _ results => Report.probed results
  | init file force => initialising file force

end Command

/-- **The program of an invocation**: the configuration is loaded, and the
command is carried out with it. -/
def Invocation.program (env : Environment) (i : Invocation) : Program.Fallible Outcome :=
  Program.andThen (Config.loading env i.config) i.command.program

end GraphGateway
