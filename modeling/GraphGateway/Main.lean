import GraphGateway.Command.Start
import GraphGateway.Machine.Files
import GraphGateway.Machine.Network
import GraphGateway.Time.Rfc3339

/-!
# The program

The outermost layer: what `Command.start` says is done on the machine that
the program runs on.
-/

namespace GraphGateway.Machine

open Std.Async (Async)
open Std.Async.TCP (Socket.Server)

/-- The variables that the program asks for. -/
def variableNames : List String :=
  ["KASTQL_CONFIG", "KASTQL_REGISTRY_FILE", "KASTQL_LOG_LEVEL", "KASTQL_HOST", "KASTQL_PORT",
    Command.logVariable]

/-- The environment of the program. -/
def readEnvironment : IO Environment := do
  let values ← variableNames.mapM fun name => return (name, ← IO.getEnv name)
  return fun name => (values.lookup name).bind id

/-- Takes all steps of a program. The socket that it listens on is kept. -/
def carryOut {α : Type} (socket : IO.Ref (Option Socket.Server)) : Program α → Async α
  | .done result => return result
  | .look path next => do
    let found ← look path
    carryOut socket (next found)
  | .isThere path next => do
    let found ← isThere path
    carryOut socket (next found)
  | .change step next => do
    let result ← change step
    carryOut socket (next result)
  | .clock next => do
    let now ← readClock
    carryOut socket (next now)
  | .send patience call next => do
    let delivery ← send patience call
    carryOut socket (next delivery)
  | .listen address next => do
    match ← listen address with
    | .ok opened =>
      socket.set (some opened)
      carryOut socket (next (.ok ()))
    | .error failure => carryOut socket (next (.error failure))

/-- The name of a level in the log. -/
def levelName (level : LogLevel) : String :=
  let name := ((LogLevel.names.find? (·.2 == level)).map Prod.fst).getD ""
  String.ofList (List.replicate (5 - name.length) ' ') ++ name.toUpper

/-- Logs an event. -/
def log (e : LogEvent) : IO Unit := do
  let now ← readClock
  IO.eprintln (now.text ++ " " ++ levelName e.level ++ " " ++ e.target ++ ": " ++ e.message)

/-- Does what is left to do at the end of the program. -/
def finish (socket : IO.Ref (Option Socket.Server)) (ending : Ending) : Async UInt32 := do
  IO.print ending.output
  IO.eprint ending.complaint
  ending.events.forM fun e => log e
  match ending.service, ← socket.get with
  | some (service, patience), some opened =>
    let registry ← IO.mkRef service.registry
    answerAll opened (handler patience registry service.router)
  | _, _ => pure ()
  return ending.code

end GraphGateway.Machine

open GraphGateway in
/-- Runs the program. -/
def main (arguments : List String) : IO UInt32 := do
  let env ← Machine.readEnvironment
  let socket ← IO.mkRef none
  let run : Std.Async.Async UInt32 := do
    let ending ← Machine.carryOut socket (Command.start env arguments)
    Machine.finish socket ending
  run.block
