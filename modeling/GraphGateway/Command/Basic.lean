import GraphGateway.Registry.Server

/-!
# Commands

A `Command` is one thing that the gateway's program can be told to do, and
an `Invocation` is a command with what holds for all commands.
-/

namespace GraphGateway

/-- **What the program is told to do.** -/
inductive Command where
  /-- Answers clients; a port or host given here counts before that of the
  configuration. -/
  | serve (port : Option UInt16) (host : Option String)
  /-- Registers a server. -/
  | register (registration : Registration)
  /-- Lists the servers. -/
  | list
  /-- Removes a server. -/
  | remove (id : String)
  /-- Lets requests through to a server again. -/
  | activate (id : String)
  /-- Keeps requests from a server. -/
  | deactivate (id : String)
  /-- Asks a server for its schema again. -/
  | refresh (id : String)
  /-- Checks which servers answer. -/
  | status
  /-- Writes a configuration file; `force` allows to write over one that
  is there. -/
  | init (file : String) (force : Bool)
  deriving Repr

/-- **A command** and how it is to be carried out. -/
structure Invocation where
  /-- The file of the configuration. -/
  config : Option String
  /-- Whether to log more than usual. -/
  verbose : Bool
  /-- Whether to log less than usual. -/
  quiet : Bool
  /-- What to do. -/
  command : Command
  deriving Repr

end GraphGateway
