import GraphGateway.Command.Basic
import GraphGateway.CommandLine.Help
import GraphGateway.Config.File

/-!
# The command line of the gateway

`Command.layout` lays out the commands and their switches, and
`Invocation.read` reads a command line by it.
-/

namespace GraphGateway

open CommandLine (Switch CommandLayout Layout Line Stop)

namespace Command

/-- The switch for the id of a server. -/
def idSwitch : Switch := { name := "id", letter := some 'i', kind := .text, isRequired := true }

/-- A command on the server of an id. -/
def onServer (name about : String) : CommandLayout := { name, about, switches := [idSwitch] }

/-- The switches shared by all commands. -/
def sharedSwitches : List Switch :=
  [{ name := "config", letter := some 'c', kind := .path, about := "Path to configuration file"
     standIn := some "KASTQL_CONFIG" },
    { name := "verbose", letter := some 'v', kind := .flag, about := "Enable verbose output"
      excludes := ["quiet"] },
    { name := "quiet", letter := some 'q', kind := .flag
      about := "Suppress non-essential output" }]

/-- The command that answers clients. -/
def serveLayout : CommandLayout :=
  { name := "serve"
    about := "Start the gateway"
    switches :=
      [{ name := "port", letter := some 'p', kind := .port
         about := "Port to listen on (overrides config)" },
        { name := "host", kind := .text, about := "Address to bind (overrides config)" }] }

/-- The command that registers a server. -/
def registerLayout : CommandLayout :=
  { name := "register"
    about := "Register a GraphQL server for introspection and routing"
    switches :=
      [{ idSwitch with about := "Unique server ID" },
        { name := "name", letter := some 'n', kind := .text, about := "Server name"
          isRequired := true },
        { name := "endpoint", letter := some 'e', kind := .text
          about := "GraphQL server endpoint URL", isRequired := true },
        { name := "description", letter := some 'd', kind := .text
          about := "Server description", fallback := some "" }] }

/-- The command that writes a configuration file. -/
def initLayout : CommandLayout :=
  { name := "init"
    about := "Write a default configuration file"
    switches :=
      [{ name := "file", letter := some 'f', kind := .path, about := "Output file path"
         fallback := some Config.defaultFile },
        { name := "force", kind := .flag, about := "Overwrite an existing file" }] }

/-- **The commands and their switches.** -/
def layout : Layout :=
  { name := "kastql"
    version := "0.1.0"
    about := "A single-endpoint GraphQL gateway"
    shared := sharedSwitches
    commands :=
      [serveLayout, registerLayout,
        { name := "list", about := "List registered GraphQL servers and their status"
          switches := [] },
        onServer "remove" "Remove a server from the registry",
        onServer "activate" "Make a server eligible for routing again",
        onServer "deactivate" "Keep a server registered but stop routing to it",
        onServer "refresh" "Re-introspect a server and replace its stored schema",
        { name := "status", about := "Probe every registered endpoint", switches := [] },
        initLayout] }

/-- The command that a line names, if it is one of the layout. -/
def ofLine? (l : Line) : Option Command :=
  match l.command.name with
  | "serve" => some (.serve (l.port? "port") (l.text? "host"))
  | "register" =>
    some (.register
      { id := l.text "id", name := l.text "name", endpoint := l.text "endpoint"
        description := l.text "description" })
  | "list" => some .list
  | "remove" => some (.remove (l.text "id"))
  | "activate" => some (.activate (l.text "id"))
  | "deactivate" => some (.deactivate (l.text "id"))
  | "refresh" => some (.refresh (l.text "id"))
  | "status" => some .status
  | "init" => some (.init (l.text "file") (l.isRaised "force"))
  | _ => none

end Command

namespace Invocation

/-- **Reads a command line.** -/
def read (env : Environment) (arguments : List String) : Except Stop Invocation := do
  let line ← Command.layout.read env arguments
  match Command.ofLine? line with
  | some command =>
    return {
      config := line.text? "config"
      verbose := line.isRaised "verbose"
      quiet := line.isRaised "quiet"
      command }
  | none => throw (.refused (.unknownCommand line.command.name))

end Invocation

end GraphGateway
