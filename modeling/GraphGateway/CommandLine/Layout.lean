/-!
# Layouts of command lines

A command line names one of several commands. In front of the name and
behind it stand switches, which start with a dash: a switch by itself
raises a flag, or gives a value that stands behind it. A `Layout` says
which commands and switches there are; some switches are shared by all
commands and may stand on either side of the name.

Reading a line is in `CommandLine.Reading`, and describing a layout to
people in `CommandLine.Help`.
-/

namespace GraphGateway.CommandLine

/-- **What a switch is for.** -/
inductive SwitchKind where
  /-- It raises a flag. -/
  | flag
  /-- It gives a text, which may be empty. -/
  | text
  /-- It gives the path of a file. -/
  | path
  /-- It gives a number of 16 bits. -/
  | port
  /-- It asks for help. -/
  | help
  /-- It asks for the version. -/
  | version
  deriving DecidableEq, Repr

/-- Whether a value has to stand behind a switch. -/
def SwitchKind.takesValue : SwitchKind → Bool
  | flag | help | version => false
  | text | path | port => true

/-- **A switch.** -/
structure Switch where
  /-- Its name, which stands behind two dashes. -/
  name : String
  /-- The letter that may stand behind one dash instead. -/
  letter : Option Char := none
  /-- What it is for. -/
  kind : SwitchKind
  /-- What it means, for people. -/
  about : String := ""
  /-- Whether it has to be there. -/
  isRequired : Bool := false
  /-- The value where it is not there. -/
  fallback : Option String := none
  /-- The variable of the environment that speaks for it where it is not
  there. -/
  standIn : Option String := none
  /-- The switches that it cannot stand beside. -/
  excludes : List String := []
  deriving Repr

/-- **A command** and its own switches. -/
structure CommandLayout where
  /-- Its name. -/
  name : String
  /-- What it does, for people. -/
  about : String
  /-- Its own switches. -/
  switches : List Switch
  deriving Repr

/-- **The commands of a program.** -/
structure Layout where
  /-- The name of the program. -/
  name : String
  /-- Its version. -/
  version : String
  /-- What it does, for people. -/
  about : String
  /-- The switches shared by all commands. -/
  shared : List Switch
  /-- The commands. -/
  commands : List CommandLayout
  deriving Repr

/-- The switch that asks for help. Every command has it. -/
def helpSwitch : Switch :=
  { name := "help", letter := some 'h', kind := .help, about := "Print help" }

/-- The switch that asks for the version. It stands in front of a command
only. -/
def versionSwitch : Switch :=
  { name := "version", letter := some 'V', kind := .version, about := "Print version" }

/-- The command that asks for help. -/
def helpCommand : CommandLayout :=
  { name := "help"
    about := "Print this message or the help of the given subcommand(s)"
    switches := [] }

namespace Layout

/-- The switches that may stand in front of a command. -/
def ownSwitches (l : Layout) : List Switch := l.shared ++ [helpSwitch, versionSwitch]

/-- The switches that may stand behind a command. -/
def switchesOf (l : Layout) (c : CommandLayout) : List Switch :=
  c.switches ++ l.shared ++ [helpSwitch]

/-- The command of a name. -/
def command? (l : Layout) (name : String) : Option CommandLayout :=
  l.commands.find? (·.name == name)

end Layout

end GraphGateway.CommandLine
