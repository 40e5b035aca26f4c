import GraphGateway.CommandLine.Reading
import GraphGateway.Text.Blank
import GraphGateway.Text.Quoted

/-!
# Help

A page of help says what a program or one of its commands does, how it is
used, and what its switches mean. `Layout.help` is the page that a line
asks for.

Switches stand in the order in which their commands declare them. The
shared ones stand among them as if they were declared beside them, and of
two in the same place the one with the smaller name comes first.
-/

namespace GraphGateway.CommandLine

namespace Switch

/-- How a switch is shown in usage: its name, and its value in capitals. -/
def usage (s : Switch) : String :=
  if s.kind.takesValue then "--" ++ s.name ++ " <" ++ s.name.toUpper ++ ">" else "--" ++ s.name

/-- What orders two switches declared in the same place: the letter, small
before capital, or else the name. -/
def sortName (s : Switch) : String :=
  match s.letter with
  | some c => String.ofList [c.toLower, if c.isLower then '0' else '1']
  | none => s.name

/-- A text as remarks show it, with quotes where it would not be seen to
be there. -/
def shown (text : String) : String :=
  if text.isEmpty || text.toList.any Text.isBlank then Text.quoted text else text

/-- The remarks on a switch: its variable and what that holds, and its
value where it is not there. -/
def remarks (s : Switch) (env : String → Option String) : List String :=
  (s.standIn.map fun name => "[env: " ++ name ++ "=" ++ (env name).getD "" ++ "]").toList ++
    (s.fallback.map fun value => "[default: " ++ shown value ++ "]").toList

/-- What stands beside a switch on a page of help. -/
def explanation (s : Switch) (env : String → Option String) : String :=
  String.intercalate " " ((if s.about.isEmpty then [] else [s.about]) ++ s.remarks env)

/-- What stands for a switch on a page of help. -/
def label (s : Switch) : String :=
  (match s.letter with
    | some c => "-" ++ String.ofList [c] ++ ", "
    | none => "    ") ++ s.usage

end Switch

/-- Two columns, indented, the second as far to the right as the longest
text of the first needs. -/
def columns (rows : List (String × String)) : String :=
  let width := (rows.map (·.1.length)).foldl max 0
  String.join (rows.map fun (left, right) =>
    "  " ++ left ++ String.ofList (List.replicate (width + 2 - left.length) ' ') ++ right ++ "\n")

/-- A page: its parts with an empty line between them. -/
def page (parts : List String) : String := String.intercalate "\n" parts

namespace Layout

/-- Whether one switch is listed before another; the numbers say where they
are declared. -/
def listedBefore (a b : Nat × Switch) : Bool :=
  a.1 < b.1 || (a.1 == b.1 && !decide (b.2.sortName < a.2.sortName))

/-- Switches in the order in which help lists them: shared ones among
others, and those of every command last. -/
def listed (own shared last : List Switch) : List Switch :=
  let placed (switches : List Switch) := switches.zipIdx.map fun (s, i) => (i, s)
  (placed own ++ placed shared).mergeSort listedBefore |>.map Prod.snd |>.append last

/-- The list of switches on a page. -/
def options (env : String → Option String) (switches : List Switch) : String :=
  "Options:\n" ++ columns (switches.map fun s => (s.label, s.explanation env))

/-- The page on the whole program. -/
def mainPage (l : Layout) (env : String → Option String) : String :=
  page [l.about ++ "\n",
    "Usage: " ++ l.name ++ " [OPTIONS] <COMMAND>\n",
    "Commands:\n" ++ columns ((l.commands ++ [helpCommand]).map fun c => (c.name, c.about)),
    options env (listed [] l.shared [helpSwitch, versionSwitch])]

/-- The page on a command. -/
def commandPage (l : Layout) (env : String → Option String) (c : CommandLayout) : String :=
  let required := (c.switches.filter (·.isRequired)).map (" " ++ ·.usage)
  page [c.about ++ "\n",
    "Usage: " ++ l.name ++ " " ++ c.name ++ " [OPTIONS]" ++ String.join required ++ "\n",
    options env (listed c.switches l.shared [helpSwitch])]

/-- The page on the command that asks for help. -/
def helpPage (l : Layout) : String :=
  page [helpCommand.about ++ "\n",
    "Usage: " ++ l.name ++ " " ++ helpCommand.name ++ " [COMMAND]...\n",
    "Arguments:\n" ++ columns [("[COMMAND]...", "Print help for the subcommand(s)")]]

/-- **The page of help** on a command, or on the whole program. -/
def help (l : Layout) (env : String → Option String) : Option String → String
  | none => l.mainPage env
  | some name =>
    match l.command? name with
    | some c => l.commandPage env c
    | none => if name == helpCommand.name then l.helpPage else l.mainPage env

/-- The line on the version. -/
def versionLine (l : Layout) : String := l.name ++ " " ++ l.version ++ "\n"

end Layout

/-! ## Refusals -/

/-- The wording of a refusal. -/
def Refusal.message : Refusal → String
  | unknownArgument argument => "unexpected argument '" ++ argument ++ "' found"
  | unknownCommand name => "unrecognized subcommand '" ++ name ++ "'"
  | missingCommand => "a subcommand is required but was not provided"
  | nothingSaid => "a subcommand is required but nothing was provided"
  | missingValue name => "a value is required for '--" ++ name ++ "' but none was supplied"
  | badValue name value => "invalid value '" ++ value ++ "' for '--" ++ name ++ "'"
  | needlessValue name value =>
    "unexpected value '" ++ value ++ "' for '--" ++ name ++ "' found; no more were expected"
  | conflict name other =>
    if name == other then "the argument '--" ++ name ++ "' cannot be used multiple times"
    else "the argument '--" ++ name ++ "' cannot be used with '--" ++ other ++ "'"
  | missingSwitches names =>
    "the following required arguments were not provided: " ++
      String.intercalate ", " (names.map ("--" ++ ·))

end GraphGateway.CommandLine
