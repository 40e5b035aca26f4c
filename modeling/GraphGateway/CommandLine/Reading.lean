import GraphGateway.CommandLine.Layout
import GraphGateway.Number.Whole

/-!
# Reading command lines

A line is read from its start: switches up to the name of a command, and
then the switches of that command. Each of the two stretches is a level,
and both may give the shared switches. What a level leaves open may be said
by the environment.

A switch that takes a value may have it attached, or take the argument
behind it unless that starts with a dash. Only then is the value checked:
when the next switch stands there, or at the end of the level, so the first
fault of a line is not always the one that stands first.
-/

namespace GraphGateway.CommandLine

/-- **A value that a switch gives.** -/
inductive Value where
  /-- The flag is raised. -/
  | raised
  /-- A text or a path. -/
  | text (value : String)
  /-- A number of 16 bits. -/
  | port (value : UInt16)
  deriving DecidableEq, Repr

/-- **Why a line is refused.** -/
inductive Refusal where
  /-- A switch that there is not, or an argument that nothing asks for. -/
  | unknownArgument (argument : String)
  /-- A command that there is not. -/
  | unknownCommand (name : String)
  /-- No command. -/
  | missingCommand
  /-- Nothing at all. -/
  | nothingSaid
  /-- A switch without its value, or with an empty one that is no path. -/
  | missingValue (switch : String)
  /-- A value that is no number of 16 bits. -/
  | badValue (switch value : String)
  /-- A value attached to a switch that takes none. -/
  | needlessValue (switch value : String)
  /-- A switch that cannot stand beside another, or beside itself. -/
  | conflict (switch other : String)
  /-- Switches that have to be there. -/
  | missingSwitches (names : List String)
  deriving DecidableEq, Repr

/-- **Why reading ends without a command to carry out.** -/
inductive Stop where
  /-- The line asks for help, with a command or with all of them. -/
  | help (command : Option String)
  /-- The line asks for the version. -/
  | version
  /-- The line is refused. -/
  | refused (refusal : Refusal)
  deriving DecidableEq, Repr

/-- What is given under the names of switches. -/
abbrev Given := List (String × Value)

/-- A switch whose value stands behind it: the value, once it was read. -/
structure Pending where
  /-- The switch. -/
  switch : Switch
  /-- The argument behind it. -/
  value : Option String
  deriving Repr

/-- **How far a level is read.** -/
structure Level where
  /-- What the arguments give. -/
  given : Given
  /-- The last switch, if its value is still to be checked. -/
  pending : Option Pending

namespace Level

/-- Nothing is read. -/
def start : Level := ⟨[], none⟩

/-- Whether the next argument is the value of the last switch. -/
def isWaiting (l : Level) : Bool := l.pending.any fun p => p.value.isNone

end Level

/-! ## Values -/

/-- Reads a number of 16 bits; a plus or minus sign may stand before it. -/
def readPort? (s : String) : Option UInt16 :=
  let (isNegative, digits) := match s.toList with
    | '-' :: digits => (true, digits)
    | '+' :: digits => (false, digits)
    | digits => (false, digits)
  match Whole.ofDigits? 10 digits with
  | some n => if n < 65536 && (!isNegative || n == 0) then some n.toUInt16 else none
  | none => none

/-- **Checks the value of a switch.** -/
def checkValue (s : Switch) (value : String) : Except Stop Value :=
  match s.kind with
  | .path => if value.isEmpty then .error (.refused (.missingValue s.name)) else .ok (.text value)
  | .port =>
    match readPort? value with
    | some n => .ok (.port n)
    | none => .error (.refused (.badValue s.name value))
  | _ => .ok (.text value)

namespace Level

/-- Takes a value as given. No switch gives two. -/
def give (l : Level) (s : Switch) (value : Except Stop Value) : Except Stop Level := do
  if (l.given.lookup s.name).isSome then throw (.refused (.conflict s.name s.name))
  return { l with given := l.given ++ [(s.name, ← value)] }

/-- Checks the value of the last switch. -/
def settle (l : Level) : Except Stop Level :=
  match l.pending with
  | none => .ok l
  | some ⟨s, none⟩ => .error (.refused (.missingValue s.name))
  | some ⟨s, some value⟩ => give { l with pending := none } s (checkValue s value)

/-! ## Arguments -/

/-- Takes a switch that stands without a value attached. -/
def takeBare (command : Option String) (l : Level) (s : Switch) : Except Stop Level := do
  let l ← l.settle
  match s.kind with
  | .help => throw (.help command)
  | .version => throw .version
  | .flag => l.give s (.ok .raised)
  | _ => return { l with pending := some ⟨s, none⟩ }

/-- Takes a switch with a value attached. -/
def takeAttached (l : Level) (s : Switch) (value : String) : Except Stop Level := do
  if s.kind.takesValue then
    let l ← l.settle
    l.give s (checkValue s value)
  else throw (.refused (.needlessValue s.name value))

/-- Takes the letters behind a dash. A letter of a switch with a value
takes everything behind it as the value. -/
def takeLetters (switches : List Switch) (command : Option String) (l : Level) :
    List Char → Except Stop Level
  | [] => .ok l
  | c :: rest =>
    match switches.find? (·.letter == some c) with
    | none => .error (.refused (.unknownArgument ("-" ++ String.ofList [c])))
    | some s =>
      if s.kind.takesValue then
        match rest with
        | [] => l.takeBare command s
        | '=' :: value => l.takeAttached s (String.ofList value)
        | value => l.takeAttached s (String.ofList value)
      else do
        let l ← l.takeBare command s
        takeLetters switches command l rest

/-- Takes a name behind two dashes, and the value behind an equals sign. -/
def takeName (switches : List Switch) (command : Option String) (l : Level) (s : List Char) :
    Except Stop Level :=
  let (name, value) := s.span (· != '=')
  match switches.find? (·.name == String.ofList name), value with
  | none, _ => .error (.refused (.unknownArgument ("--" ++ String.ofList name)))
  | some switch, [] => l.takeBare command switch
  | some switch, _ :: value => l.takeAttached switch (String.ofList value)

/-- Takes an argument that is no switch as the value of the last one. -/
def takeValue (l : Level) (argument : String) : Level :=
  { l with pending := l.pending.map fun p => { p with value := some argument } }

/-- Takes the arguments behind a command. There is nothing that an argument
behind two lone dashes could mean. -/
def takeAll (switches : List Switch) (command : String) (l : Level) :
    List String → Except Stop Level
  | [] => .ok l
  | argument :: rest =>
    match argument.toList with
    | ['-', '-'] =>
      match rest with
      | [] => .ok l
      | other :: _ => .error (.refused (.unknownArgument other))
    | '-' :: '-' :: name => do
      takeAll switches command (← l.takeName switches (some command) name) rest
    | '-' :: c :: letters => do
      takeAll switches command (← l.takeLetters switches (some command) (c :: letters)) rest
    | _ =>
      if l.isWaiting then takeAll switches command (l.takeValue argument) rest
      else .error (.refused (.unknownArgument argument))

/-! ## The end of a level -/

/-- What the environment says for the switches that are not given. -/
def standIns (env : String → Option String) (given : Given) :
    List Switch → Except Stop Given
  | [] => .ok []
  | s :: rest => do
    match s.standIn.bind env, given.lookup s.name with
    | some value, none => return (s.name, ← checkValue s value) :: (← standIns env given rest)
    | _, _ => standIns env given rest

/-- The first two switches given that cannot stand beside each other. -/
def conflict? (switches : List Switch) (given : Given) : Option (String × String) :=
  switches.findSome? fun s =>
    let isGiven (name : String) : Bool := (given.lookup name).isSome
    if isGiven s.name then (s.excludes.find? isGiven).map fun other => (s.name, other) else none

/-- The names of the switches that have to be there and are not. -/
def missing (switches : List Switch) (given : Given) : List String :=
  (switches.filter fun s => s.isRequired && (given.lookup s.name).isNone).map (·.name)

/-- Checks that the switches given go together. -/
def check (switches : List Switch) (given : Given) : Except Stop Unit :=
  match conflict? switches given, missing switches given with
  | some (one, other), _ => .error (.refused (.conflict one other))
  | none, [] => .ok ()
  | none, names => .error (.refused (.missingSwitches names))

/-- Ends a level: what the arguments give, and what the environment
adds. -/
def finish (l : Level) (env : String → Option String) (switches : List Switch) :
    Except Stop (Given × Given) := do
  let l ← l.settle
  return (l.given, ← standIns env l.given switches)

end Level

/-! ## Lines -/

/-- **What a line says.** -/
structure Line where
  /-- What the arguments in front of the command give. -/
  before : Given
  /-- The command. -/
  command : CommandLayout
  /-- What the arguments behind the command give. -/
  behind : Given
  /-- What the environment gives besides. -/
  added : Given

namespace Line

/-- **What a line gives for a switch.** What stands behind the command
counts before what stands in front of it, and both before what the
environment says. -/
def value? (l : Line) (name : String) : Option Value :=
  l.behind.lookup name <|> l.before.lookup name <|> l.added.lookup name

/-- Whether a line raises a flag. -/
def isRaised (l : Line) (name : String) : Bool := l.value? name == some .raised

/-- The text that a line gives for a switch. -/
def text? (l : Line) (name : String) : Option String :=
  match l.value? name with
  | some (.text value) => some value
  | _ => none

/-- The number that a line gives for a switch. -/
def port? (l : Line) (name : String) : Option UInt16 :=
  match l.value? name with
  | some (.port value) => some value
  | _ => none

/-- The text of a switch of the command, which may have one of its own. -/
def text (l : Line) (name : String) : String :=
  let fallback := (l.command.switches.find? (·.name == name)).bind (·.fallback)
  (l.text? name <|> fallback).getD ""

end Line

namespace Layout

/-- The stop of a line that asks for help with commands by name. -/
def helpStop (layout : Layout) : List String → Stop
  | [] => .help none
  | [name] =>
    if name == helpCommand.name || (layout.command? name).isSome then .help (some name)
    else .refused (.unknownCommand name)
  | name :: other :: _ =>
    if name == helpCommand.name || (layout.command? name).isSome then
      .refused (.unknownCommand other)
    else .refused (.unknownCommand name)

/-- What an argument is called that stands where a command should. -/
def notACommand (layout : Layout) (argument : String) (isTrailing : Bool) : Refusal :=
  if isTrailing && (argument == helpCommand.name || (layout.command? argument).isSome) then
    .unknownArgument argument
  else .unknownCommand argument

/-- Ends a line that has no command. -/
def endWithout (layout : Layout) (env : String → Option String) (l : Level) : Except Stop Line := do
  let (given, added) ← l.finish env layout.ownSwitches
  throw (.refused (if given.isEmpty && added.isEmpty then .nothingSaid else .missingCommand))

/-- Ends a line with a command, whose arguments are read before the
switches in front of it are checked. -/
def endWith (layout : Layout) (env : String → Option String) (l : Level) (command : CommandLayout)
    (arguments : List String) : Except Stop Line := do
  let switches := layout.switchesOf command
  let level ← Level.start.takeAll switches command.name arguments
  let (behind, added) ← level.finish env switches
  Level.check switches (behind ++ added)
  let (before, addedBefore) ← l.finish env layout.ownSwitches
  Level.check layout.ownSwitches (before ++ addedBefore)
  return { before, command, behind, added }

/-- Reads a line of which some is read. -/
def readFrom (layout : Layout) (env : String → Option String) (l : Level) :
    List String → Except Stop Line
  | [] => layout.endWithout env l
  | argument :: rest =>
    if !l.isWaiting && argument == helpCommand.name then .error (layout.helpStop rest)
    else
      match if l.isWaiting then none else layout.command? argument with
      | some command => layout.endWith env l command rest
      | none =>
        match argument.toList with
        | ['-', '-'] =>
          match rest with
          | [] => layout.endWithout env l
          | other :: _ => .error (.refused (layout.notACommand other true))
        | '-' :: '-' :: name => do
          readFrom layout env (← l.takeName layout.ownSwitches none name) rest
        | '-' :: c :: letters => do
          readFrom layout env (← l.takeLetters layout.ownSwitches none (c :: letters)) rest
        | _ =>
          if l.isWaiting then readFrom layout env (l.takeValue argument) rest
          else .error (.refused (layout.notACommand argument false))

/-- **Reads a line.** -/
def read (layout : Layout) (env : String → Option String) (arguments : List String) :
    Except Stop Line :=
  layout.readFrom env .start arguments

end Layout

end GraphGateway.CommandLine
