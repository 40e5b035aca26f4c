import GraphGateway.Number.Whole
import GraphGateway.Text.Blank

/-!
# Logging

The program logs events, each of a level and from a part of the program,
its target. A `LogFilter` says which of them are shown: it is a list of
rules, written with commas between them, and of the rules that concern an
event the most specific one decides.

A rule is a level, a target with or without a level, or either with a span
or a field in brackets. Rules on spans never concern an event outside of
all spans.
-/

namespace GraphGateway

/-- **How important an event is**, from nothing to everything. -/
inductive LogLevel where
  | off | error | warn | info | debug | trace
  deriving DecidableEq, Repr

/-- **Something that is logged.** -/
structure LogEvent where
  /-- Its level. -/
  level : LogLevel
  /-- The part of the program that it comes from. -/
  target : String
  /-- What happened. -/
  message : String
  deriving DecidableEq, Repr

namespace LogLevel

/-- The levels in order, by their names. -/
def names : List (String × LogLevel) :=
  [("off", off), ("error", error), ("warn", warn), ("info", info), ("debug", debug),
    ("trace", trace)]

/-- The place of a level in the order. -/
def rank (l : LogLevel) : Nat := names.findIdx (·.2 == l)

/-- The level that a text names: its name in any case, or its place. -/
def ofText? (s : List Char) : Option LogLevel :=
  match Whole.read 18446744073709551615 s with
  | .ok n => names[n]?.map Prod.snd
  | .error _ => names.lookup (String.ofList (s.map Char.toLower))

end LogLevel

/-- **A rule on which events are shown.** -/
structure LogRule where
  /-- What the target of an event has to start with. -/
  target : Option (List Char) := none
  /-- The span that the event has to happen in. -/
  span : Option (List Char) := none
  /-- The field that the event has to have. -/
  field : Option (List Char) := none
  /-- The level up to which events are shown. -/
  level : LogLevel := .trace
  deriving Repr

namespace LogRule

/-- Reads the level at the end of a rule; an empty one shows everything. -/
def readLevel? (r : LogRule) (s : List Char) : Option LogRule :=
  if s.isEmpty then some r else (LogLevel.ofText? s).map fun level => { r with level }

/-- Reads what stands behind the brackets of a rule. -/
def readEnd? (r : LogRule) : List Char → Option LogRule
  | [] => some r
  | '=' :: level => r.readLevel? level
  | _ => none

/-- Reads the brackets of a rule: a span, a field in braces, or both. -/
def readBrackets? (r : LogRule) (s : List Char) : Option LogRule :=
  match s.span fun c => c != ']' && c != '{' with
  | (span, ']' :: behind) => { r with span := some span }.readEnd? behind
  | (span, '{' :: rest) =>
    match rest.span (· != '}') with
    | (c :: name, '}' :: ']' :: behind) =>
      let span := if span.isEmpty then none else some span
      { r with field := some (c :: name), span }.readEnd? behind
    | _ => none
  | _ => none

/-- Whether a rule may start with a character. -/
def isStart (c : Char) : Bool :=
  c.isAlphanum || c == '-' || c == ':' || c == '_' || c.toNat ≥ 0x80

/-- **Reads a rule.** A word that is no level is a target. -/
def parse? (s : List Char) : Option LogRule :=
  match Text.trim s with
  | [] => none
  | '[' :: rest => readBrackets? {} rest
  | c :: rest =>
    if !isStart c then none
    else
      match (c :: rest).span fun c => c != '=' && c != '[' with
      | (target, '=' :: level) => readLevel? { target := some target } level
      | (target, '[' :: behind) => readBrackets? { target := some target } behind
      | (word, _) =>
        match LogLevel.ofText? word with
        | some level => some { level }
        | none => some { target := some word }

/-- Whether a rule concerns an event, which has no field but its message and
happens in no span. -/
def concerns (r : LogRule) (e : LogEvent) : Bool :=
  r.span.isNone && r.field.all (· == "message".toList) &&
    r.target.all fun target => target.isPrefixOf e.target.toList

/-- How specific a rule is. -/
def specificity (r : LogRule) : Nat :=
  2 * (r.target.map fun target => target.length + 1).getD 0 + if r.field.isSome then 1 else 0

end LogRule

/-- **Which events are shown.** -/
abbrev LogFilter := List LogRule

namespace LogFilter

/-- The texts of the rules of a filter. -/
def pieces (s : String) : List (List Char) :=
  (Text.splitOn (· == ',') s.toList).filter (!·.isEmpty)

/-- The filter of some rules; without rules a single one. -/
def orOnly (level : LogLevel) (rules : List LogRule) : LogFilter :=
  if rules.isEmpty then [{ level }] else rules

/-- **Reads a filter**, if all its rules can be read. Without rules nothing
is shown. -/
def parse? (s : String) : Option LogFilter := ((pieces s).mapM LogRule.parse?).map (orOnly .off)

/-- Reads a filter and leaves out the rules that cannot be read. Without
rules errors are shown. -/
def parseReadable (s : String) : LogFilter := orOnly .error ((pieces s).filterMap LogRule.parse?)

/-- The rule that decides on an event: the most specific one, and of several
the last. -/
def deciding? (f : LogFilter) (e : LogEvent) : Option LogRule :=
  (f.filter (·.concerns e)).foldl (fun best r =>
    match best with
    | some b => if r.specificity < b.specificity then some b else some r
    | none => some r) none

/-- **Whether an event is shown.** -/
def shows (f : LogFilter) (e : LogEvent) : Bool :=
  (f.deciding? e).any fun r => e.level.rank ≤ r.level.rank

/-- **The filter that a program logs by**: that of the variable made for it,
or else that of the switches, or else that of the configuration. -/
def choose (fromVariable : Option String) (quiet verbose : Bool) (configured : String) :
    LogFilter :=
  match fromVariable with
  | some s => parseReadable s
  | none =>
    if quiet then [{ level := .warn }]
    else if verbose then [{ level := .debug }]
    else (parse? configured).getD [{ level := .info }]

end LogFilter

end GraphGateway
