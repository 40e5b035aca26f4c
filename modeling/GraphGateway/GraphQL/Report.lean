import GraphGateway.GraphQL.Token

/-!
# Reports of documents that cannot be read

A document that cannot be read is reported at a place, with what stands
there and what could stand there instead. Rules of the grammar that fail
at the same place put what they expect into one report; of rules that fail
at different places the one that got further is reported.
-/

namespace GraphGateway.GraphQL

/-- **An entry of a report.** -/
inductive Complaint where
  /-- What stands at the place. -/
  | unexpected (what : String)
  /-- What could stand there instead. -/
  | expected (what : String)
  /-- Something else about the place. -/
  | note (what : String)
  deriving DecidableEq, Repr

/-- **A report**: a place, with entries that are all different. -/
structure Report where
  /-- Where the document cannot be read on. -/
  place : Place
  /-- What is to be said about it. -/
  complaints : List Complaint
  deriving Repr

/-- The complaint about a place without a token. -/
def NoToken.complaint : NoToken → Complaint
  | endOfInput => .unexpected "end of input"
  | unexpected what => .unexpected what
  | tooDeep => .note "Recursion limit exceeded"

namespace Report

/-- A report with nothing to say yet. -/
def blank (place : Place) : Report := ⟨place, []⟩

/-- Adds an entry, unless it is there already. -/
def add (r : Report) (c : Complaint) : Report :=
  if r.complaints.contains c then r else { r with complaints := r.complaints ++ [c] }

/-- The report of the further place, or one of both at the same place. -/
def merge (a b : Report) : Report :=
  match compare a.place b.place with
  | .lt => b
  | .gt => a
  | .eq => b.complaints.foldl add a

/-- The things expected, joined by commas and a last "or". -/
def alternatives : List String → String
  | [] => ""
  | [last] => last
  | [last, other] => last ++ " or " ++ other
  | first :: rest => first ++ ", " ++ alternatives rest

/-- What was unexpected. -/
def unexpectedOf : Complaint → Option String
  | .unexpected what => some what
  | _ => none

/-- What was expected. -/
def expectedOf : Complaint → Option String
  | .expected what => some what
  | _ => none

/-- What else was noted. -/
def noteOf : Complaint → Option String
  | .note what => some what
  | _ => none

/-- **The wording of a report**: a line for the place, one for each thing
that was not expected, one for all that was, and one for each note. -/
def message (r : Report) : String :=
  let expected := r.complaints.filterMap expectedOf
  "Parse error at " ++ toString r.place.line ++ ":" ++ toString r.place.column ++ "\n" ++
    String.join
      ((r.complaints.filterMap unexpectedOf).map fun what => "Unexpected " ++ what ++ "\n") ++
    (if expected.isEmpty then "" else "Expected " ++ alternatives expected ++ "\n") ++
    String.join ((r.complaints.filterMap noteOf).map fun what => what ++ "\n")

end Report

end GraphGateway.GraphQL
