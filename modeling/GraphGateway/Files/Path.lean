import GraphGateway.Text.Blank

/-!
# Paths

A path names a file by the directories on the way to it. Empty names and
single dots on the way mean nothing; a slash at the end says that a
directory is meant.
-/

namespace GraphGateway

/-- **A path**, cut into its parts. -/
structure FilePath where
  /-- Whether it starts at the root and not in the working directory. -/
  absolute : Bool
  /-- The names on the way, the last of them what is meant. -/
  parts : List String
  /-- Whether a directory is meant. -/
  slashed : Bool
  deriving DecidableEq, Repr

namespace FilePath

/-- The pieces of a path between its slashes. -/
def pieces (s : String) : List String := (Text.splitOn (· == '/') s.toList).map String.ofList

/-- **The path that a text names**; the empty text names none. -/
def ofText (s : String) : Option FilePath :=
  if s.isEmpty then none
  else
    let all := pieces s
    some
      { absolute := s.toList.head? == some '/'
        parts := all.filter fun part => part != "" && part != "."
        slashed := all.getLast? == some "" || all.getLast? == some "." }

/-- The text of a path. -/
def text (p : FilePath) : String :=
  (if p.absolute then "/" else "") ++ String.intercalate "/" p.parts ++
    if p.slashed then "/" else ""

/-- The path without its last part, if that leaves one: the directory that
a file is in. -/
def parent? (p : FilePath) : Option FilePath :=
  match p.parts with
  | [] => none
  | [_] => if p.absolute then some ⟨true, [], false⟩ else none
  | first :: rest => some ⟨p.absolute, (first :: rest).dropLast, false⟩

/-- The last part of a path, unless it leads upwards. -/
def fileName? (s : String) : Option String :=
  match (ofText s).bind fun p => p.parts.getLast? with
  | some ".." => none
  | found => found

/-- **The extension of a file's name**: what is behind its last dot, unless
the name starts with that dot. -/
def extension? (s : String) : Option String :=
  (fileName? s).bind fun name =>
    let (extension, before) := name.toList.reverse.span (· != '.')
    match before with
    | '.' :: _ :: _ => some (String.ofList extension.reverse)
    | _ => none

end FilePath

end GraphGateway
