import GraphGateway.Files.Failure
import GraphGateway.Files.Path
import GraphGateway.Text.Utf8

/-!
# Files and directories

A `Disk` is a tree of directories and files without links, to all of which
access is granted. Its operations are those that a registry and a
configuration need: to look what a path leads to, to read a file, and the
three steps of putting a file in place, which are to make directories, to
write a file, and to move it.

Every operation walks a path from the working directory or the root, and
every part on the way has to be a directory.
-/

namespace GraphGateway

/-- Where something is: the names from the working directory on, or from
the root on behind the name "/". -/
abbrev FilePlace := List String

/-- **What is at a place.** -/
inductive FileEntry where
  /-- A file with its octets. -/
  | file (octets : List UInt8)
  /-- A directory. -/
  | directory
  deriving DecidableEq, Repr

namespace FileEntry

/-- The octets of a file. -/
def octets : FileEntry → Except FileFailure (List UInt8)
  | file octets => .ok octets
  | directory => .error .isDirectory

/-- The text of a file that is one. -/
def text (e : FileEntry) : Except FileFailure String := do
  match Text.Utf8.decode? (← e.octets) with
  | some text => return text
  | none => throw .notText

end FileEntry

/-- **A tree of files and directories.** The working directory, those above
it and the root are always there. -/
structure Disk where
  /-- What is at each place. -/
  entries : List (FilePlace × FileEntry)
  deriving Repr

namespace Disk

/-- The tree without files. -/
def empty : Disk := ⟨[]⟩

/-- What is at a place. -/
def at? (d : Disk) (place : FilePlace) : Option FileEntry :=
  if place.all (· == "..") || place == ["/"] then some .directory else d.entries.lookup place

/-- Puts something at a place. -/
def put (d : Disk) (place : FilePlace) (entry : FileEntry) : Disk :=
  if (d.entries.lookup place).isSome then
    ⟨d.entries.map fun old => if old.1 == place then (place, entry) else old⟩
  else ⟨d.entries ++ [(place, entry)]⟩

/-- Takes away what is at a place. -/
def take (d : Disk) (place : FilePlace) : Disk := ⟨d.entries.filter fun old => old.1 != place⟩

/-- The place above a place. -/
def above (place : FilePlace) : FilePlace :=
  if place == [] || place.getLast? == some ".." then place ++ [".."]
  else if place == ["/"] then place
  else place.dropLast

/-- The number of octets that the longest name has. -/
def longestName : Nat := 255

/-- Walks from a place along the parts of a path. -/
def walk (d : Disk) (place : FilePlace) : List String → Except FileFailure FilePlace
  | [] => .ok place
  | part :: rest =>
    match d.at? place with
    | none => .error .notFound
    | some (.file _) => .error .notDirectory
    | some .directory =>
      if part.utf8ByteSize > longestName then .error .longName
      else d.walk (if part == ".." then above place else place ++ [part]) rest

/-- The place that a path leads to. Nothing has to be there yet. -/
def locate (d : Disk) (path : FilePath) : Except FileFailure FilePlace :=
  if path.parts.any fun part => part.toList.contains '\x00' then .error .badName
  else d.walk (if path.absolute then ["/"] else []) path.parts

/-- The place that a text leads to as a path, which is cut first. -/
def locateText (d : Disk) (path : String) : Except FileFailure (FilePath × FilePlace) :=
  match FilePath.ofText path with
  | none => .error .notFound
  | some p => (d.locate p).map fun place => (p, place)

/-- **What a path leads to.** -/
def find (d : Disk) (path : String) : Except FileFailure FileEntry := do
  let (p, place) ← d.locateText path
  match d.at? place with
  | none => throw .notFound
  | some (.file octets) => if p.slashed then throw .notDirectory else return .file octets
  | some .directory => return .directory

/-- **Reads a file.** -/
def read (d : Disk) (path : String) : Except FileFailure (List UInt8) := do
  (← d.find path).octets

/-- Makes one directory. -/
def makeDirectory (d : Disk) (path : FilePath) : Except FileFailure Disk := do
  let place ← d.locate path
  match d.at? place with
  | some _ => throw .alreadyThere
  | none => return d.put place .directory

/-- Whether a path leads to a directory. -/
def isDirectory (d : Disk) (path : FilePath) : Bool :=
  match d.locate path with
  | .ok place => d.at? place == some .directory
  | .error _ => false

/-- Makes a directory, or accepts one that is there. -/
def ensureDirectory (d : Disk) (path : FilePath) : Except FileFailure Disk :=
  match d.makeDirectory path with
  | .ok made => .ok made
  | .error e => if d.isDirectory path then .ok d else .error e

/-- Makes the directory that the path leads to, whose parts are given the
last first, and those on the way that are missing. -/
def makeDirectoriesFrom (absolute : Bool) : List String → Disk → Except FileFailure Disk
  | [], d => .ok d
  | last :: before, d =>
    let path : FilePath := ⟨absolute, (last :: before).reverse, false⟩
    match d.ensureDirectory path with
    | .ok made => .ok made
    | .error .notFound => do
      let d ← makeDirectoriesFrom absolute before d
      d.ensureDirectory path
    | .error e => .error e

/-- **Makes a directory** and those on the way that are missing. -/
def makeDirectories (d : Disk) (path : FilePath) : Except FileFailure Disk :=
  makeDirectoriesFrom path.absolute path.parts.reverse d

/-- What is left where a directory cannot be made, with the parts given the
last first: those on the way are there that were made before. -/
def unfinishedFrom (absolute : Bool) : List String → Disk → Disk
  | [], d => d
  | last :: before, d =>
    match d.ensureDirectory ⟨absolute, (last :: before).reverse, false⟩ with
    | .error .notFound =>
      match makeDirectoriesFrom absolute before d with
      | .ok between => between
      | .error _ => unfinishedFrom absolute before d
    | _ => d

/-- **What is left where a directory cannot be made**: those on the way are
there that were made before. -/
def unfinished (d : Disk) (path : FilePath) : Disk :=
  unfinishedFrom path.absolute path.parts.reverse d

/-- **Writes a file**, in place of what it held before. -/
def write (d : Disk) (path : String) (octets : List UInt8) : Except FileFailure Disk := do
  let (p, place) ← d.locateText path
  match d.at? (place.dropLast) with
  | some .directory =>
    match d.at? place with
    | some .directory => throw .isDirectory
    | some (.file _) => if p.slashed then throw .notDirectory else return d.put place (.file octets)
    | none => if p.slashed then throw .isDirectory else return d.put place (.file octets)
  | _ => throw .notFound

/-- **Moves a file** to another path, in place of a file that is there. -/
def move (d : Disk) (source target : String) : Except FileFailure Disk := do
  let entry ← d.find source
  let (_, origin) ← d.locateText source
  let (p, place) ← d.locateText target
  match entry, d.at? place with
  | .file _, some .directory => throw .isDirectory
  | .directory, some (.file _) => throw .notDirectory
  | _, _ =>
    if p.slashed && entry != .directory then throw .notDirectory
    else return (d.take origin).put place entry

end Disk

end GraphGateway
