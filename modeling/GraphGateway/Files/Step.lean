import GraphGateway.Files.Disk

/-!
# Changing files in steps

What is put in place carefully is put in place in several steps. A step
that fails leaves everything as it was, but for directories that were made
on the way to another one, and the steps behind it are not taken.
-/

namespace GraphGateway

/-- **A step of changing files.** -/
inductive FileStep where
  /-- Makes a directory and those on the way. -/
  | makeDirectories (path : FilePath)
  /-- Writes a file. -/
  | write (path : String) (octets : List UInt8)
  /-- Moves a file. -/
  | move (source target : String)
  deriving Repr

namespace FileStep

/-- Takes a step. -/
def run (d : Disk) : FileStep → Except FileFailure Disk
  | makeDirectories path => d.makeDirectories path
  | write path octets => d.write path octets
  | move source target => d.move source target

/-- What a step leaves that fails. -/
def unfinished (d : Disk) : FileStep → Disk
  | makeDirectories path => d.unfinished path
  | write _ _ => d
  | move _ _ => d

/-- **Takes steps** up to the first that fails; the tree is what this one
left. -/
def runAll (d : Disk) : List FileStep → Disk × Except FileFailure Unit
  | [] => (d, .ok ())
  | step :: rest =>
    match step.run d with
    | .ok d => runAll d rest
    | .error e => (step.unfinished d, .error e)

end FileStep

end GraphGateway
