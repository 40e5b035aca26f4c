import GraphGateway.Files.Step

/-!
# The files of the machine

The steps of a program on files, taken in the file system that the program
runs in.
-/

namespace GraphGateway.Machine

/-- The failure that an error of the machine means. -/
def failureOf (e : IO.Error) : FileFailure :=
  match e with
  | .noFileOrDirectory _ _ _ => .notFound
  | .alreadyExists _ _ _ => .alreadyThere
  | .inappropriateType _ 21 _ => .isDirectory
  | .inappropriateType _ 20 _ => .notDirectory
  | other => .other (toString other)

/-- Looks what a path leads to. -/
def look (path : String) : IO (Except FileFailure FileEntry) := do
  try
    let octets ← IO.FS.readBinFile path
    return .ok (.file octets.toList)
  catch e =>
    match failureOf e with
    | .isDirectory => return .ok .directory
    | failure => return .error failure

/-- Looks whether something is found at a path. -/
def isThere (path : String) : IO Bool := do
  try
    let _ ← IO.FS.realPath path
    return true
  catch _ => return false

/-- Takes a step that changes files. -/
def change (step : FileStep) : IO (Except FileFailure Unit) := do
  try
    match step with
    | .makeDirectories path => IO.FS.createDirAll path.text
    | .write path octets => IO.FS.writeBinFile path (ByteArray.mk octets.toArray)
    | .move source target => IO.FS.rename source target
    return .ok ()
  catch e => return .error (failureOf e)

end GraphGateway.Machine
