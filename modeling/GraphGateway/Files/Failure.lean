/-!
# Failures of the file system

A `FileFailure` is why the file system refused to do something. Where
systems agree on a number for it, the message shows the number.
-/

namespace GraphGateway

/-- **Why the file system refused.** -/
inductive FileFailure where
  /-- Nothing is there. -/
  | notFound
  /-- Something is there already. -/
  | alreadyThere
  /-- A directory was to be something else. -/
  | isDirectory
  /-- Something else was to be a directory. -/
  | notDirectory
  /-- A name holds a character that no name may hold. -/
  | badName
  /-- A name is too long. -/
  | longName
  /-- The file is not a text. -/
  | notText
  /-- Anything else, in the words of the system. -/
  | other (details : String)
  deriving DecidableEq, Repr

/-- The wording of a failure. -/
def FileFailure.message : FileFailure → String
  | notFound => "No such file or directory (os error 2)"
  | alreadyThere => "File exists (os error 17)"
  | isDirectory => "Is a directory (os error 21)"
  | notDirectory => "Not a directory (os error 20)"
  | badName => "file name contained an unexpected NUL byte"
  | longName => "File name too long (os error 36)"
  | notText => "stream did not contain valid UTF-8"
  | other details => details

end GraphGateway
