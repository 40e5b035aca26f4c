import GraphGateway.Yaml.Cursor

/-!
# Tokens of YAML

A `Token` is a sign, a name or a scalar of a text; some tokens stand for
no character but for a change of the indentation. A `Placed` one knows
where it starts and stops.
-/

namespace GraphGateway.Yaml

/-- How a scalar is written. -/
inductive Style where
  /-- Without quotes. -/
  | plain
  /-- In single quotes. -/
  | singleQuoted
  /-- In double quotes. -/
  | doubleQuoted
  /-- As a block whose lines are kept. -/
  | literal
  /-- As a block whose lines are joined. -/
  | folded
  deriving DecidableEq, Repr

/-- **A token.** -/
inductive Token where
  /-- The end of the text. -/
  | streamEnd
  /-- The version that a document is written in. -/
  | version (major minor : Nat)
  /-- What a handle of tags stands for. -/
  | tagMeaning (handle : String) (address : List UInt8)
  /-- The line before a document. -/
  | documentStart
  /-- The line behind a document. -/
  | documentEnd
  /-- The start of an indented sequence. -/
  | blockSequenceStart
  /-- The start of an indented mapping. -/
  | blockMappingStart
  /-- The end of what is indented. -/
  | blockEnd
  /-- The bracket that opens a sequence. -/
  | flowSequenceStart
  /-- The bracket that closes a sequence. -/
  | flowSequenceEnd
  /-- The brace that opens a mapping. -/
  | flowMappingStart
  /-- The brace that closes a mapping. -/
  | flowMappingEnd
  /-- The dash before an item. -/
  | blockEntry
  /-- The comma between entries. -/
  | flowEntry
  /-- The start of a key. -/
  | key
  /-- The start of a value. -/
  | value
  /-- A reference to an anchor. -/
  | reference (name : String)
  /-- A name for what follows. -/
  | anchor (name : String)
  /-- A tag: its handle, which may be empty, and the rest. -/
  | tag (handle : String) (rest : List UInt8)
  /-- A scalar. -/
  | scalar (text : String) (style : Style)
  deriving DecidableEq, Repr

/-- A token with its place. -/
structure Placed where
  /-- The token. -/
  token : Token
  /-- The place of its first character. -/
  start : Place
  /-- The place behind its last character. -/
  stop : Place
  deriving DecidableEq, Repr

end GraphGateway.Yaml
