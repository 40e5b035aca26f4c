import GraphGateway.Text.Quoted
import GraphGateway.Number.Shortest
import GraphGateway.Json.Basic

/-!
# Faults of reading JSON

A text can fail to be JSON, and JSON can fail to have the shape that is
asked for. A `Cause` says which of the two rules was broken, a `Fault`
adds the place: the number of octets before it.

The wording is in `Cause.message`; `Fault.message` adds the line and the
column of the place, counted in octets from the line's start.
-/

namespace GraphGateway.Json

/-- **What was found** where something else was expected. -/
inductive Found where
  /-- A scalar. -/
  | scalar (v : Scalar)
  /-- A sequence. -/
  | array
  /-- An object. -/
  | object

/-- The notation of numbers in JSON texts: an exponent is used below
`1e-5` and from `1e16` on. -/
def notationOfNumbers : Notation := ⟨-5, 16⟩

/-- The text of a number. -/
def Number.text : Number → String
  | natural n => toString n.toNat
  | negative n => "-" ++ toString (n.val + 1)
  | float x => notationOfNumbers.write x

/-- The wording of what was found. -/
def Found.text : Found → String
  | scalar .null => "null"
  | scalar (.bool b) => "boolean `" ++ (if b then "true" else "false") ++ "`"
  | scalar (.number (.float x)) => "floating point `" ++ notationOfNumbers.write x ++ "`"
  | scalar (.number n) => "integer `" ++ n.text ++ "`"
  | scalar (.string s) => "string " ++ Text.quoted s
  | array => "sequence"
  | object => "map"

/-- **Why reading failed.** -/
inductive Cause where
  /-- The text ends inside an array. -/
  | endInArray
  /-- The text ends inside an object. -/
  | endInObject
  /-- The text ends inside a string. -/
  | endInString
  /-- The text ends where a value should be. -/
  | endInValue
  /-- A key is not followed by a colon. -/
  | colonExpected
  /-- An item is followed by neither a comma nor the end of its array. -/
  | arrayCommaOrEndExpected
  /-- A member is followed by neither a comma nor the end of its object. -/
  | objectCommaOrEndExpected
  /-- A word other than `null`, `true` and `false`. -/
  | wordExpected
  /-- No value where one should be. -/
  | valueExpected
  /-- A backslash with something that it does not escape. -/
  | badEscape
  /-- A malformed number. -/
  | badNumber
  /-- A number beyond every floating-point number. -/
  | numberOutOfRange
  /-- A string that is not well-formed UTF-8. -/
  | badUnicode
  /-- A control character in a string. -/
  | controlCharacter
  /-- A key that is not a string. -/
  | keyNotString
  /-- Half of a surrogate pair. -/
  | loneSurrogate
  /-- A first half of a surrogate pair that nothing follows. -/
  | pairUnfinished
  /-- A comma before the end of an array or object. -/
  | trailingComma
  /-- More text after the value. -/
  | trailingCharacters
  /-- Containers nested too deeply. -/
  | tooDeep
  /-- A value of another kind. -/
  | wrongKind (found : Found) (expected : String)
  /-- A value of the right kind that is not allowed. -/
  | wrongValue (found : Found) (expected : String)
  /-- A sequence with a wrong number of items. -/
  | wrongLength (length : Nat) (expected : String)
  /-- A name that is none of the names allowed. -/
  | unknownName (name : String) (allowed : List String)
  /-- A member that is not there. -/
  | missingMember (key : String)
  /-- A member that is there twice. -/
  | repeatedMember (key : String)
  /-- A text that breaks a rule of its own. -/
  | rejected (reason : String)

/-- The names of a list in the wording "`a`", "`a` or `b`" or "one of
`a`, `b`, `c`". -/
def oneOf : List String → String
  | [a] => "`" ++ a ++ "`"
  | [a, b] => "`" ++ a ++ "` or `" ++ b ++ "`"
  | names => "one of " ++ String.intercalate ", " (names.map fun name => "`" ++ name ++ "`")

/-- **The wording of a cause.** -/
def Cause.message : Cause → String
  | endInArray => "EOF while parsing a list"
  | endInObject => "EOF while parsing an object"
  | endInString => "EOF while parsing a string"
  | endInValue => "EOF while parsing a value"
  | colonExpected => "expected `:`"
  | arrayCommaOrEndExpected => "expected `,` or `]`"
  | objectCommaOrEndExpected => "expected `,` or `\x7d`"
  | wordExpected => "expected ident"
  | valueExpected => "expected value"
  | badEscape => "invalid escape"
  | badNumber => "invalid number"
  | numberOutOfRange => "number out of range"
  | badUnicode => "invalid unicode code point"
  | controlCharacter => "control character (\\u0000-\\u001F) found while parsing a string"
  | keyNotString => "key must be a string"
  | loneSurrogate => "lone leading surrogate in hex escape"
  | pairUnfinished => "unexpected end of hex escape"
  | trailingComma => "trailing comma"
  | trailingCharacters => "trailing characters"
  | tooDeep => "recursion limit exceeded"
  | wrongKind found expected => "invalid type: " ++ found.text ++ ", expected " ++ expected
  | wrongValue found expected => "invalid value: " ++ found.text ++ ", expected " ++ expected
  | wrongLength length expected => "invalid length " ++ toString length ++ ", expected " ++ expected
  | unknownName name allowed => "unknown variant `" ++ name ++ "`, expected " ++ oneOf allowed
  | missingMember key => "missing field `" ++ key ++ "`"
  | repeatedMember key => "duplicate field `" ++ key ++ "`"
  | rejected reason => reason

/-- **A fault**: a cause and the number of octets read before it. -/
structure Fault where
  /-- Why reading failed. -/
  cause : Cause
  /-- How many octets of the text come before the fault. -/
  offset : Nat

/-- The line and the column of the place after the octets `before`: one
more than the line feeds, and the octets since the last of them. -/
def lineAndColumn (before : List UInt8) : Nat × Nat :=
  before.foldl
    (fun (place : Nat × Nat) (b : UInt8) =>
      if b == 0x0A then (place.1 + 1, 0) else (place.1, place.2 + 1)) (1, 0)

/-- **The wording of a fault** in the text it was found in. -/
def Fault.message (text : List UInt8) (fault : Fault) : String :=
  let (line, column) := lineAndColumn (text.take fault.offset)
  fault.cause.message ++ " at line " ++ toString line ++ " column " ++ toString column

end GraphGateway.Json
