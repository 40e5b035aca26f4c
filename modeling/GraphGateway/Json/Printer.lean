import GraphGateway.Json.Fault

/-!
# Printing JSON

A value is written in one of two layouts: `compact` puts nothing between
the tokens, `pretty` puts every part of a container on a line of its own,
indented by two blanks for each container around it. An empty container
is written without a line break in either.
-/

namespace GraphGateway.Json

/-- A digit of base sixteen, in lower case. -/
def hexDigit (n : Nat) : Char := if n < 10 then Char.ofNat (0x30 + n) else Char.ofNat (0x57 + n)

/-- A character inside a string literal. Only the quote, the backslash and
the controls are escaped. -/
def escapeChar (c : Char) : List Char :=
  if c == '"' then ['\\', '"']
  else if c == '\\' then ['\\', '\\']
  else if c.toNat < 0x20 then
    match c with
    | '\x08' => ['\\', 'b']
    | '\t' => ['\\', 't']
    | '\n' => ['\\', 'n']
    | '\x0C' => ['\\', 'f']
    | '\r' => ['\\', 'r']
    | _ => ['\\', 'u', '0', '0', hexDigit (c.toNat / 16), hexDigit (c.toNat % 16)]
  else [c]

/-- A string literal. -/
def stringLiteral (s : String) : List Char := '"' :: s.toList.flatMap escapeChar ++ ['"']

/-- A value that is not a container, or an empty container. -/
def scalarText : Json → List Char
  | null => "null".toList
  | bool true => "true".toList
  | bool false => "false".toList
  | number n => n.text.toList
  | string s => stringLiteral s
  | array _ => "[]".toList
  | object _ => ['\x7b', '\x7d']

mutual

/-- The characters of a value without blanks. -/
def compactText : Json → List Char
  | null => scalarText null
  | bool b => scalarText (bool b)
  | number n => scalarText (number n)
  | string s => scalarText (string s)
  | array items => '[' :: compactItems items ++ [']']
  | object members => '\x7b' :: compactMembers members ++ ['\x7d']

/-- The characters of the items of an array without blanks. -/
def compactItems : List Json → List Char
  | [] => []
  | [item] => compactText item
  | item :: rest => compactText item ++ ',' :: compactItems rest

/-- The characters of the members of an object without blanks. -/
def compactMembers : List (String × Json) → List Char
  | [] => []
  | [(key, value)] => stringLiteral key ++ ':' :: compactText value
  | (key, value) :: rest =>
    stringLiteral key ++ ':' :: compactText value ++ ',' :: compactMembers rest

end

/-- **The text of a value without blanks.** -/
def compact (value : Json) : String := String.ofList (compactText value)

/-- A line break and the indentation of a depth. -/
def newLine (depth : Nat) : List Char := '\n' :: List.replicate (2 * depth) ' '

mutual

/-- The characters of a value over several lines, inside `depth`
containers. -/
def prettyText (depth : Nat) : Json → List Char
  | null => scalarText null
  | bool b => scalarText (bool b)
  | number n => scalarText (number n)
  | string s => scalarText (string s)
  | array [] => scalarText (array [])
  | array (item :: items) =>
    '[' :: newLine (depth + 1) ++ prettyText (depth + 1) item ++ prettyItems (depth + 1) items ++
      newLine depth ++ [']']
  | object [] => scalarText (object [])
  | object ((key, value) :: members) =>
    '\x7b' :: newLine (depth + 1) ++ stringLiteral key ++ ':' :: ' ' ::
      prettyText (depth + 1) value ++ prettyMembers (depth + 1) members ++ newLine depth ++ ['\x7d']

/-- The characters of the items behind the first. -/
def prettyItems (depth : Nat) : List Json → List Char
  | [] => []
  | item :: rest => ',' :: newLine depth ++ prettyText depth item ++ prettyItems depth rest

/-- The characters of the members behind the first. -/
def prettyMembers (depth : Nat) : List (String × Json) → List Char
  | [] => []
  | (key, value) :: rest =>
    ',' :: newLine depth ++ stringLiteral key ++ ':' :: ' ' :: prettyText depth value ++
      prettyMembers depth rest

end

/-- **The text of a value over several lines.** -/
def pretty (value : Json) : String := String.ofList (prettyText 0 value)

end GraphGateway.Json
