import GraphGateway.GraphQL.Document
import GraphGateway.GraphQL.Rule

/-!
# Values of literals

A token of a number or a text stands for a value, and not every such token
does: a whole number must fit 64 bits, and a text may escape only some
characters. This module reads the values.
-/

namespace GraphGateway.GraphQL.Literal

/-- A complaint that is the whole report of a place. -/
def complain {α : Type} (c : Complaint) (place : Place) : Except Refusal α :=
  .error (.report ⟨place, [c]⟩)

/-- The value of decimal digits. -/
def digits (s : List Char) : Nat := s.foldl (fun n c => n * 10 + (c.toNat - '0'.toNat)) 0

/-- **The whole number of a token.** -/
def ofInt (t : Token) (place : Place) : Except Refusal Literal :=
  match t.text.toList with
  | '-' :: rest =>
    let n := digits rest
    if n ≤ 9223372036854775808 then .ok (.int (-(n : Int)))
    else complain (.note "number too small to fit in target type") place
  | s =>
    let n := digits s
    if n < 9223372036854775808 then .ok (.int n)
    else complain (.note "number too large to fit in target type") place

/-- **The number of a token with a fraction or an exponent.** The exponent
needs a digit behind its sign. -/
def ofFloat (t : Token) (place : Place) : Except Refusal Literal :=
  match t.text.toList.getLast? with
  | some c =>
    if c.isDigit then .ok (.float t.text) else complain (.note "invalid float literal") place
  | none => complain (.note "invalid float literal") place

/-- The value of a digit of base sixteen. -/
def hexValue? (c : Char) : Option Nat :=
  if c.isDigit then some (c.toNat - '0'.toNat)
  else if 'a' ≤ c && c ≤ 'f' then some (c.toNat - 'a'.toNat + 10)
  else if 'A' ≤ c && c ≤ 'F' then some (c.toNat - 'A'.toNat + 10)
  else none

/-- The value of digits of base sixteen. -/
def hexNumber? (s : List Char) : Option Nat :=
  s.foldl (fun n c => n.bind fun n => (hexValue? c).map fun d => n * 16 + d) (some 0)

/-- The character of a code of four characters: digits of base sixteen,
the first perhaps a plus sign. -/
def ofCode? (code : List Char) : Option Char :=
  let number := match code with
    | '+' :: rest => hexNumber? rest
    | _ => hexNumber? code
  number.bind fun n => if h : n.isValidChar then some (Char.ofNatAux n h) else none

/-- The character that a letter behind a backslash stands for. -/
def escaped? (c : Char) : Option Char :=
  if c == '"' || c == '\\' || c == '/' then some c
  else if c == 'b' then some '\x10'
  else if c == 'f' then some '\x0C'
  else if c == 'n' then some '\n'
  else if c == 'r' then some '\r'
  else if c == 't' then some '\t'
  else none

/-- The characters of a text between its quotes; `fuel` is at least their
number. -/
def unescape (fuel : Nat) (s : List Char) : Except Complaint (List Char) :=
  match fuel, s with
  | 0, _ => .ok []
  | _, [] => .ok []
  | _, ['\\'] => .ok []
  | fuel + 1, '\\' :: 'u' :: rest =>
    let code := rest.take 4
    if code.length < 4 then
      .error (.unexpected
        ("\\u must have 4 characters after it, only found '" ++ String.ofList code ++ "'"))
    else
      match ofCode? code with
      | some c => do
        let more ← unescape fuel (rest.drop 4)
        return c :: more
      | none => .error (.unexpected (String.ofList code ++ " is not a valid unicode code point"))
  | fuel + 1, '\\' :: c :: rest =>
    match escaped? c with
    | some d => do
      let more ← unescape fuel rest
      return d :: more
    | none => .error (.unexpected ("bad escaped char " ++ Text.quotedChar c))
  | fuel + 1, c :: rest => do
    let more ← unescape fuel rest
    return c :: more

/-- The characters of a token between quotes of a given length. -/
def between (quotes : Nat) (t : Token) : List Char :=
  let s := t.text.toList.drop quotes
  s.take (s.length - quotes)

/-- **The text of a token on one line.** -/
def ofString (t : Token) (place : Place) : Except Refusal Literal :=
  let s := between 1 t
  match unescape s.length s with
  | .ok text => .ok (.string (String.ofList text))
  | .error c => complain c place

/-- The number of octets of some characters. -/
def octets : List Char → Nat
  | [] => 0
  | c :: rest => c.utf8Size + octets rest

/-- The octets of the blanks that a line starts with; none for a blank
line. -/
def indentOf (line : List Char) : Option Nat :=
  if Text.isAllBlank line then none else some (octets (line.takeWhile Text.isBlank))

/-- The line without some octets at its start; none where they end inside a
character. A line that is not longer becomes empty. -/
def dropOctets : Nat → List Char → Option (List Char)
  | 0, line => some line
  | _, [] => some []
  | n, c :: rest => if c.utf8Size ≤ n then dropOctets (n - c.utf8Size) rest else none

/-- A line of a block text, without the indentation that the lines have in
common, and with a backslash before three quotes removed. -/
def unquoteTriples : List Char → List Char
  | '\\' :: '"' :: '"' :: '"' :: rest => ['"', '"', '"'] ++ unquoteTriples rest
  | c :: rest => c :: unquoteTriples rest
  | [] => []

/-- The lines without a blank last one. -/
def dropBlankEnd (lines : List (List Char)) : List (List Char) :=
  match lines.getLast? with
  | some last => if Text.isAllBlank last then lines.dropLast else lines
  | none => lines

/-- **The text of a token on several lines**: its lines without the
indentation that all but the first have in common. The indentation is
measured in octets. -/
def ofBlock (t : Token) (_ : Place) : Except Refusal Literal :=
  match Text.lines (between 3 t) with
  | [] => .ok (.string "")
  | first :: rest =>
    let indent := ((rest.filterMap indentOf).min?).getD 0
    let strip := fun (line : List Char) =>
      if octets line ≤ indent then some [] else (dropOctets indent line).map unquoteTriples
    match rest.mapM strip with
    | none => .error .cutCharacter
    | some rest =>
      let first := Text.trim first
      let all := (if first.isEmpty then [] else [first]) ++ dropBlankEnd rest
      .ok (.string (String.ofList (all.flatMap fun line => line ++ ['\n'])))

end GraphGateway.GraphQL.Literal
