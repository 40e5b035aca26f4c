import GraphGateway.Text.Quoted
import GraphGateway.Text.Blank

/-!
# Tokens of GraphQL documents

A document is cut into tokens before it is read. Blanks, commas, comments
and byte order marks stand between tokens and mean nothing.

`tokenize` cuts a document and says how it ends: with the document, or
with something that is no token. Brackets may be open at most 50 deep;
the bracket beyond is no token.
-/

namespace GraphGateway.GraphQL

/-- **The kinds of tokens.** -/
inductive TokenKind where
  /-- A bracket or another sign. -/
  | punctuator
  /-- A name or a keyword. -/
  | name
  /-- A whole number. -/
  | intValue
  /-- A number with a fraction or an exponent. -/
  | floatValue
  /-- A text on one line. -/
  | stringValue
  /-- A text on several lines. -/
  | blockString
  deriving DecidableEq, Repr

/-- The name of a kind in messages. -/
def TokenKind.label : TokenKind → String
  | punctuator => "Punctuator"
  | name => "Name"
  | intValue => "IntValue"
  | floatValue => "FloatValue"
  | stringValue => "StringValue"
  | blockString => "BlockString"

/-- **A token.** -/
structure Token where
  /-- Its kind. -/
  kind : TokenKind
  /-- Its text. -/
  text : String
  deriving DecidableEq, Repr

/-- A token in messages. -/
def Token.shown (t : Token) : String := "\x60" ++ t.text ++ "[" ++ t.kind.label ++ "]\x60"

/-- **A place in a document.** -/
structure Place where
  /-- The line, from 1. -/
  line : Nat
  /-- The column, from 1. -/
  column : Nat
  deriving DecidableEq, Repr

/-- Earlier places are smaller. -/
instance : Ord Place where
  compare a b := (compare a.line b.line).then (compare a.column b.column)

/-- The place a number of columns further. -/
def Place.shift (p : Place) (n : Nat) : Place := { p with column := p.column + n }

/-- The start of the next line. -/
def Place.nextLine (p : Place) : Place := ⟨p.line + 1, 1⟩

/-- **Why there is no token.** -/
inductive NoToken where
  /-- The document ends. -/
  | endOfInput
  /-- Something else stands there. -/
  | unexpected (what : String)
  /-- Too many brackets are open. -/
  | tooDeep
  deriving DecidableEq, Repr

namespace Token

/-- Skips a comment, up to the end of its line; also the place behind it. A
comment that ends the document takes no columns. -/
def skipComment (place : Place) : List Char → Place × List Char
  | [] => (place, [])
  | c :: rest => if c == '\r' || c == '\n' then (place.nextLine, rest) else skipComment place rest

/-- Skips what stands between tokens. `fuel` is at least the number of
characters. -/
def skipIgnored (fuel : Nat) (place : Place) (s : List Char) : Place × List Char :=
  match fuel, s with
  | 0, _ => (place, s)
  | _, [] => (place, [])
  | fuel + 1, c :: rest =>
    if c == '\uFEFF' || c == '\r' then skipIgnored fuel place rest
    else if c == '\t' then skipIgnored fuel (place.shift 8) rest
    else if c == '\n' then skipIgnored fuel place.nextLine rest
    else if c == ' ' || c == ',' then skipIgnored fuel (place.shift 1) rest
    else if c == '#' then
      let (place, rest) := skipComment place rest
      skipIgnored fuel place rest
    else (place, s)

/-- Whether a character may start a name. -/
def isNameStart (c : Char) : Bool := c.isAlpha || c == '_'

/-- Whether a character may stand inside a name. -/
def isNamePart (c : Char) : Bool := c.isAlphanum || c == '_'

/-- Whether a character ends a numeral. -/
def endsNumeral (c : Char) : Bool := " \n\r\t,#!$:=@|&()[]\x7b\x7d".toList.contains c

/-- Whether a text is a whole number: no leading zero but a lone one, and
perhaps a minus sign. -/
def isInt (s : List Char) : Bool :=
  s == ['0'] || s == ['-', '0'] ||
    (s.head? != some '0' && s != ['-'] && !(['-', '0'].isPrefixOf s) && (s.drop 1).all Char.isDigit)

/-- Whether a text is the digits of a fraction. -/
def isFraction (s : List Char) : Bool := !s.isEmpty && s.all Char.isDigit

/-- Whether a text is an exponent: a sign or a digit from 1 to 8, and then
digits. -/
def isExponent : List Char → Bool
  | [] => false
  | c :: rest => (c == '-' || c == '+' || ('0' < c && c < '9')) && rest.all Char.isDigit

/-- The text before and behind the last character that satisfies `p`. -/
def splitLast (p : Char → Bool) (s : List Char) : Option (List Char × List Char) :=
  match s.reverse.span (fun c => !p c) with
  | (_, []) => none
  | (behind, _ :: before) => some (before.reverse, behind.reverse)

/-- Whether a character starts an exponent. -/
def isExponentMark (c : Char) : Bool := c == 'e' || c == 'E'

/-- Whether a text is a number with a fraction, an exponent, or both. -/
def isFloat (s : List Char) : Bool :=
  match splitLast isExponentMark s with
  | some (before, exponent) =>
    if exponent.contains '.' then false
    else
      match splitLast (· == '.') before with
      | some (whole, fraction) => isInt whole && isFraction fraction && isExponent exponent
      | none => isInt before && isExponent exponent
  | none =>
    match splitLast (· == '.') s with
    | some (whole, fraction) => isInt whole && isFraction fraction
    | none => false

/-- The token of a numeral. -/
def ofNumeral (s : List Char) : Except NoToken Token :=
  let text := String.ofList s
  if s.any fun c => c == '.' || isExponentMark c then
    if isFloat s then .ok ⟨.floatValue, text⟩
    else .error (.unexpected ("unsupported float " ++ Text.quoted text))
  else if isInt s then .ok ⟨.intValue, text⟩
  else .error (.unexpected ("unsupported integer " ++ Text.quoted text))

/-- The characters of a text up to its closing quote, which is included;
`escaped` says that a backslash stands before. -/
def takeString (escaped : Bool) : List Char → Option (List Char)
  | [] => none
  | c :: rest =>
    if c == '"' && !escaped then some ['"']
    else if c == '\n' then none
    else (takeString (!escaped && c == '\\') rest).map (c :: ·)

/-- The characters of a block text up to its closing quotes, which are
included; `escaped` says that a backslash stands before. Three quotes
behind a backslash do not close the text, and are passed together. -/
def takeBlock (escaped : Bool) : List Char → Option (List Char)
  | '"' :: '"' :: '"' :: rest =>
    if escaped then (takeBlock false rest).map (['"', '"', '"'] ++ ·) else some ['"', '"', '"']
  | c :: rest => (takeBlock (c == '\\') rest).map (c :: ·)
  | [] => none

/-- The token that a document starts with. -/
def first (c : Char) (rest : List Char) : Except NoToken Token :=
  if "()[]\x7b\x7d!$:=@|&".toList.contains c then .ok ⟨.punctuator, String.singleton c⟩
  else if c == '.' then
    if ['.', '.'].isPrefixOf rest then .ok ⟨.punctuator, "..."⟩
    else .error (.unexpected "bare dot '.' is not supported, only \"...\"")
  else if isNameStart c then .ok ⟨.name, String.ofList (c :: rest.takeWhile isNamePart)⟩
  else if c == '-' || c.isDigit then ofNumeral (c :: rest.takeWhile fun d => !endsNumeral d)
  else if c == '"' then
    if ['"', '"'].isPrefixOf rest then
      match takeBlock false (rest.drop 2) with
      | some block => .ok ⟨.blockString, String.ofList (['"', '"', '"'] ++ block)⟩
      | none => .error (.unexpected "unterminated block string value")
    else
      match takeString false rest with
      | some string => .ok ⟨.stringValue, String.ofList ('"' :: string)⟩
      | none => .error (.unexpected "unterminated string value")
  else .error (.unexpected ("unexpected character " ++ Text.quotedChar c))

/-- The place behind a token. -/
def behind (t : Token) (place : Place) : Place :=
  let s := t.text.toList
  if t.kind == .blockString && s.contains '\n' then
    ⟨place.line + s.count '\n', (s.reverse.takeWhile (· != '\n')).length + 1⟩
  else place.shift s.length

end Token

/-- **A document cut into tokens**: each with its place, and how the
document ends. -/
structure Tokens where
  /-- The tokens. -/
  list : List (Token × Place)
  /-- Why there is no other token. -/
  stop : NoToken
  /-- Where there is no other token. -/
  stopPlace : Place

/-- Cuts a document from a place on. `depth` is the number of brackets that
may still be opened, `fuel` at least the number of characters. -/
def tokenizeFrom (fuel depth : Nat) (place : Place) (s : List Char) : Tokens :=
  match fuel, s with
  | 0, _ => ⟨[], .endOfInput, place⟩
  | _, [] => ⟨[], .endOfInput, place⟩
  | fuel + 1, c :: rest =>
    let opens := c == '(' || c == '[' || c == '{'
    let closes := c == ')' || c == ']' || c == '}'
    if opens && depth == 0 then ⟨[], .tooDeep, place⟩
    else
      match Token.first c rest with
      | .error stop => ⟨[], stop, place⟩
      | .ok token =>
        let depth := if opens then depth - 1 else if closes then depth + 1 else depth
        let behind := s.drop token.text.length
        let (next, s) := Token.skipIgnored behind.length (token.behind place) behind
        let tokens := tokenizeFrom fuel depth next s
        { tokens with list := (token, place) :: tokens.list }

/-- **Cuts a document into tokens.** -/
def tokenize (document : String) : Tokens :=
  let s := document.toList
  let (place, s) := Token.skipIgnored s.length ⟨1, 1⟩ s
  tokenizeFrom s.length 50 place s

end GraphGateway.GraphQL
