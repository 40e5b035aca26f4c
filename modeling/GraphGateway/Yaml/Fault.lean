/-!
# Faults of YAML texts

A text that is not YAML breaks a rule at a place, and often the rule
belongs to something that began earlier: a quoted scalar that is not
closed, a key without its colon. A `Fault` holds the broken rule, the
place, and what was being read since when. `Fault.message` is its wording.
-/

namespace GraphGateway.Yaml

/-- **A place in a text**, counted in characters. -/
structure Place where
  /-- The number of characters before the place. -/
  index : Nat
  /-- The number of lines before its line. -/
  line : Nat
  /-- The number of characters before it on its line. -/
  column : Nat
  deriving DecidableEq, Repr

namespace Place

/-- The start of a text. -/
def start : Place := ⟨0, 0, 0⟩

/-- The place behind a character that ends no line. -/
def next (p : Place) : Place := ⟨p.index + 1, p.line, p.column + 1⟩

/-- The start of the next line, behind a line break of `size` characters. -/
def nextLine (p : Place) (size : Nat) : Place := ⟨p.index + size, p.line + 1, 0⟩

/-- Whether the place is the start of the first line, which messages leave
unsaid. -/
def isFirst (p : Place) : Bool := p.line == 0 && p.column == 0

/-- The text of a place: its line and column, both counted from one. -/
def text (p : Place) : String :=
  "line " ++ toString (p.line + 1) ++ " column " ++ toString (p.column + 1)

/-- The text of a place behind what is at it. -/
def suffix (p : Place) : String := if p.isFirst then "" else " at " ++ p.text

end Place

/-- **What was being read** when a rule was broken. -/
inductive Activity where
  /-- The start of the next token. -/
  | nextToken
  /-- A key that is written on one line before its colon. -/
  | simpleKey
  /-- The name of an anchor. -/
  | anchor
  /-- The name of an alias. -/
  | reference
  /-- A tag. -/
  | tag
  /-- The address in a tag. -/
  | tagAddress
  /-- A directive. -/
  | directive
  /-- The version in a directive. -/
  | versionDirective
  /-- A directive for tags. -/
  | tagDirective
  /-- The handle in a directive for tags. -/
  | tagDirectiveHandle
  /-- The rest of such a handle. -/
  | tagDirectiveHandleEnd
  /-- The address in a directive for tags. -/
  | tagDirectiveAddress
  /-- A scalar in the form of a block. -/
  | blockScalar
  /-- A scalar in quotes. -/
  | quotedScalar
  /-- An escape in a scalar in quotes. -/
  | escape
  /-- A scalar without quotes. -/
  | plainScalar
  /-- A node and its tag. -/
  | node
  /-- A node outside brackets. -/
  | blockNode
  /-- A node in brackets. -/
  | flowNode
  /-- A sequence outside brackets. -/
  | blockSequence
  /-- A mapping outside brackets. -/
  | blockMapping
  /-- A sequence in brackets. -/
  | flowSequence
  /-- A mapping in braces. -/
  | flowMapping
  deriving DecidableEq, Repr

/-- The wording of what was being read. -/
def Activity.text : Activity → String
  | nextToken => "while scanning for the next token"
  | simpleKey => "while scanning a simple key"
  | anchor => "while scanning an anchor"
  | reference => "while scanning an alias"
  | tag => "while scanning a tag"
  | tagAddress => "while parsing a tag"
  | directive => "while scanning a directive"
  | versionDirective => "while scanning a %YAML directive"
  | tagDirective => "while scanning a %TAG directive"
  | tagDirectiveHandle => "while scanning a tag directive"
  | tagDirectiveHandleEnd => "while parsing a tag directive"
  | tagDirectiveAddress => "while parsing a %TAG directive"
  | blockScalar => "while scanning a block scalar"
  | quotedScalar => "while scanning a quoted scalar"
  | escape => "while parsing a quoted scalar"
  | plainScalar => "while scanning a plain scalar"
  | node => "while parsing a node"
  | blockNode => "while parsing a block node"
  | flowNode => "while parsing a flow node"
  | blockSequence => "while parsing a block collection"
  | blockMapping => "while parsing a block mapping"
  | flowSequence => "while parsing a flow sequence"
  | flowMapping => "while parsing a flow mapping"

/-- **A broken rule.** -/
inductive Problem where
  /-- A character that begins nothing. -/
  | noToken
  /-- A key is not followed by a colon. -/
  | colonExpected
  /-- An item begins where none may begin. -/
  | itemNotAllowed
  /-- A key begins where none may begin. -/
  | keyNotAllowed
  /-- A value begins where none may begin. -/
  | valueNotAllowed
  /-- The name of an anchor or alias is empty or runs on. -/
  | nameExpected
  /-- A tag in angle brackets is not closed. -/
  | tagCloseExpected
  /-- A tag runs on. -/
  | tagEndExpected
  /-- A tag's handle does not start or end with its mark. -/
  | tagMarkExpected
  /-- A tag's address is empty. -/
  | addressExpected
  /-- A percent sign without two digits in an address. -/
  | addressEscapeExpected
  /-- An escaped octet that begins no character. -/
  | badLeadingOctet
  /-- An escaped octet that does not continue the character. -/
  | badTrailingOctet
  /-- A directive of an unknown name. -/
  | unknownDirective
  /-- A directive without a name. -/
  | directiveNameExpected
  /-- A directive's name runs on. -/
  | directiveNameEndExpected
  /-- More than a comment behind a directive or a block's header. -/
  | lineEndExpected
  /-- A version is not cut by a point. -/
  | versionPointExpected
  /-- A version without a number. -/
  | versionExpected
  /-- A version of too many digits. -/
  | versionTooLong
  /-- No blank behind a handle. -/
  | blankExpected
  /-- No blank behind an address. -/
  | addressEndExpected
  /-- A block that is to be indented by nothing. -/
  | zeroIndentation
  /-- A tab where a block is to be indented. -/
  | tabInIndentation
  /-- A tab where a continued line is to be indented. -/
  | tabBeforeIndentation
  /-- A mark between documents inside quotes. -/
  | documentMark
  /-- The text ends inside quotes. -/
  | endOfText
  /-- A backslash with a character that it does not escape. -/
  | unknownEscape
  /-- An escape with too few digits. -/
  | digitsExpected
  /-- An escape of a code that is no character. -/
  | badCode
  /-- A colon inside a scalar in brackets. -/
  | colonNotAllowed
  /-- No document where one should start. -/
  | documentStartExpected
  /-- A second version for a document. -/
  | secondVersion
  /-- A version that is not known. -/
  | unknownVersion
  /-- A second meaning for a handle. -/
  | secondHandle
  /-- A handle without a meaning. -/
  | unknownHandle
  /-- No node where one should be. -/
  | nodeExpected
  /-- No item where one should be. -/
  | itemExpected
  /-- No key where one should be. -/
  | keyExpected
  /-- An item of a sequence in brackets is followed by something else. -/
  | sequenceCommaOrEndExpected
  /-- An entry of a mapping in braces is followed by something else. -/
  | mappingCommaOrEndExpected
  deriving DecidableEq, Repr

/-- The wording of a broken rule. -/
def Problem.text : Problem → String
  | noToken => "found character that cannot start any token"
  | colonExpected => "could not find expected ':'"
  | itemNotAllowed => "block sequence entries are not allowed in this context"
  | keyNotAllowed => "mapping keys are not allowed in this context"
  | valueNotAllowed => "mapping values are not allowed in this context"
  | nameExpected => "did not find expected alphabetic or numeric character"
  | tagCloseExpected => "did not find the expected '>'"
  | tagEndExpected => "did not find expected whitespace or line break"
  | tagMarkExpected => "did not find expected '!'"
  | addressExpected => "did not find expected tag URI"
  | addressEscapeExpected => "did not find URI escaped octet"
  | badLeadingOctet => "found an incorrect leading UTF-8 octet"
  | badTrailingOctet => "found an incorrect trailing UTF-8 octet"
  | unknownDirective => "found unknown directive name"
  | directiveNameExpected => "could not find expected directive name"
  | directiveNameEndExpected => "found unexpected non-alphabetical character"
  | lineEndExpected => "did not find expected comment or line break"
  | versionPointExpected => "did not find expected digit or '.' character"
  | versionExpected => "did not find expected version number"
  | versionTooLong => "found extremely long version number"
  | blankExpected => "did not find expected whitespace"
  | addressEndExpected => "did not find expected whitespace or line break"
  | zeroIndentation => "found an indentation indicator equal to 0"
  | tabInIndentation => "found a tab character where an indentation space is expected"
  | tabBeforeIndentation => "found a tab character that violates indentation"
  | documentMark => "found unexpected document indicator"
  | endOfText => "found unexpected end of stream"
  | unknownEscape => "found unknown escape character"
  | digitsExpected => "did not find expected hexdecimal number"
  | badCode => "found invalid Unicode character escape code"
  | colonNotAllowed => "found unexpected ':'"
  | documentStartExpected => "did not find expected <document start>"
  | secondVersion => "found duplicate %YAML directive"
  | unknownVersion => "found incompatible YAML document"
  | secondHandle => "found duplicate %TAG directive"
  | unknownHandle => "found undefined tag handle"
  | nodeExpected => "did not find expected node content"
  | itemExpected => "did not find expected '-' indicator"
  | keyExpected => "did not find expected key"
  | sequenceCommaOrEndExpected => "did not find expected ',' or ']'"
  | mappingCommaOrEndExpected => "did not find expected ',' or '\x7d'"

/-- What was being read, and where it began. -/
structure Context where
  /-- What was being read. -/
  activity : Activity
  /-- Where it began. -/
  since : Place
  deriving DecidableEq, Repr

/-- **Why a text is not YAML.** -/
inductive Fault where
  /-- A character that no text may hold, with the number of octets before
  it. -/
  | control (offset : Nat)
  /-- A broken rule. -/
  | malformed (problem : Problem) (place : Place) (context : Option Context)
  /-- An alias for something that has no anchor. -/
  | unknownAnchor (place : Place)
  deriving DecidableEq, Repr

namespace Fault

/-- A rule broken at a place, while something was being read. -/
def during (activity : Activity) (since : Place) (problem : Problem) (place : Place) : Fault :=
  malformed problem place (some ⟨activity, since⟩)

/-- The wording of a context, whose place is left unsaid where it is the
place of the fault. -/
def contextText (place : Place) (c : Context) : String :=
  let same := c.since.line == place.line && c.since.column == place.column
  ", " ++ c.activity.text ++ (if same then "" else c.since.suffix)

/-- **The wording of a fault.** -/
def message : Fault → String
  | control offset =>
    "control characters are not allowed" ++
      (if offset == 0 then "" else " at position " ++ toString offset)
  | malformed problem place context =>
    problem.text ++ place.suffix ++ (context.map (contextText place)).getD ""
  | unknownAnchor place => "unknown anchor" ++ place.suffix

end Fault

end GraphGateway.Yaml
