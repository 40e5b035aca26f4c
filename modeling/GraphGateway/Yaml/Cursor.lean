import GraphGateway.Yaml.Fault

/-!
# Reading a YAML text

A `Cursor` is a place in a text together with the text from there on.
Blanks are the space and the tab; a line ends at any of five breaks, of
which three are read as a line feed; a `Gap` is the blanks and breaks
between two words of a scalar that goes on, and `Gap.text` is what the
gap stands for.
-/

namespace GraphGateway.Yaml

/-- A space or a tab. -/
def isBlank (c : Char) : Bool := c == ' ' || c == '\t'

/-- A character that ends a line. -/
def isBreak (c : Char) : Bool :=
  c == '\n' || c == '\r' || c == '\u0085' || c == '\u2028' || c == '\u2029'

/-- A character of a name. -/
def isWord (c : Char) : Bool := c.isAlphanum || c == '_' || c == '-'

/-- A character that means something in brackets and braces. -/
def isFlowSign (c : Char) : Bool :=
  c == ',' || c == '[' || c == ']' || c == '{' || c == '}'

/-- Whether nothing, a blank or a break follows. -/
def isBlankOrEnd : Option Char → Bool
  | none => true
  | some c => isBlank c || isBreak c

/-- Whether nothing or a break follows. -/
def isBreakOrEnd : Option Char → Bool
  | none => true
  | some c => isBreak c

/-- What a break is read as: a line feed, but for the two separators of
Unicode. -/
def readAs (c : Char) : Char := if c == '\u2028' || c == '\u2029' then c else '\n'

/-- **A place in a text and the text from there on.** -/
structure Cursor where
  /-- The text from the place on. -/
  rest : List Char
  /-- The place. -/
  place : Place

namespace Cursor

/-- The next character. -/
def peek? (c : Cursor) : Option Char := c.rest.head?

/-- The character after `n` others. -/
def at? (c : Cursor) (n : Nat) : Option Char := c.rest[n]?

/-- The place behind the next character, which ends no line. -/
def skip (c : Cursor) : Cursor :=
  match c.rest with
  | [] => c
  | _ :: rest => ⟨rest, c.place.next⟩

/-- The place behind the next `n` characters, which end no line. -/
def skipMany (c : Cursor) : Nat → Cursor
  | 0 => c
  | n + 1 => c.skip.skipMany n

/-- The place behind a line break, if the cursor stands before one, with
what it is read as. -/
def takeBreak (c : Cursor) : List Char × Cursor :=
  match c.rest with
  | '\r' :: '\n' :: rest => (['\n'], ⟨rest, c.place.nextLine 2⟩)
  | ch :: rest => if isBreak ch then ([readAs ch], ⟨rest, c.place.nextLine 1⟩) else ([], c)
  | [] => ([], c)

/-- The place behind a line break, if the cursor stands before one. -/
def skipBreak (c : Cursor) : Cursor := c.takeBreak.2

/-- The characters of `rest` up to the first that fails `p`. -/
def takeFrom (p : Char → Bool) (place : Place) : List Char → List Char × Cursor
  | [] => ([], ⟨[], place⟩)
  | ch :: rest =>
    if p ch then
      let (taken, c) := takeFrom p place.next rest
      (ch :: taken, c)
    else ([], ⟨ch :: rest, place⟩)

/-- The characters up to the first that fails `p`, which ends no line
before that. -/
def takeWhile (c : Cursor) (p : Char → Bool) : List Char × Cursor := takeFrom p c.place c.rest

/-- The place of the first character that fails `p`. -/
def skipWhile (c : Cursor) (p : Char → Bool) : Cursor := (c.takeWhile p).2

/-- The place behind a comment, if one begins here: the end of its line. -/
def skipComment (c : Cursor) : Cursor :=
  if c.peek? == some '#' then c.skipWhile (!isBreak ·) else c

/-- Whether a line of three signs `sign` begins here, which separates
documents. -/
def atMark (c : Cursor) (sign : Char) : Bool :=
  c.place.column == 0 && [sign, sign, sign].isPrefixOf c.rest && isBlankOrEnd (c.at? 3)

/-- Whether a line that separates documents begins here. -/
def atDocumentMark (c : Cursor) : Bool := c.atMark '-' || c.atMark '.'

end Cursor

/-! ## Gaps -/

/-- **Blanks and breaks between two words.** -/
inductive Gap where
  /-- Blanks on one line. -/
  | blanks (cs : List Char)
  /-- Line breaks: the first, unless it was escaped, and the others. -/
  | lines (first others : List Char)
  deriving DecidableEq, Repr

namespace Gap

/-- The gap of no characters. -/
def none : Gap := blanks []

/-- The gap with another blank: those behind a break do not count. -/
def addBlank (c : Char) : Gap → Gap
  | blanks cs => blanks (cs ++ [c])
  | lines first others => lines first others

/-- The gap with another break: blanks before the first do not count. -/
def addBreak (c : Char) : Gap → Gap
  | blanks _ => lines [c] []
  | lines first others => lines first (others ++ [c])

/-- Whether the gap goes to another line. -/
def spansLines : Gap → Bool
  | blanks _ => false
  | lines _ _ => true

/-- **What a gap stands for**: blanks stand for themselves, a single line
feed for a space, and a line feed with more breaks for those. -/
def text : Gap → List Char
  | blanks cs => cs
  | lines first others =>
    if first == ['\n'] then (if others.isEmpty then [' '] else others) else first ++ others

/-- Reads on in a gap. A tab in a column before `indent` on a later line
is refused, and its place given. -/
def readFrom (indent : Nat) (gap : Gap) (place : Place) : List Char → Except Place (Gap × Cursor)
  | [] => .ok (gap, ⟨[], place⟩)
  | '\r' :: '\n' :: rest => readFrom indent (gap.addBreak '\n') (place.nextLine 2) rest
  | c :: rest =>
    if isBlank c then
      if gap.spansLines && place.column < indent && c == '\t' then .error place
      else readFrom indent (gap.addBlank c) place.next rest
    else if isBreak c then readFrom indent (gap.addBreak (readAs c)) (place.nextLine 1) rest
    else .ok (gap, ⟨c :: rest, place⟩)

/-- **Reads a gap** that has begun as `gap`. -/
def read (indent : Nat) (gap : Gap) (c : Cursor) : Except Place (Gap × Cursor) :=
  readFrom indent gap c.place c.rest

end Gap

end GraphGateway.Yaml
