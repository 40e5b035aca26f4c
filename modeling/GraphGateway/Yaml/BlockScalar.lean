import GraphGateway.Yaml.Token

/-!
# Scalars in the form of a block

A block is a header and indented lines. The header may say how the breaks
at the end are treated, and how far the lines are indented; otherwise the
first line that is not empty shows the indentation. A literal block keeps
its lines, a folded block joins neighbours that do not begin with a blank.
-/

namespace GraphGateway.Yaml.BlockScalar

/-- How the breaks at the end of a block are treated. -/
inductive Chomping where
  /-- All are dropped. -/
  | strip
  /-- The first is kept. -/
  | clip
  /-- All are kept. -/
  | keep
  deriving DecidableEq, Repr

/-- What a header says. -/
structure Header where
  /-- How the breaks at the end are treated. -/
  chomping : Chomping
  /-- How much more the lines are indented than the node around them, or
  zero if the lines show it. -/
  increment : Nat

/-- The sign of a chomping. -/
def chomping? : Option Char → Option Chomping
  | some '+' => some .keep
  | some '-' => some .strip
  | _ => none

/-- Reads the digit of an indentation, if there is one. -/
def readIncrement (start : Place) (c : Cursor) : Except Fault (Nat × Cursor) :=
  match c.peek? with
  | some '0' => .error (.during .blockScalar start .zeroIndentation c.place)
  | some d => if d.isDigit then .ok (d.toNat - '0'.toNat, c.skip) else .ok (0, c)
  | none => .ok (0, c)

/-- Reads what a header says, behind its sign. -/
def readHeader (start : Place) (c : Cursor) : Except Fault (Header × Cursor) := do
  match chomping? c.peek? with
  | some chomping =>
    let (increment, c) ← readIncrement start c.skip
    return (⟨chomping, increment⟩, c)
  | none =>
    let (increment, c) ← readIncrement start c
    match chomping? c.peek? with
    | some chomping => return (⟨chomping, increment⟩, c.skip)
    | none => return (⟨.clip, increment⟩, c)

/-- Reads the end of a header's line. -/
def readLineEnd (start : Place) (c : Cursor) : Except Fault Cursor :=
  let c := (c.skipWhile isBlank).skipComment
  if isBreakOrEnd c.peek? then .ok c.skipBreak
  else .error (.during .blockScalar start .lineEndExpected c.place)

/-- The empty lines before a line of a block. -/
structure Breaks where
  /-- The breaks that end them. -/
  breaks : List Char
  /-- The greatest column that was reached. -/
  widest : Nat
  /-- The place behind the last of the breaks. -/
  stop : Place
  /-- The place behind the blanks that follow. -/
  cursor : Cursor

/-- Reads on in empty lines. Spaces count up to column `indent`, or
without an end if that is zero, and a tab among them is refused. -/
def breaksFrom (indent : Nat) (breaks : List Char) (widest : Nat) (stop place : Place) :
    List Char → Except Place Breaks
  | [] => .ok ⟨breaks, max widest place.column, stop, ⟨[], place⟩⟩
  | '\r' :: '\n' :: rest =>
    let next := place.nextLine 2
    breaksFrom indent (breaks ++ ['\n']) (max widest place.column) next next rest
  | c :: rest =>
    let inside := indent == 0 || place.column < indent
    let next := place.nextLine 1
    if inside && c == ' ' then breaksFrom indent breaks widest stop place.next rest
    else if inside && c == '\t' then .error place
    else if isBreak c then
      breaksFrom indent (breaks ++ [readAs c]) (max widest place.column) next next rest
    else .ok ⟨breaks, max widest place.column, stop, ⟨c :: rest, place⟩⟩

/-- Reads the empty lines before a line of a block. -/
def readBreaks (start : Place) (indent : Nat) (c : Cursor) : Except Fault Breaks :=
  (breaksFrom indent [] 0 c.place c.place c.rest).mapError
    (.during .blockScalar start .tabInIndentation)

/-- What stands between two lines of a block: the break that ended the
first and the breaks of empty lines. In a folded block, a line feed
between lines that do not begin with a blank is folded. -/
def between (literal blankBefore blankAfter : Bool) (first others : List Char) : List Char :=
  if !literal && first == ['\n'] && !blankBefore && !blankAfter then
    (if others.isEmpty then [' '] else []) ++ others
  else first ++ others

/-- What stands at the end of a block. -/
def Chomping.tail (first others : List Char) : Chomping → List Char
  | strip => []
  | clip => first
  | keep => first ++ others

/-- Reads the lines of a block: `text` has been read, `first` is the break
behind it, `blank` says whether its last line began with a blank, and `b`
holds the empty lines that follow. `fuel` is more than the number of
characters left. -/
def readLines (literal : Bool) (start : Place) (indent : Nat) (chomping : Chomping) :
    Nat → List Char → List Char → Bool → Breaks → Except Fault (List Char × Place × Cursor)
  | 0, text, _, _, b => .ok (text, b.stop, b.cursor)
  | fuel + 1, text, first, blank, b =>
    let c := b.cursor
    if c.place.column == indent && !c.rest.isEmpty then do
      let begins := c.peek?.any isBlank
      let (line, behind) := c.takeWhile (!isBreak ·)
      let (ending, next) := behind.takeBreak
      let text := text ++ between literal blank begins first b.breaks ++ line
      let breaks ← readBreaks start indent next
      readLines literal start indent chomping fuel text ending begins breaks
    else .ok (text ++ chomping.tail first b.breaks, b.stop, c)

/-- **Reads a block**, at its sign, inside a node that is indented by
`around`: its text, the place behind its last line, and the cursor behind
the blanks that follow. -/
def read (literal : Bool) (around : Int) (c : Cursor) :
    Except Fault (List Char × Place × Cursor) := do
  let start := c.place
  let (header, c) ← readHeader start c.skip
  let c ← readLineEnd start c
  let given := if header.increment == 0 then 0 else (max around 0).toNat + header.increment
  let b ← readBreaks start given c
  let indent := if given == 0 then max b.widest (max (around + 1) 1).toNat else given
  readLines literal start indent header.chomping (c.rest.length + 1) [] [] false b

end GraphGateway.Yaml.BlockScalar
