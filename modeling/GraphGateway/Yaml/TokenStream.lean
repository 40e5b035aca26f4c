import GraphGateway.Yaml.PlainScalar
import GraphGateway.Yaml.QuotedScalar
import GraphGateway.Yaml.BlockScalar
import GraphGateway.Yaml.Tag

/-!
# The tokens of a text

A text is cut into tokens from its start. Two things are not seen when
their characters are read: where something indented begins and ends, which
the column of a token shows, and that a scalar was a key, which only the
colon behind it shows. `Scan.rollTo` and `Scan.unrollTo` add the tokens of
the first kind. For the second, the scan remembers the one place on each
level of brackets where a key may have begun, a `PendingKey`, and
`Scan.value` adds the tokens of a key there.

A token is certain as soon as nothing can be added before it any more.
Only certain tokens can have been used when a fault comes up, so the tokens
before a fault are `Scan.certain` ones.
-/

namespace GraphGateway.Yaml

/-- **The tokens of a text**, up to its end or up to the first fault. -/
structure TokenStream where
  /-- The tokens. -/
  tokens : List Placed
  /-- The place of the end, or the fault. -/
  ending : Except Fault Place

/-- **A place where a key may have begun.** -/
structure PendingKey where
  /-- Whether nothing else than a key can stand there. -/
  required : Bool
  /-- The number of tokens before it. -/
  number : Nat
  /-- The place. -/
  place : Place

/-- **A text of which some tokens have been read.** -/
structure Scan where
  /-- The text that is left. -/
  cursor : Cursor
  /-- The tokens so far. -/
  tokens : List Placed
  /-- Where a key may have begun in the innermost brackets. -/
  pending : Option PendingKey
  /-- The same for the brackets around, the innermost first. -/
  outerPending : List (Option PendingKey)
  /-- The column of what is indented here, or -1 outside everything. -/
  indent : Int
  /-- The columns around, the innermost first. -/
  outerIndents : List Int
  /-- Whether a key may begin here. -/
  keyAllowed : Bool

namespace Scan

/-- The start of a text. -/
def start (text : List Char) : Scan :=
  { cursor := ⟨text, .start⟩, tokens := [], pending := none, outerPending := []
    indent := -1, outerIndents := [], keyAllowed := true }

/-- Whether the scan is inside brackets. -/
def inFlow (s : Scan) : Bool := !s.outerPending.isEmpty

/-- The place that the scan has come to. -/
def place (s : Scan) : Place := s.cursor.place

/-- **The number of tokens that are certain.** -/
def certain (s : Scan) : Nat :=
  ((s.pending :: s.outerPending).filterMap fun key => key.map (·.number)).foldl min s.tokens.length

/-- Adds a token. -/
def add (s : Scan) (token : Token) (start stop : Place) : Scan :=
  { s with tokens := s.tokens ++ [⟨token, start, stop⟩] }

/-- Adds a token before the one that has `number` tokens before it. -/
def addBefore (s : Scan) (number : Nat) (token : Token) (place : Place) : Scan :=
  { s with tokens := s.tokens.take number ++ ⟨token, place, place⟩ :: s.tokens.drop number }

/-- Adds a token of `size` characters that come next. -/
def addNext (s : Scan) (token : Token) (size : Nat) : Scan :=
  let behind := s.cursor.skipMany size
  { (s.add token s.place behind.place) with cursor := behind }

/-- The fault of a rule broken here, whatever was being read. -/
def fault (s : Scan) (problem : Problem) : Fault := .malformed problem s.place none

/-! ## Keys -/

/-- The fault of a key without its colon. -/
def colonFault (s : Scan) (key : PendingKey) : Fault :=
  .during .simpleKey key.place .colonExpected s.place

/-- A pending key, unless it is given up because it is on an earlier line
or more than 1024 characters back. -/
def unlessStale (s : Scan) : Option PendingKey → Except Fault (Option PendingKey)
  | none => .ok none
  | some key =>
    if key.place.line < s.place.line || key.place.index + 1024 < s.place.index then
      if key.required then .error (s.colonFault key) else .ok none
    else .ok (some key)

/-- Gives up the keys that are too far back. -/
def dropStale (s : Scan) : Except Fault Scan := do
  let outerPending ← s.outerPending.mapM s.unlessStale
  let pending ← s.unlessStale s.pending
  return { s with pending, outerPending }

/-- Gives up the pending key of the innermost brackets. -/
def dropPending (s : Scan) : Except Fault Scan :=
  match s.pending with
  | some key => if key.required then .error (s.colonFault key) else .ok { s with pending := none }
  | none => .ok s

/-- Remembers that a key may begin here. -/
def savePending (s : Scan) : Except Fault Scan :=
  if s.keyAllowed then do
    let s ← s.dropPending
    let required := !s.inFlow && s.indent == s.place.column
    return { s with pending := some ⟨required, s.tokens.length, s.place⟩ }
  else .ok s

/-! ## Indentation -/

/-- Begins something indented to a column, before the token that has
`number` tokens before it, unless the scan is indented so far already. -/
def rollTo (s : Scan) (column : Nat) (number : Nat) (token : Token) (place : Place) : Scan :=
  if !s.inFlow && s.indent < column then
    { (s.addBefore number token place) with
      indent := column, outerIndents := s.indent :: s.outerIndents }
  else s

/-- Begins something indented to this column. -/
def rollHere (s : Scan) (token : Token) : Scan :=
  s.rollTo s.place.column s.tokens.length token s.place

/-- Ends what is indented further than a column, given the columns around. -/
def unrollFrom (column : Int) : List Int → Scan → Scan
  | [], s => s
  | outer :: rest, s =>
    if s.indent > column then
      unrollFrom column rest
        { (s.add .blockEnd s.place s.place) with indent := outer, outerIndents := rest }
    else s

/-- Ends what is indented further than a column. -/
def unrollTo (s : Scan) (column : Int) : Scan :=
  if s.inFlow then s else unrollFrom column s.outerIndents s

/-! ## Blanks and comments -/

/-- Skips blanks, comments and line breaks; `fuel` is more than the number
of characters left. Tabs count as blanks only where no key may begin. -/
def skipBlanksFrom : Nat → Scan → Scan
  | 0, s => s
  | fuel + 1, s =>
    let c :=
      if s.place.index == 0 && s.cursor.peek? == some '\uFEFF' then s.cursor.skip else s.cursor
    let c := c.skipWhile fun ch => ch == ' ' || ((s.inFlow || !s.keyAllowed) && ch == '\t')
    let c := c.skipComment
    if c.peek?.any isBreak then
      skipBlanksFrom fuel { s with cursor := c.skipBreak, keyAllowed := s.keyAllowed || !s.inFlow }
    else { s with cursor := c }

/-- Skips blanks, comments and line breaks. -/
def skipBlanks (s : Scan) : Scan := s.skipBlanksFrom (s.cursor.rest.length + 1)

/-! ## Tokens -/

/-- A line that separates documents. -/
def documentMark (s : Scan) (token : Token) : Except Fault Scan := do
  let s ← (s.unrollTo (-1)).dropPending
  return { s with keyAllowed := false }.addNext token 3

/-- A directive. -/
def directive (s : Scan) : Except Fault Scan := do
  let s ← (s.unrollTo (-1)).dropPending
  let (token, stop, behind) ← Directive.read s.cursor
  return { (s.add token s.place stop) with cursor := behind, keyAllowed := false }

/-- A bracket or brace that opens. -/
def openFlow (s : Scan) (token : Token) : Except Fault Scan := do
  let s ← s.savePending
  let opened :=
    { s with pending := none, outerPending := s.pending :: s.outerPending, keyAllowed := true }
  return opened.addNext token 1

/-- A bracket or brace that closes. -/
def closeFlow (s : Scan) (token : Token) : Except Fault Scan := do
  let s ← s.dropPending
  let s := match s.outerPending with
    | [] => s
    | pending :: outerPending => { s with pending, outerPending }
  return { s with keyAllowed := false }.addNext token 1

/-- A comma in brackets. -/
def flowEntry (s : Scan) : Except Fault Scan := do
  let s ← s.dropPending
  return { s with keyAllowed := true }.addNext .flowEntry 1

/-- A dash before an item. -/
def blockEntry (s : Scan) : Except Fault Scan := do
  if !s.inFlow && !s.keyAllowed then throw (s.fault .itemNotAllowed)
  let s ← (s.rollHere .blockSequenceStart).dropPending
  return { s with keyAllowed := true }.addNext .blockEntry 1

/-- A question mark before a key. -/
def key (s : Scan) : Except Fault Scan := do
  if !s.inFlow && !s.keyAllowed then throw (s.fault .keyNotAllowed)
  let s ← (s.rollHere .blockMappingStart).dropPending
  return { s with keyAllowed := !s.inFlow }.addNext .key 1

/-- **A colon before a value.** If a key is pending, it began there. -/
def value (s : Scan) : Except Fault Scan :=
  match s.pending with
  | some key =>
    let s := s.addBefore key.number .key key.place
    let s := s.rollTo key.place.column key.number .blockMappingStart key.place
    .ok ({ s with pending := none, keyAllowed := false }.addNext .value 1)
  | none =>
    if !s.inFlow && !s.keyAllowed then .error (s.fault .valueNotAllowed)
    else .ok ({ s.rollHere .blockMappingStart with keyAllowed := !s.inFlow }.addNext .value 1)

/-- The name of an anchor or an alias. -/
def name (s : Scan) (activity : Activity) (token : String → Token) : Except Fault Scan := do
  let s ← s.savePending
  let (letters, behind) := s.cursor.skip.takeWhile isWord
  let ends := isBlankOrEnd behind.peek? ||
    behind.peek?.any fun c => "?:,]\x7d%@\x60".toList.contains c
  if letters.isEmpty || !ends then throw (.during activity s.place .nameExpected behind.place)
  return { (s.add (token (String.ofList letters)) s.place behind.place) with
    cursor := behind, keyAllowed := false }

/-- A tag. -/
def tag (s : Scan) : Except Fault Scan := do
  let s ← s.savePending
  let (token, behind) ← Tag.read s.inFlow s.cursor
  return { (s.add token s.place behind.place) with cursor := behind, keyAllowed := false }

/-- A scalar in the form of a block. -/
def blockScalar (s : Scan) (literal : Bool) : Except Fault Scan := do
  let s ← s.dropPending
  let (text, stop, behind) ← BlockScalar.read literal s.indent s.cursor
  let token := Token.scalar (String.ofList text) (if literal then .literal else .folded)
  return { (s.add token s.place stop) with cursor := behind, keyAllowed := true }

/-- A scalar in quotes. -/
def quotedScalar (s : Scan) (single : Bool) : Except Fault Scan := do
  let s ← s.savePending
  let (text, behind) ← QuotedScalar.read single s.cursor
  let token := Token.scalar (String.ofList text) (if single then .singleQuoted else .doubleQuoted)
  return { (s.add token s.place behind.place) with cursor := behind, keyAllowed := false }

/-- A scalar without quotes. -/
def plainScalar (s : Scan) : Except Fault Scan := do
  let s ← s.savePending
  let r ← PlainScalar.read s.inFlow (s.indent + 1).toNat s.cursor
  return { (s.add (.scalar (String.ofList r.text) .plain) s.place r.stop) with
    cursor := r.cursor, keyAllowed := r.onLaterLine }

/-- Whether a scalar without quotes begins with `c`, which `following`
comes behind. -/
def beginsPlain (inFlow : Bool) (c : Char) (following : Option Char) : Bool :=
  !(isBlank c || isBreak c || "-?:,[]\x7b\x7d#&*!|>'\"%@\x60".toList.contains c) ||
    (c == '-' && !following.any isBlank) ||
    (!inFlow && (c == '?' || c == ':') && !isBlankOrEnd following)

/-- Reads the token that begins with `c`. -/
def token (s : Scan) (c : Char) : Except Fault Scan :=
  let following := s.cursor.at? 1
  if c == '%' && s.place.column == 0 then s.directive
  else if s.cursor.atMark '-' then s.documentMark .documentStart
  else if s.cursor.atMark '.' then s.documentMark .documentEnd
  else if c == '[' then s.openFlow .flowSequenceStart
  else if c == '{' then s.openFlow .flowMappingStart
  else if c == ']' then s.closeFlow .flowSequenceEnd
  else if c == '}' then s.closeFlow .flowMappingEnd
  else if c == ',' then s.flowEntry
  else if c == '-' && isBlankOrEnd following then s.blockEntry
  else if c == '?' && (s.inFlow || isBlankOrEnd following) then s.key
  else if c == ':' && (s.inFlow || isBlankOrEnd following) then s.value
  else if c == '*' then s.name .reference .reference
  else if c == '&' then s.name .anchor .anchor
  else if c == '!' then s.tag
  else if c == '|' && !s.inFlow then s.blockScalar true
  else if c == '>' && !s.inFlow then s.blockScalar false
  else if c == '\'' then s.quotedScalar true
  else if c == '"' then s.quotedScalar false
  else if beginsPlain s.inFlow c following then s.plainScalar
  else .error (.during .nextToken s.place .noToken s.place)

/-- The end of the text, which counts as the start of a line. -/
def finish (s : Scan) : Except Fault Scan :=
  let place := if s.place.column == 0 then s.place else s.place.nextLine 0
  ({ s with cursor := ⟨[], place⟩ }.unrollTo (-1)).dropPending

/-- Reads the next token; at the end of the text there is none. -/
def next (s : Scan) : Except Fault (Scan × Bool) := do
  let s ← s.skipBlanks.dropStale
  let s := s.unrollTo s.place.column
  match s.cursor.peek? with
  | none => return (← s.finish, true)
  | some c => return (← (← s.token c).dropStale, false)

/-- Reads all tokens; `fuel` is more than the number of characters left. -/
def run : Nat → Scan → TokenStream
  | 0, s => ⟨s.tokens, .ok s.place⟩
  | fuel + 1, s =>
    match s.next with
    | .error fault => ⟨s.tokens.take s.certain, .error fault⟩
    | .ok (s, true) => ⟨s.tokens, .ok s.place⟩
    | .ok (s, false) => run fuel s

end Scan

/-! ## Allowed characters -/

/-- Whether a text may hold a character: no controls, and no codes that
are no characters. -/
def isAllowed (c : Char) : Bool :=
  let n := c.toNat
  n == 0x09 || n == 0x0A || n == 0x0D || (0x20 ≤ n && n ≤ 0x7E) || n == 0x85 ||
    (0xA0 ≤ n && n ≤ 0xFFFD) || 0x10000 ≤ n

/-- The number of octets before the first character that a text may not
hold; `offset` octets come before the text. -/
def forbiddenFrom? (offset : Nat) : List Char → Option Nat
  | [] => none
  | c :: rest => if isAllowed c then forbiddenFrom? (offset + c.utf8Size) rest else some offset

/-- **The tokens of a text.** A mark of the octet order at its start is
not part of the text. -/
def TokenStream.ofText (text : List Char) : TokenStream :=
  match forbiddenFrom? 0 text with
  | some offset => ⟨[], .error (.control offset)⟩
  | none =>
    let body := match text with
      | '\uFEFF' :: rest => rest
      | _ => text
    Scan.run (body.length + 1) (Scan.start body)

end GraphGateway.Yaml
