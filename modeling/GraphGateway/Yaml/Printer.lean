import GraphGateway.Yaml.Meaning

/-!
# Writing YAML

A text is written as a scalar in the first of four forms that it can be
read back from: without quotes, in single quotes, as a literal block, in
double quotes. Without quotes it has to mean itself, and no sign in it may
be read as one of YAML. A block is used where the text has a line feed, and
double quotes where it has characters that cannot be seen.

`Printer.entry` writes a key with its value, of which a mapping is made.
-/

namespace GraphGateway.Yaml.Printer

/-- Whether a character is written as itself. -/
def isPrintable (c : Char) : Bool :=
  let n := c.toNat
  n == 0x0A || (0x20 ≤ n && n ≤ 0x7E) || (0xA0 ≤ n && n ≤ 0xFFFD && n != 0xFEFF) || 0x10000 ≤ n

/-- Whether two neighbours satisfy `p` and `q`. -/
def hasNeighbours (p q : Char → Bool) : List Char → Bool
  | a :: b :: rest => (p a && q b) || hasNeighbours p q (b :: rest)
  | _ => false

/-- Whether a sign of YAML begins a text. -/
def beginsWithSign : List Char → Bool
  | [] => false
  | c :: rest =>
    "#,[]\x7b\x7d&*!|>'\"%@\x60".toList.contains c ||
      ((c == '?' || c == ':' || c == '-') && isBlankOrEnd rest.head?)

/-- Whether a sign of YAML is among the characters of a text, of which
`previous` comes before them: a colon before a space, or a number sign
behind one. -/
def hasSignBehind (previous : Char) : List Char → Bool
  | [] => false
  | c :: rest =>
    (c == ':' && isBlankOrEnd rest.head?) || (c == '#' && isBlankOrEnd (some previous)) ||
      hasSignBehind c rest

/-- Whether a text holds anything that would be read as a sign. -/
def hasSigns (s : List Char) : Bool :=
  "---".toList.isPrefixOf s || "...".toList.isPrefixOf s || beginsWithSign s ||
    match s with
    | [] => false
    | c :: rest => hasSignBehind c rest

/-- Whether a text has to be in double quotes: it has characters that are
not written as themselves, or spaces before a break. -/
def needsEscapes (s : List Char) : Bool :=
  !s.all isPrintable || hasNeighbours (· == ' ') isBreak s

/-- Whether a text can be read back without quotes, but for what it then
means. -/
def mayBePlain (s : List Char) : Bool :=
  let outer (c : Char) : Bool := c == ' '
  !needsEscapes s && !s.any isBreak && !(s.head?.any outer) && !(s.getLast?.any outer) &&
    !hasSigns s

/-- Whether a text can be read back from single quotes. -/
def mayBeSingleQuoted (s : List Char) : Bool :=
  !needsEscapes s && !hasNeighbours isBreak (· == ' ') s

/-- Whether a text can be read back from a block. -/
def mayBeLiteral (s : List Char) : Bool := !needsEscapes s && s.getLast? != some ' '

/-- Whether a text without quotes means itself. -/
def meansItself (s : List Char) : Bool :=
  match Meaning.ofPlain (String.ofList s) with
  | .text _ => !Meaning.hasLeadingZero s
  | _ => false

/-- **The form that a text is written in.** -/
def styleOf (s : List Char) : Style :=
  if s.contains '\n' then if mayBeLiteral s then .literal else .doubleQuoted
  else if meansItself s && mayBePlain s then .plain
  else if mayBeSingleQuoted s then .singleQuoted
  else .doubleQuoted

/-! ## Forms -/

/-- The blanks before a line of a scalar that goes on. -/
def margin : List Char := [' ', ' ']

/-- The lines of a text, each but the first behind the margin, with every
character written by `f`; `atLine` says whether a line begins here. -/
def indented (f : Char → List Char) (atLine : Bool) : List Char → List Char
  | [] => []
  | c :: rest =>
    if isBreak c then c :: indented f true rest
    else (if atLine then margin else []) ++ f c ++ indented f false rest

/-- Whether a text ends in a break. -/
def endsLine (s : List Char) : Bool := s.getLast?.any isBreak

/-- A text in single quotes. -/
def singleQuoted (s : List Char) : List Char :=
  '\'' :: indented (fun c => if c == '\'' then ['\'', '\''] else [c]) false s ++
    (if endsLine s then margin else []) ++ ['\'']

/-- The digits of a code in base sixteen, at least `width` of them. -/
def codeDigits (width code : Nat) : List Char :=
  let digits := (Nat.toDigits 16 code).map Char.toUpper
  List.replicate (width - digits.length) '0' ++ digits

/-- A character in double quotes. -/
def escaped (c : Char) : List Char :=
  match c with
  | '\x00' => ['\\', '0']
  | '\x07' => ['\\', 'a']
  | '\x08' => ['\\', 'b']
  | '\t' => ['\\', 't']
  | '\n' => ['\\', 'n']
  | '\x0b' => ['\\', 'v']
  | '\x0c' => ['\\', 'f']
  | '\r' => ['\\', 'r']
  | '\x1b' => ['\\', 'e']
  | '"' => ['\\', '"']
  | '\\' => ['\\', '\\']
  | '\u0085' => ['\\', 'N']
  | '\u2028' => ['\\', 'L']
  | '\u2029' => ['\\', 'P']
  | _ =>
    let code := c.toNat
    if isPrintable c then [c]
    else if code ≤ 0xFF then '\\' :: 'x' :: codeDigits 2 code
    else if code ≤ 0xFFFF then '\\' :: 'u' :: codeDigits 4 code
    else '\\' :: 'U' :: codeDigits 8 code

/-- A text in double quotes. -/
def doubleQuoted (s : List Char) : List Char := '"' :: s.flatMap escaped ++ ['"']

/-- The header of a block: how far its lines are indented, where the first
line does not show it, and how the breaks at its end are treated. -/
def literalHeader (s : List Char) : List Char :=
  let hidden := s.head?.any fun c => c == ' ' || isBreak c
  let chomping :=
    match s.reverse with
    | [] => ['-']
    | last :: before =>
      if !isBreak last then ['-']
      else if before.isEmpty || before.head?.any isBreak then ['+']
      else []
  '|' :: (if hidden then ['2'] else []) ++ chomping

/-- A text as a literal block. -/
def literal (s : List Char) : List Char := literalHeader s ++ '\n' :: indented (fun c => [c]) true s

/-- **A text as a scalar**, in the form for it. -/
def scalar (s : List Char) : List Char :=
  match styleOf s with
  | .plain => s
  | .singleQuoted => singleQuoted s
  | .literal => literal s
  | _ => doubleQuoted s

/-- **A key with its value**, and the end of the line unless a block has
ended it. -/
def entry (key value : List Char) : List Char :=
  let written := scalar value
  key ++ ':' :: ' ' :: written ++
    (if styleOf value == .literal && endsLine written then [] else ['\n'])

end GraphGateway.Yaml.Printer
