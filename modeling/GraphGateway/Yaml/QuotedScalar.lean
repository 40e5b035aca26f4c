import GraphGateway.Number.Whole
import GraphGateway.Yaml.Token

/-!
# Scalars in quotes

In single quotes only the quote itself is special, and is written twice.
In double quotes a backslash escapes: a letter for a character, digits for
a code, a line break for nothing. In both, gaps that go to another line
are folded.
-/

namespace GraphGateway.Yaml.QuotedScalar

/-- The code of the first `count` characters, if they are digits in base
sixteen; `code` is that of the digits before. -/
def code? (code : Nat) : Nat → List Char → Option Nat
  | 0, _ => some code
  | _ + 1, [] => none
  | count + 1, c :: rest => (Whole.digit? 16 c).bind fun d => code? (code * 16 + d) count rest

/-- What a backslash and a character stand for: a character, or a code of
so many digits. -/
def escape? : Char → Option (Char ⊕ Nat)
  | '0' => some (.inl '\x00')
  | 'a' => some (.inl '\x07')
  | 'b' => some (.inl '\x08')
  | 't' => some (.inl '\t')
  | '\t' => some (.inl '\t')
  | 'n' => some (.inl '\n')
  | 'v' => some (.inl '\x0b')
  | 'f' => some (.inl '\x0c')
  | 'r' => some (.inl '\r')
  | 'e' => some (.inl '\x1b')
  | ' ' => some (.inl ' ')
  | '"' => some (.inl '"')
  | '/' => some (.inl '/')
  | '\\' => some (.inl '\\')
  | 'N' => some (.inl '\u0085')
  | '_' => some (.inl '\u00a0')
  | 'L' => some (.inl '\u2028')
  | 'P' => some (.inl '\u2029')
  | 'x' => some (.inr 2)
  | 'u' => some (.inr 4)
  | 'U' => some (.inr 8)
  | _ => none

/-- Whether a code is that of a character. -/
def isCharacter (code : Nat) : Bool := code < 0xD800 || (0xDFFF < code && code ≤ 0x10FFFF)

/-- Reads an escape, at its backslash. -/
def readEscape (start : Place) (c : Cursor) : Except Fault (Char × Cursor) :=
  let fault := Fault.during .escape start
  match (c.at? 1).bind escape? with
  | none => .error (fault .unknownEscape c.place)
  | some (.inl ch) => .ok (ch, c.skipMany 2)
  | some (.inr count) =>
    let digits := c.skipMany 2
    match code? 0 count digits.rest with
    | none => .error (fault .digitsExpected digits.place)
    | some code =>
      if isCharacter code then .ok (Char.ofNat code, digits.skipMany count)
      else .error (fault .badCode digits.place)

/-- Reads a gap that has begun as `gap`; a mark between documents is
refused behind it. -/
def readGap (start : Place) (gap : Gap) (c : Cursor) : Except Fault (List Char × Cursor) :=
  match Gap.read 0 gap c with
  | .error place => .error (.during .quotedScalar start .tabBeforeIndentation place)
  | .ok (gap, c) =>
    if c.atDocumentMark then .error (.during .quotedScalar start .documentMark c.place)
    else .ok (gap.text, c)

/-- Reads on in a scalar of which `text` has been read; `fuel` is more
than the number of characters left. -/
def readFrom (single : Bool) (start : Place) :
    Nat → List Char → Cursor → Except Fault (List Char × Cursor)
  | 0, text, c => .ok (text, c)
  | fuel + 1, text, c =>
    match c.rest with
    | [] => .error (.during .quotedScalar start .endOfText c.place)
    | '\'' :: rest =>
      if !single then readFrom single start fuel (text ++ ['\'']) c.skip
      else if rest.head? == some '\'' then
        readFrom single start fuel (text ++ ['\'']) (c.skipMany 2)
      else .ok (text, c.skip)
    | ch :: rest =>
      if ch == '"' && !single then .ok (text, c.skip)
      else if ch == '\\' && !single && rest.head?.any isBreak then
        match readGap start (.lines [] []) c.skip.skipBreak with
        | .ok (gap, c) => readFrom single start fuel (text ++ gap) c
        | .error e => .error e
      else if ch == '\\' && !single then
        match readEscape start c with
        | .ok (escaped, c) => readFrom single start fuel (text ++ [escaped]) c
        | .error e => .error e
      else if isBlank ch || isBreak ch then
        match readGap start .none c with
        | .ok (gap, c) => readFrom single start fuel (text ++ gap) c
        | .error e => .error e
      else readFrom single start fuel (text ++ [ch]) c.skip

/-- **Reads a scalar in quotes**, at its first quote: its text and the
place behind its last quote. -/
def read (single : Bool) (c : Cursor) : Except Fault (List Char × Cursor) :=
  readFrom single c.place (c.rest.length + 1) [] c.skip

end GraphGateway.Yaml.QuotedScalar
