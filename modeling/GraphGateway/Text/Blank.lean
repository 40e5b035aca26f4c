/-!
# Blank characters

Queries are cut into lines and words before a field is looked for in
them, and both cuts use the Unicode notion of a blank: every character
with the property `White_Space`, not only the four of ASCII. The class
is `isBlank`; `trim`, `words` and `lines` are the cuts built on it.

All of them work on lists of characters, so that they can be followed
one character at a time.
-/

namespace GraphGateway.Text

/-- **A blank**: a character with the Unicode property `White_Space`. -/
def isBlank (c : Char) : Bool :=
  let n := c.toNat
  (0x09 ≤ n && n ≤ 0x0D) || n == 0x20 || n == 0x85 || n == 0xA0 || n == 0x1680 ||
    (0x2000 ≤ n && n ≤ 0x200A) || n == 0x2028 || n == 0x2029 || n == 0x202F ||
    n == 0x205F || n == 0x3000

/-- The text without the blanks at its start. -/
def trimStart (s : List Char) : List Char := s.dropWhile isBlank

/-- The text without the characters at its end that satisfy `p`. -/
def dropEnd (p : Char → Bool) (s : List Char) : List Char := (s.reverse.dropWhile p).reverse

/-- The text without the blanks at either end. -/
def trim (s : List Char) : List Char := dropEnd isBlank (trimStart s)

/-- Whether a text holds nothing but blanks. -/
def isAllBlank (s : List Char) : Bool := s.all isBlank

/-- Cuts a text at every character that satisfies `p`, keeping the empty
pieces; `current` is the piece being read, in reverse. -/
def splitOnAux (p : Char → Bool) (current : List Char) : List Char → List (List Char)
  | [] => [current.reverse]
  | c :: rest =>
    if p c then current.reverse :: splitOnAux p [] rest else splitOnAux p (c :: current) rest

/-- Cuts a text at every character that satisfies `p`, keeping the empty
pieces. -/
def splitOn (p : Char → Bool) (s : List Char) : List (List Char) := splitOnAux p [] s

/-- **The words of a text**: its maximal runs of characters that are not
blank. -/
def words (s : List Char) : List (List Char) := (splitOn isBlank s).filter (!·.isEmpty)

/-- A line without the carriage return that ends it, if one does. -/
def dropCarriageReturn (line : List Char) : List Char :=
  match line.reverse with
  | '\r' :: rest => rest.reverse
  | _ => line

/-- The lines among pieces between line feeds: the last piece is a line
only if it is not empty, and only the others are followed by a line feed
that a carriage return can belong to. -/
def linesOfPieces : List (List Char) → List (List Char)
  | [] => []
  | [last] => if last.isEmpty then [] else [last]
  | piece :: rest => dropCarriageReturn piece :: linesOfPieces rest

/-- **The lines of a text**, each without the line feed, or the carriage
return and line feed, that ends it. -/
def lines (s : List Char) : List (List Char) := linesOfPieces (splitOn (· == '\n') s)

/-- Pieces joined with one space between neighbours. -/
def joinWithSpaces : List (List Char) → List Char
  | [] => []
  | [piece] => piece
  | piece :: rest => piece ++ ' ' :: joinWithSpaces rest

end GraphGateway.Text
