import GraphGateway.Operation.Basic
import GraphGateway.Text.Blank

/-!
# The field of a query by its words

The quick way to find the field of a query looks only at the words of the
query: the text between blanks, on lines that are neither blank nor
comments. The field is the first word that is not a lone brace, not the
keyword of the operation, and has no parenthesis, without the braces at
its end.

So an operation's name is taken for the field where it has no list of
arguments, and aliases and fragments are not understood.
-/

namespace GraphGateway.Heuristic

/-- Whether a line counts: it holds something, and not only a comment. -/
def counts (line : List Char) : Bool := !line.isEmpty && line.head? != some '#'

/-- The lines that count, joined by single spaces. -/
def normalize (query : List Char) : List Char :=
  Text.joinWithSpaces (((Text.lines query).map Text.trim).filter counts)

/-- Whether a text starts with a word, in letters of either case. A letter
outside ASCII never has one of the keywords' letters as its lower case. -/
def startsWith (word : String) (s : List Char) : Bool :=
  word.toList.isPrefixOf (s.map Char.toLower)

/-- The type of an operation, by the letters that its text starts with. -/
def operationType (normalized : List Char) : OperationType :=
  if startsWith OperationType.mutation.keyword normalized then .mutation
  else if startsWith OperationType.subscription.keyword normalized then .subscription
  else .query

/-- Whether a character is dropped at the end of a word. -/
def isOpening (c : Char) : Bool := c == '{' || c == '('

/-- The field that a word names, if it names one. -/
def fieldOf (keyword word : List Char) : Option (List Char) :=
  if word == ['{'] || word == keyword || word.contains '(' then none
  else
    match Text.dropEnd isOpening word with
    | [] => none
    | field => some field

/-- **Finds the operation of a query** by its words. -/
def extract (query : String) : Option Operation :=
  let normalized := normalize query.toList
  let type := operationType normalized
  ((Text.words normalized).findSome? (fieldOf type.keyword.toList)).map fun field =>
    { type, field := String.ofList field }

end GraphGateway.Heuristic
