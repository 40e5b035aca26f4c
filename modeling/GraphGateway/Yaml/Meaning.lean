import GraphGateway.Json.Fault
import GraphGateway.Number.Decimal
import GraphGateway.Yaml.Event

/-!
# What scalars mean

A plain scalar can stand for null, for a truth value or for a number.
`Meaning.ofPlain` says which, in a fixed order of the readings; a text that
is none of them stands for itself. A tag may ask for one of the readings.

Digits behind a zero are no number, so that they keep their zeros.
-/

namespace GraphGateway.Yaml

/-- **What a scalar means.** -/
inductive Meaning where
  /-- Nothing. -/
  | null
  /-- A truth value. -/
  | bool (b : Bool)
  /-- A whole number. -/
  | integer (n : Int)
  /-- A floating-point number. -/
  | float (x : Binary64)
  /-- The infinity of a sign. -/
  | infinity (negative : Bool)
  /-- The number that is none. -/
  | notANumber
  /-- A text. -/
  | text (s : String)
  deriving Repr

/-- The notation of numbers in messages about YAML: no exponents. -/
def notationOfNumbers : Notation := ⟨-400, 400⟩

namespace Meaning

/-- Whether digits stand behind a zero, so that they make no number. -/
def hasLeadingZero (s : List Char) : Bool :=
  let digits := match s with
    | '-' :: rest => rest
    | '+' :: rest => rest
    | _ => s
  match digits with
  | '0' :: more => !more.isEmpty && more.all Char.isDigit
  | _ => false

/-- The truth value that a text stands for. -/
def bool? (s : String) : Option Bool :=
  if s == "true" || s == "True" || s == "TRUE" then some true
  else if s == "false" || s == "False" || s == "FALSE" then some false
  else none

/-- Whether a text stands for nothing. -/
def isNull (s : String) : Bool := s == "null" || s == "Null" || s == "NULL" || s == "~"

/-- A number below a bound. -/
def below (bound : Nat) (n? : Option Nat) : Option Nat := n?.filter (· < bound)

/-- The number without a sign that a text stands for, if it is below a
bound. The digits may be of base sixteen, eight or two, behind a mark. -/
def unsigned? (bound : Nat) (s : List Char) : Option Nat :=
  let unsigned := match s with
    | '+' :: rest => rest
    | _ => s
  let decimal (_ : Unit) : Option Nat :=
    if hasLeadingZero s then none else below bound (Whole.ofDigits? 10 unsigned)
  match unsigned with
  | '0' :: 'x' :: digits => (below bound (Whole.ofDigits? 16 digits)).or (decimal ())
  | '0' :: 'o' :: digits => (below bound (Whole.ofDigits? 8 digits)).or (decimal ())
  | '0' :: 'b' :: digits => (below bound (Whole.ofDigits? 2 digits)).or (decimal ())
  | _ => decimal ()

/-- The magnitude of the number with a minus sign that a text stands for,
if it is at most a bound. -/
def negative? (bound : Nat) (s : List Char) : Option Nat :=
  match s with
  | '-' :: '0' :: 'x' :: digits => below (bound + 1) (Whole.ofDigits? 16 digits)
  | '-' :: '0' :: 'o' :: digits => below (bound + 1) (Whole.ofDigits? 8 digits)
  | '-' :: '0' :: 'b' :: digits => below (bound + 1) (Whole.ofDigits? 2 digits)
  | '-' :: digits =>
    if hasLeadingZero s then none else below (bound + 1) (Whole.ofDigits? 10 digits)
  | _ => none

/-- **The whole number that a text stands for.** It fits 128 bits. -/
def integer? (s : List Char) : Option Int :=
  ((unsigned? (Nat.pow 2 128) s).map Int.ofNat).or
    ((negative? (Nat.pow 2 127) s).map fun n => -(n : Int))

/-- The floating-point number that a text stands for. -/
def float? (s : String) : Option Meaning :=
  let cs := s.toList
  let unsigned := match cs with
    | '+' :: rest => rest
    | _ => cs
  let signedTwice :=
    cs.head? == some '+' && (unsigned.head? == some '+' || unsigned.head? == some '-')
  let name := String.ofList unsigned
  if signedTwice then none
  else if name == ".inf" || name == ".Inf" || name == ".INF" then some (.infinity false)
  else if s == "-.inf" || s == "-.Inf" || s == "-.INF" then some (.infinity true)
  else if s == ".nan" || s == ".NaN" || s == ".NAN" then some .notANumber
  else
    (Decimal.parse? unsigned).bind fun (negative, d) =>
      (Binary64.ofDecimal negative d).map .float

/-- **What a plain scalar without a tag means.** -/
def ofPlain (s : String) : Meaning :=
  if s.isEmpty || isNull s then null
  else
    match bool? s, integer? s.toList with
    | some b, _ => bool b
    | none, some n => integer n
    | none, none => if hasLeadingZero s.toList then text s else (float? s).getD (text s)

/-- The words of messages for what was found. -/
def shown : Meaning → String
  | null => "unit value"
  | bool b => "boolean `" ++ (if b then "true" else "false") ++ "`"
  | integer n =>
    "integer `" ++ toString n ++ "`" ++
      (if n ≥ 18446744073709551616 then " as u128"
        else if n < -9223372036854775808 then " as i128"
        else "")
  | float x => "floating point `" ++ notationOfNumbers.write x ++ "`"
  | infinity negative => "floating point `" ++ (if negative then "-inf" else "inf") ++ "`"
  | notANumber => "floating point `NaN`"
  | text s => "string " ++ Text.quoted s

end Meaning

/-! ## Tags -/

namespace Scalar

/-- Whether the scalar has the tag of a kind that every document knows. -/
def isTagged (s : Scalar) (kind : String) : Bool :=
  s.tag == some (Text.Utf8.encode ("tag:yaml.org,2002:" ++ kind))

/-- **What a scalar means**, or the words for what its tag asks for. -/
def meaning (s : Scalar) : Except String Meaning :=
  if s.isTagged "bool" then ((Meaning.bool? s.text).map .bool).elim (.error "a boolean") .ok
  else if s.isTagged "int" then
    ((Meaning.integer? s.text.toList).map .integer).elim (.error "an integer") .ok
  else if s.isTagged "float" then (Meaning.float? s.text).elim (.error "a float") .ok
  else if s.isTagged "null" then if Meaning.isNull s.text then .ok .null else .error "null"
  else
    let own := (s.tag.map fun tag => tag.head? == some 0x21).getD true
    .ok (if own && s.style == .plain then .ofPlain s.text else .text s.text)

/-- **The whole number below a bound that a scalar stands for.** Scalars
in quotes stand for none, and blocks only where a tag asks for it. -/
def unsigned? (s : Scalar) (bound : Nat) : Option Nat :=
  if s.style == .plain || (s.style == .literal && s.isTagged "int") then
    Meaning.unsigned? bound s.text.toList
  else none

end Scalar

end GraphGateway.Yaml
