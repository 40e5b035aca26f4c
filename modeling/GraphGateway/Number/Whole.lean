/-!
# Whole numbers in texts

A whole number is written in digits of a base, and in base ten a plus sign
may stand before them. `Whole.read` reads one up to a greatest number, and
says why a text is none.
-/

namespace GraphGateway.Whole

/-- The value of a digit; letters of either case go on after nine. -/
def digit? (base : Nat) (c : Char) : Option Nat :=
  let value :=
    if '0' ≤ c && c ≤ '9' then c.toNat - '0'.toNat
    else if 'a' ≤ c && c ≤ 'z' then c.toNat - 'a'.toNat + 10
    else if 'A' ≤ c && c ≤ 'Z' then c.toNat - 'A'.toNat + 10
    else base
  if value < base then some value else none

/-- The number that digits go on to from `number`. -/
def extend? (base number : Nat) : List Char → Option Nat
  | [] => some number
  | c :: rest => (digit? base c).bind fun d => extend? base (number * base + d) rest

/-- The number of some digits, of which there has to be one. -/
def ofDigits? (base : Nat) (digits : List Char) : Option Nat :=
  if digits.isEmpty then none else extend? base 0 digits

/-- **Why a text is no whole number.** -/
inductive Refusal where
  /-- The text is empty. -/
  | empty
  /-- A character is no digit. -/
  | badDigit
  /-- The number is greater than the greatest. -/
  | tooLarge
  deriving DecidableEq, Repr

/-- The wording of a refusal. -/
def Refusal.message : Refusal → String
  | empty => "cannot parse integer from empty string"
  | badDigit => "invalid digit found in string"
  | tooLarge => "number too large to fit in target type"

/-- The number that digits of base ten go on to, refused at the first
digit that makes it too large. -/
def readDigits (greatest number : Nat) : List Char → Except Refusal Nat
  | [] => .ok number
  | c :: rest =>
    match digit? 10 c with
    | none => .error .badDigit
    | some d =>
      let next := number * 10 + d
      if greatest < next then .error .tooLarge else readDigits greatest next rest

/-- **Reads a whole number** in base ten. -/
def read (greatest : Nat) : List Char → Except Refusal Nat
  | [] => .error .empty
  | ['+'] => .error .badDigit
  | '+' :: digits => readDigits greatest 0 digits
  | digits => readDigits greatest 0 digits

end GraphGateway.Whole
