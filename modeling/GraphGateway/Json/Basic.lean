import GraphGateway.Number.Binary64

/-!
# JSON values

A `Json` is a value of the data format: what a request carries as its
variables, what a backend returns as its data. Objects keep their members
in a list, because the order of members is seen when a value is written.

An object that was read is in a normal form: its keys are strictly
increasing, as those of a `Keyed` list are, and a key that was repeated
keeps the member written last.
-/

namespace GraphGateway

/-- **A number of the data format.** Whole numbers that fit 64 bits stay
exact; every other number is a floating-point number. -/
inductive Json.Number where
  /-- A whole number that is not negative. -/
  | natural (n : UInt64)
  /-- The number `-(n + 1)`. -/
  | negative (n : Fin 9223372036854775808)
  /-- A floating-point number. -/
  | float (x : Binary64)
  deriving DecidableEq, Repr

/-- **A value that is not a container.** -/
inductive Json.Scalar where
  /-- The value `null`. -/
  | null
  /-- A truth value. -/
  | bool (b : Bool)
  /-- A number. -/
  | number (n : Json.Number)
  /-- A text. -/
  | string (s : String)
  deriving DecidableEq, Repr

/-- **A JSON value.** -/
inductive Json where
  /-- The value `null`. -/
  | null
  /-- A truth value. -/
  | bool (b : Bool)
  /-- A number. -/
  | number (n : Json.Number)
  /-- A text. -/
  | string (s : String)
  /-- A sequence of values. -/
  | array (items : List Json)
  /-- Members, each a key with its value. -/
  | object (members : List (String × Json))
  deriving Inhabited, Repr

namespace Json

/-- The member of an object with a given key. -/
def member? (key : String) : Json → Option Json
  | object members => members.lookup key
  | _ => none

/-- Whether the value is an object. -/
def isObject : Json → Bool
  | object _ => true
  | _ => false

/-- Whether the value is `null`. -/
def isNull : Json → Bool
  | null => true
  | _ => false

/-- The value that a scalar is. -/
def ofScalar : Scalar → Json
  | .null => null
  | .bool b => bool b
  | .number n => number n
  | .string s => string s

/-- A natural number, for counts that fit 64 bits. -/
def ofNat (n : Nat) : Json := number (.natural (UInt64.ofNat n))

end Json

end GraphGateway
