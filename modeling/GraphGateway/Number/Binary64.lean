/-!
# Binary floating-point numbers

Numbers with a fraction or an exponent are read, and written back, as
binary floating-point numbers of 64 bits. A `Binary64` is a finite one,
held as its sign, its significand and its exponent, so that every
statement about it is a statement about integers. `nearest` is the
rounding of a ratio to the nearest number, ties to the even significand;
the arithmetic on top of it is exact arithmetic followed by `nearest`.
-/

namespace GraphGateway

/-- **A finite binary floating-point number**: the value
`significand * 2 ^ exponent`, with its sign. -/
structure Binary64 where
  /-- Whether the number carries a minus sign (zero may). -/
  negative : Bool
  /-- The significand, below `2 ^ 53`. -/
  significand : Nat
  /-- The exponent, at least `-1074`. -/
  exponent : Int
  deriving DecidableEq, Repr, Inhabited

/-- The quotient rounded to the nearest integer, a tie to the even one. -/
def roundDiv (num den : Nat) : Nat :=
  let q := num / den
  let r := num % den
  if 2 * r < den then q
  else if 2 * r > den then q + 1
  else if q % 2 == 0 then q
  else q + 1

namespace Binary64

/-- The number zero. -/
def zero : Binary64 := ⟨false, 0, -1074⟩

/-- The least exponent of a number, that of the subnormal ones. -/
def leastExponent : Int := -1074

/-- The greatest exponent of a number. -/
def greatestExponent : Int := 971

/-- `num / den` in units of `2 ^ e`, rounded to the nearest integer. -/
def roundAt (num den : Nat) (e : Int) : Nat :=
  if 0 ≤ e then roundDiv num (den * Nat.pow 2 e.toNat)
  else roundDiv (num * Nat.pow 2 (-e).toNat) den

/-- `num / den` in units of `2 ^ e`, rounded down. -/
def floorAt (num den : Nat) (e : Int) : Nat :=
  if 0 ≤ e then num / (den * Nat.pow 2 e.toNat) else num * Nat.pow 2 (-e).toNat / den

/-- The exponent at which `num / den` has a significand of 53 digits. -/
def scale (num den : Nat) : Int :=
  let guess : Int := (num.log2 : Int) - (den.log2 : Int) - 52
  if floorAt num den guess < Nat.pow 2 52 then guess - 1 else guess

/-- **The number nearest to a ratio**, ties to the even significand;
none when the ratio is beyond the greatest number. -/
def nearest (negative : Bool) (num den : Nat) : Option Binary64 :=
  if num == 0 then some { zero with negative }
  else
    let e := max (scale num den) leastExponent
    let m := roundAt num den e
    let (m, e) := if m == Nat.pow 2 53 then (Nat.pow 2 52, e + 1) else (m, e)
    if e > greatestExponent then none else some ⟨negative, m, e⟩

/-- Whether the number is zero, of either sign. -/
def isZero (x : Binary64) : Bool := x.significand == 0

/-- The magnitude as a ratio of natural numbers. -/
def ratio (x : Binary64) : Nat × Nat :=
  if 0 ≤ x.exponent then (x.significand * Nat.pow 2 x.exponent.toNat, 1)
  else (x.significand, Nat.pow 2 (-x.exponent).toNat)

/-- The number nearest to a natural number. -/
def ofNat (n : Nat) : Option Binary64 := nearest false n 1

/-- The product of the magnitudes, rounded. -/
def mul (x y : Binary64) : Option Binary64 :=
  nearest (x.negative != y.negative) (x.ratio.1 * y.ratio.1) (x.ratio.2 * y.ratio.2)

/-- The quotient of the magnitudes, rounded. -/
def div (x y : Binary64) : Option Binary64 :=
  nearest (x.negative != y.negative) (x.ratio.1 * y.ratio.2) (x.ratio.2 * y.ratio.1)

/-- The number with the sign given. -/
def withSign (x : Binary64) (negative : Bool) : Binary64 := { x with negative }

/-- The number nearest to `10 ^ k`. -/
def tenPow (k : Nat) : Option Binary64 := ofNat (Nat.pow 10 k)

end Binary64

end GraphGateway
