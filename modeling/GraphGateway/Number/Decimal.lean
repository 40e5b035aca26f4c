import GraphGateway.Number.Shortest
import GraphGateway.Number.Whole

/-!
# Decimal numbers in texts

A decimal number is written with digits, a point among or beside them, and
perhaps an exponent. `Decimal.parse?` takes such a text apart, and
`Binary64.ofDecimal` is the floating-point number nearest to it.
-/

namespace GraphGateway

/-- **The number nearest to a decimal number**; none when it is beyond the
greatest number. -/
def Binary64.ofDecimal (negative : Bool) (d : DecimalDigits) : Option Binary64 :=
  let size : Int := (Nat.toDigits 10 d.digits).length
  if d.digits == 0 || d.exponent + size < -400 then some { zero with negative }
  else if d.exponent > 400 then none
  else if 0 ≤ d.exponent then nearest negative (d.digits * Nat.pow 10 d.exponent.toNat) 1
  else nearest negative d.digits (Nat.pow 10 (-d.exponent).toNat)

namespace Decimal

/-- The exponent at the end of a text, if nothing else is there. -/
def exponent? : List Char → Option Int
  | [] => some 0
  | mark :: rest =>
    if mark == 'e' || mark == 'E' then
      match rest with
      | '-' :: digits => (Whole.ofDigits? 10 digits).map fun n => -(n : Int)
      | '+' :: digits => (Whole.ofDigits? 10 digits).map fun n => (n : Int)
      | digits => (Whole.ofDigits? 10 digits).map fun n => (n : Int)
    else none

/-- Takes a decimal number without a sign apart. -/
def unsigned? (s : List Char) : Option DecimalDigits := do
  let whole := s.takeWhile Char.isDigit
  let behind := s.dropWhile Char.isDigit
  let (fraction, behind) := match behind with
    | '.' :: rest => (rest.takeWhile Char.isDigit, rest.dropWhile Char.isDigit)
    | _ => ([], behind)
  let digits ← Whole.ofDigits? 10 (whole ++ fraction)
  let exponent ← exponent? behind
  return ⟨digits, exponent - fraction.length⟩

/-- **Takes a decimal number apart**: whether it has a minus sign, and its
digits. -/
def parse? : List Char → Option (Bool × DecimalDigits)
  | '-' :: rest => (unsigned? rest).map fun d => (true, d)
  | s => (unsigned? s).map fun d => (false, d)

end Decimal

end GraphGateway
