import GraphGateway.Json.Cursor

/-!
# Numerals

A numeral is a sign, whole digits, and perhaps a fraction and an
exponent. `Numeral.scan` finds its extent; `Numeral.value` is the number
it stands for.

A numeral without fraction and exponent stands for a whole number when
that fits 64 bits. Any other numeral is read as a floating-point number
in two roundings: its digits, up to the last that still fits 64 bits,
give a whole number that is rounded, and the product or quotient with a
power of ten is rounded again.
-/

namespace GraphGateway.Json

/-- Whether an octet is a decimal digit. -/
def isDigit (b : UInt8) : Bool := 0x30 ≤ b && b ≤ 0x39

/-- The value of a decimal digit. -/
def digitValue (b : UInt8) : Nat := b.toNat - 0x30

/-- **A numeral**, as the pieces of its text. -/
structure Numeral where
  /-- Whether it starts with a minus sign. -/
  negative : Bool
  /-- The digits before the point. -/
  whole : List UInt8
  /-- The digits behind the point, if there is one. -/
  fraction : Option (List UInt8)
  /-- Whether the exponent is negative, and its digits, if there is one. -/
  exponent : Option (Bool × List UInt8)
  /-- The place behind the numeral. -/
  stop : Cursor

namespace Numeral

/-- The digits at a place and the place behind them. -/
def digitsFrom (offset : Nat) : List UInt8 → List UInt8 × Cursor
  | [] => ([], ⟨offset, []⟩)
  | b :: rest =>
    if isDigit b then
      let (digits, stop) := digitsFrom (offset + 1) rest
      (b :: digits, stop)
    else ([], ⟨offset, b :: rest⟩)

/-- The digits at a place and the place behind them. -/
def digitsAt (c : Cursor) : List UInt8 × Cursor := digitsFrom c.offset c.rest

/-- Why an octet sequence is no numeral, for a reader of the number and
for a reader that skips it. -/
structure Malformed where
  /-- The fault of a reader of the number. -/
  strict : Fault
  /-- The fault of a reader that skips the number. -/
  loose : Fault

/-- A numeral that lacks a digit at a place. The octet found there is
reported as read; at the end of the text a reader of the number misses
the rest of the value. -/
def digitMissing (c : Cursor) : Malformed :=
  if c.rest.isEmpty then ⟨c.fault .endInValue, c.fault .badNumber⟩
  else ⟨c.faultAhead .badNumber, c.faultAhead .badNumber⟩

/-- The exponent at a place, if one starts there. -/
def scanExponent (c : Cursor) : Except Malformed (Option (Bool × List UInt8) × Cursor) :=
  if c.peek? == some 0x65 || c.peek? == some 0x45 then
    let sign := c.step
    let negative := sign.peek? == some 0x2D
    let first := if negative || sign.peek? == some 0x2B then sign.step else sign
    match digitsAt first with
    | ([], _) => .error (digitMissing first)
    | (digits, stop) => .ok (some (negative, digits), stop)
  else .ok (none, c)

/-- The fraction at a place, if one starts there. -/
def scanFraction (c : Cursor) : Except Malformed (Option (List UInt8) × Cursor) :=
  if c.peek? == some 0x2E then
    match digitsAt c.step with
    | ([], _) => .error (digitMissing c.step)
    | (digits, stop) => .ok (some digits, stop)
  else .ok (none, c)

/-- The digits before the point. A zero is not followed by more digits. -/
def scanWhole (c : Cursor) : Except Malformed (List UInt8 × Cursor) :=
  match digitsAt c with
  | ([], _) => .error (digitMissing c)
  | (first :: more, stop) =>
    if first == 0x30 && !more.isEmpty then
      .error ⟨c.step.faultAhead .badNumber, c.step.faultAhead .badNumber⟩
    else .ok (first :: more, stop)

/-- **Finds the extent of a numeral.** -/
def scan (c : Cursor) : Except Malformed Numeral := do
  let negative := c.peek? == some 0x2D
  let (whole, behindWhole) ← scanWhole (if negative then c.step else c)
  let (fraction, behindFraction) ← scanFraction behindWhole
  let (exponent, stop) ← scanExponent behindFraction
  return { negative, whole, fraction, exponent, stop }

/-- The greatest significand that is kept. -/
def greatestSignificand : Nat := 18446744073709551615

/-- Appends digits to a significand as long as it fits 64 bits; also the
number of digits left over. -/
def appendDigits (significand : Nat) : List UInt8 → Nat × Nat
  | [] => (significand, 0)
  | d :: rest =>
    let next := significand * 10 + digitValue d
    if next > greatestSignificand then (significand, rest.length + 1) else appendDigits next rest

/-- The greatest exponent that is read. -/
def greatestExponent : Nat := 2147483647

/-- The value of an exponent's digits, or the number of digits up to the
one that makes it too large. -/
def exponentValue (value read : Nat) : List UInt8 → Except Nat Nat
  | [] => .ok value
  | d :: rest =>
    let next := value * 10 + digitValue d
    if next > greatestExponent then .error (read + 1) else exponentValue next (read + 1) rest

/-- Divides by `10 ^ places` in steps of at most `10 ^ 308`; `steps`
bounds their number. -/
def divideByTenPow (steps places : Nat) (x : Binary64) : Option Binary64 :=
  match steps with
  | 0 => some x
  | steps + 1 =>
    if x.isZero then some x
    else if places ≤ 308 then (Binary64.tenPow places).bind x.div
    else ((Binary64.tenPow 308).bind x.div).bind (divideByTenPow steps (places - 308))

/-- `significand * 10 ^ exponent` as a floating-point number, if it is
not too large. -/
def scaled (significand : Nat) (exponent : Int) : Option Binary64 := do
  let x ← Binary64.ofNat significand
  if exponent < 0 then divideByTenPow 4 exponent.natAbs x
  else if x.isZero && exponent > 308 then some x
  else if exponent > 308 then none
  else (Binary64.tenPow exponent.natAbs).bind x.mul

/-- A floating-point number with a sign. -/
def signed (n : Numeral) (x : Binary64) : Number := .float (x.withSign n.negative)

/-- The whole number of a numeral, if it fits 64 bits; minus zero does
not. -/
def wholeNumber? (n : Numeral) (significand : Nat) : Option Number :=
  if n.negative then
    if h : 0 < significand ∧ significand ≤ 9223372036854775808 then
      some (.negative ⟨significand - 1, by omega⟩)
    else none
  else some (.natural (UInt64.ofNat significand))

/-- **The number of a numeral.** A number that is too large is reported
at the end of the numeral, an exponent that is too large at the digit
that makes it so. -/
def value (n : Numeral) : Except Fault Number := do
  let (significand, dropped) := appendDigits 0 n.whole
  let (significand, exponent) :=
    match n.fraction with
    | none => (significand, (dropped : Int))
    | some digits =>
      let (significand, left) := appendDigits significand digits
      (significand, (dropped : Int) - (digits.length - left : Nat))
  let rounded := fun (exponent : Int) =>
    match scaled significand exponent with
    | some x => Except.ok (n.signed x)
    | none => .error (n.stop.fault .numberOutOfRange)
  match n.exponent with
  | some (negative, digits) =>
    match exponentValue 0 0 digits with
    | .ok e => rounded (if negative then exponent - e else exponent + e)
    | .error read =>
      if significand == 0 || negative then .ok (n.signed Binary64.zero)
      else .error ⟨.numberOutOfRange, n.stop.offset - digits.length + read⟩
  | none =>
    match n.fraction, dropped with
    | none, 0 =>
      match n.wholeNumber? significand with
      | some whole => .ok whole
      | none => rounded 0
    | _, _ => rounded exponent

end Numeral

end GraphGateway.Json
