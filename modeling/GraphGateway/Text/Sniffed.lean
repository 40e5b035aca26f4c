import GraphGateway.Text.Utf8

/-!
# Bodies as text

The body of an answer is read as text without fail. A mark at its start
says how it is encoded, in UTF-8 or in pairs of octets in one of the two
orders; without a mark it is UTF-8. The mark is no part of the text, and
whatever is malformed becomes U+FFFD.
-/

namespace GraphGateway.Text.Sniffed

/-- The units of 16 bits that octets form, with the first octet of each
the higher one if `bigEndian`; also whether an octet is left over. -/
def units (bigEndian : Bool) : List UInt8 → List Nat × Bool
  | [] => ([], false)
  | [_] => ([], true)
  | a :: b :: rest =>
    let unit := if bigEndian then a.toNat * 256 + b.toNat else b.toNat * 256 + a.toNat
    let (more, odd) := units bigEndian rest
    (unit :: more, odd)

/-- Whether a unit is the first of a pair. -/
def isHigh (n : Nat) : Bool := 0xD800 ≤ n && n ≤ 0xDBFF

/-- Whether a unit is the second of a pair. -/
def isLow (n : Nat) : Bool := 0xDC00 ≤ n && n ≤ 0xDFFF

/-- The characters of units; `high` is the first unit of a pair that was
read before. -/
def charsOf (high : Option Nat) : List Nat → List Char
  | [] => if high.isSome then ['\uFFFD'] else []
  | n :: rest =>
    match high with
    | some h =>
      if isLow n then
        Char.ofNat ((h - 0xD800) * 0x400 + (n - 0xDC00) + 0x10000) :: charsOf none rest
      else if isHigh n then '\uFFFD' :: charsOf (some n) rest
      else '\uFFFD' :: Char.ofNat n :: charsOf none rest
    | none =>
      if isHigh n then charsOf (some n) rest
      else if isLow n then '\uFFFD' :: charsOf none rest
      else Char.ofNat n :: charsOf none rest

/-- The text of units of 16 bits. -/
def ofUnits (bigEndian : Bool) (octets : List UInt8) : String :=
  let (all, odd) := units bigEndian octets
  String.ofList (charsOf none all ++ (if odd then ['\uFFFD'] else []))

/-- **The text of a body.** -/
def decode (octets : List UInt8) : String :=
  match octets with
  | 0xEF :: 0xBB :: 0xBF :: rest => Utf8.decodeLossy rest
  | 0xFE :: 0xFF :: rest => ofUnits true rest
  | 0xFF :: 0xFE :: rest => ofUnits false rest
  | _ => Utf8.decodeLossy octets

end GraphGateway.Text.Sniffed
