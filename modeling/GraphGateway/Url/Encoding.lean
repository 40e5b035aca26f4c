import GraphGateway.Text.Utf8

/-!
# Percent-encoding and host names

An address is written in ASCII. In its path, query and fragment, other
characters are written as octets behind percent signs, each part with its
own set of characters that must be written so. In the name of a host they
are written as code points in the form of Punycode, label by label.
-/

namespace GraphGateway.Url

/-- A digit of base sixteen, in upper case. -/
def hexDigit (n : Nat) : Char := Char.ofNat (if n < 10 then 0x30 + n else 0x37 + n)

/-- An octet behind a percent sign. -/
def percentOctet (b : UInt8) : List Char := ['%', hexDigit (b.toNat / 16), hexDigit (b.toNat % 16)]

/-- A character, percent-encoded if it is not printable ASCII or one of
`special`. -/
def percentEncodeChar (special : List Char) (c : Char) : List Char :=
  if c.toNat < 0x20 || c.toNat ≥ 0x7F || special.contains c then
    (Text.Utf8.encode (String.singleton c)).flatMap percentOctet
  else [c]

/-- A text, percent-encoded. -/
def percentEncode (special : List Char) (s : List Char) : List Char :=
  s.flatMap (percentEncodeChar special)

/-- The characters that a path percent-encodes. -/
def pathSpecials : List Char := " \"<>\x60#?\x7b\x7d".toList

/-- The characters that the query of a web address percent-encodes. -/
def querySpecials : List Char := " \"<>#'".toList

/-- The characters that a fragment percent-encodes. -/
def fragmentSpecials : List Char := " \"<>\x60".toList

/-- The value of a digit of base sixteen. -/
def hexValue? (c : Char) : Option Nat :=
  if c.isDigit then some (c.toNat - 0x30)
  else if 'a' ≤ c && c ≤ 'f' then some (c.toNat - 0x57)
  else if 'A' ≤ c && c ≤ 'F' then some (c.toNat - 0x37)
  else none

/-- The octets of a text with its percent signs resolved. -/
def percentDecode : List Char → List UInt8
  | [] => []
  | ['%'] => [0x25]
  | ['%', a] => 0x25 :: Text.Utf8.encode (String.singleton a)
  | '%' :: a :: b :: rest =>
    match hexValue? a, hexValue? b with
    | some x, some y => UInt8.ofNat (x * 16 + y) :: percentDecode rest
    | _, _ => 0x25 :: percentDecode (a :: b :: rest)
  | c :: rest => Text.Utf8.encode (String.singleton c) ++ percentDecode rest

namespace Punycode

/-- A digit of base 36: the letters, and then the decimal digits. -/
def digit (n : Nat) : Char := Char.ofNat (if n < 26 then 0x61 + n else 0x16 + n)

/-- The bias that a distance calls for, beyond `k`: each time it is divided
by 35, one more digit is expected. -/
def biasBeyond (k delta : Nat) : Nat :=
  if delta > 455 then biasBeyond (k + 36) (delta / 35) else k + 36 * delta / (delta + 38)
termination_by delta
decreasing_by omega

/-- The bias after a number was written. -/
def adapt (delta count : Nat) (first : Bool) : Nat :=
  let delta := if first then delta / 700 else delta / 2
  biasBeyond 0 (delta + delta / count)

/-- The threshold of the digit at a position. -/
def threshold (k bias : Nat) : Nat :=
  if k ≤ bias then 1 else if k ≥ bias + 26 then 26 else k - bias

theorem threshold_pos (k bias : Nat) : 0 < threshold k bias := by
  unfold threshold
  split
  · exact Nat.one_pos
  · split <;> omega

/-- A number with digits of changing bases. -/
def variableLength (q k bias : Nat) : List Char :=
  let t := threshold k bias
  if q < t then [digit q]
  else digit (t + (q - t) % (36 - t)) :: variableLength ((q - t) / (36 - t)) (k + 36) bias
termination_by q
decreasing_by
  have := threshold_pos k bias
  exact Nat.lt_of_le_of_lt (Nat.div_le_self _ _) (by omega)

/-- What is known while a label is written. -/
structure Progress where
  /-- The distance to the next code point. -/
  delta : Nat
  /-- The bias of the next number. -/
  bias : Nat
  /-- The code points written. -/
  written : Nat
  /-- The text written. -/
  text : List Char

/-- Writes all occurrences of a code point. -/
def writeCode (plain : Nat) (n : Nat) (p : Progress) (codes : List Nat) : Progress :=
  codes.foldl (fun p c =>
    if c < n then { p with delta := p.delta + 1 }
    else if c == n then
      { delta := 0, bias := adapt p.delta (p.written + 1) (p.written == plain)
        written := p.written + 1, text := p.text ++ variableLength p.delta 36 p.bias }
    else p) p

/-- Writes the code points from `n` on, the smallest first; `fuel` is at
least their number. -/
def writeFrom (plain : Nat) (codes : List Nat) (fuel n : Nat) (p : Progress) : List Char :=
  match fuel with
  | 0 => p.text
  | fuel + 1 =>
    match (codes.filter (· ≥ n)).min? with
    | none => p.text
    | some m =>
      let p := writeCode plain m { p with delta := p.delta + (m - n) * (p.written + 1) } codes
      writeFrom plain codes fuel (m + 1) { p with delta := p.delta + 1 }

/-- **A label in Punycode.** -/
def encode (label : List Char) : List Char :=
  let plain := label.filter (·.toNat < 0x80)
  let start := if plain.isEmpty then [] else plain ++ ['-']
  writeFrom plain.length (label.map Char.toNat) label.length 0x80 ⟨0, 72, plain.length, start⟩

end Punycode

end GraphGateway.Url
