/-!
# Octets of UTF-8

Files and message bodies arrive as octets. `decode?` reads them as UTF-8
or refuses them; `wellFormedLength` says how far they are well formed,
which is where a refusal is reported; `decodeLossy` puts U+FFFD in the
place of every maximal malformed piece.

The three share one step, `takeChar`, that reads a single character from
the front.
-/

namespace GraphGateway.Text.Utf8

/-- Whether an octet continues a character. -/
def isTail (b : UInt8) : Bool := 0x80 ≤ b && b ≤ 0xBF

/-- **One step of reading**: a character and the number of octets it
took, or how many octets of a malformed piece go together. -/
inductive Step where
  /-- A well-formed character of the given length. -/
  | char (c : Char) (length : Nat)
  /-- The first `length` octets begin no character that the next octet
  continues. -/
  | malformed (length : Nat)

/-- The six payload bits of a continuing octet. -/
def tailBits (b : UInt8) : Nat := b.toNat % 0x40

/-- The bounds of the second octet after a first octet that opens a
longer character, with the number of octets of the character. -/
def secondBounds (b : UInt8) : Option (Nat × UInt8 × UInt8) :=
  if 0xC2 ≤ b && b ≤ 0xDF then some (2, 0x80, 0xBF)
  else if b == 0xE0 then some (3, 0xA0, 0xBF)
  else if b == 0xED then some (3, 0x80, 0x9F)
  else if 0xE1 ≤ b && b ≤ 0xEF then some (3, 0x80, 0xBF)
  else if b == 0xF0 then some (4, 0x90, 0xBF)
  else if b == 0xF4 then some (4, 0x80, 0x8F)
  else if 0xF1 ≤ b && b ≤ 0xF3 then some (4, 0x80, 0xBF)
  else none

/-- The first character of a sequence of octets that starts with `b`. -/
def takeChar (b : UInt8) (rest : List UInt8) : Step :=
  if b < 0x80 then .char (Char.ofNat b.toNat) 1
  else
    match secondBounds b, rest with
    | none, _ => .malformed 1
    | some _, [] => .malformed 1
    | some (size, low, high), c :: rest =>
      if !(low ≤ c && c ≤ high) then .malformed 1
      else if size == 2 then .char (Char.ofNat (b.toNat % 0x20 * 0x40 + tailBits c)) 2
      else
        match rest with
        | [] => .malformed 2
        | d :: rest =>
          if !isTail d then .malformed 2
          else if size == 3 then
            .char (Char.ofNat (b.toNat % 0x10 * 0x1000 + tailBits c * 0x40 + tailBits d)) 3
          else
            match rest with
            | [] => .malformed 3
            | e :: _ =>
              if !isTail e then .malformed 3
              else
                .char (Char.ofNat (b.toNat % 0x08 * 0x40000 + tailBits c * 0x1000 +
                  tailBits d * 0x40 + tailBits e)) 4

/-- The number of octets before the first malformed piece; `fuel` is at
least the number of octets. -/
def wellFormedLengthAux : Nat → List UInt8 → Nat
  | 0, _ => 0
  | _, [] => 0
  | fuel + 1, b :: rest =>
    match takeChar b rest with
    | .char _ n => n + wellFormedLengthAux fuel (rest.drop (n - 1))
    | .malformed _ => 0

/-- The number of octets before the first malformed piece. -/
def wellFormedLength (bytes : List UInt8) : Nat := wellFormedLengthAux bytes.length bytes

/-- The characters of the octets, with U+FFFD for each malformed piece;
`fuel` is at least the number of octets. -/
def decodeLossyAux : Nat → List UInt8 → List Char
  | 0, _ => []
  | _, [] => []
  | fuel + 1, b :: rest =>
    match takeChar b rest with
    | .char c n => c :: decodeLossyAux fuel (rest.drop (n - 1))
    | .malformed n => '\uFFFD' :: decodeLossyAux fuel (rest.drop (n - 1))

/-- **Reading that never fails**: U+FFFD stands for every maximal piece
of octets that begins a character and cannot be continued. -/
def decodeLossy (bytes : List UInt8) : String := String.ofList (decodeLossyAux bytes.length bytes)

/-- **Strict reading**: the text whose UTF-8 form the octets are, if
there is one. -/
def decode? (bytes : List UInt8) : Option String := String.fromUTF8? ⟨bytes.toArray⟩

/-- The octets of a text. -/
def encode (s : String) : List UInt8 := s.toUTF8.data.toList

end GraphGateway.Text.Utf8
