import GraphGateway.Text.Blank
import GraphGateway.Url.Encoding

/-!
# Names of hosts

Names of hosts are the same if they differ only in the size of letters, in
the width of characters, or in characters that are not seen. `Name.folded?`
brings a name into the form that is compared, and refuses characters that
no name has. Letters are made small in the Latin, Greek and Cyrillic
scripts; characters of other scripts stand as they are.

`Name.ascii?` writes the labels of a name in ASCII.
-/

namespace GraphGateway.Url.Name

/-- The characters that are not seen: they do not count in a name. -/
def isUnseen (n : Nat) : Bool :=
  n == 0xAD || n == 0x34F || n == 0x200B || n == 0x2060 || n == 0x2064 ||
    (0xFE00 ≤ n && n ≤ 0xFE0F) || n == 0xFEFF

/-- The characters outside ASCII that no name has: controls, spaces, marks
of direction, and codes without a character. -/
def isRefused (n : Nat) : Bool :=
  (0x80 ≤ n && n ≤ 0xA0) || n == 0x1680 || (0x2000 ≤ n && n ≤ 0x200F) ||
    (0x2028 ≤ n && n ≤ 0x202F) || (0x205F ≤ n && n ≤ 0x206F) || n == 0x3000 ||
    (0xE000 ≤ n && n ≤ 0xF8FF) || (0xFFF9 ≤ n && n ≤ 0xFFFF) || n % 0x10000 ≥ 0xFFFE ||
    0xE0000 ≤ n

/-- Whether capital and small letters take turns, the capital ones on even
codes. -/
def isEvenCapital (n : Nat) : Bool :=
  n % 2 == 0 &&
    ((0x100 ≤ n && n ≤ 0x12E) || (0x132 < n && n ≤ 0x136) || (0x14A ≤ n && n ≤ 0x176) ||
      (0x460 ≤ n && n ≤ 0x480) || (0x48A ≤ n && n ≤ 0x4BE) || (0x4D0 ≤ n && n ≤ 0x52E) ||
      (0x1E00 ≤ n && n ≤ 0x1E94) || (0x1EA0 ≤ n && n ≤ 0x1EFE))

/-- Whether capital and small letters take turns, the capital ones on odd
codes. -/
def isOddCapital (n : Nat) : Bool :=
  n % 2 == 1 &&
    ((0x139 ≤ n && n ≤ 0x13D) || (0x141 ≤ n && n ≤ 0x147) || (0x179 ≤ n && n ≤ 0x17D) ||
      (0x4C1 ≤ n && n ≤ 0x4CD))

/-- The code of the small letter for a code. -/
def small (n : Nat) : Nat :=
  if 0x41 ≤ n && n ≤ 0x5A then n + 0x20
  else if 0xC0 ≤ n && n ≤ 0xDE && n != 0xD7 then n + 0x20
  else if isEvenCapital n || isOddCapital n then n + 1
  else if n == 0x178 then 0xFF
  else if 0x391 ≤ n && n ≤ 0x3AB then n + 0x20
  else if n == 0x386 then 0x3AC
  else if 0x388 ≤ n && n ≤ 0x38A then n + 0x25
  else if n == 0x38C then 0x3CC
  else if n == 0x38E || n == 0x38F then n + 0x3F
  else if 0x400 ≤ n && n ≤ 0x40F then n + 0x50
  else if 0x410 ≤ n && n ≤ 0x42F then n + 0x20
  else if n == 0x4C0 then 0x4CF
  else n

/-- The code of the character of usual width for a code. The full stops of
other scripts are full stops. -/
def usualWidth (n : Nat) : Nat :=
  if 0xFF01 ≤ n && n ≤ 0xFF5E then n - 0xFEE0
  else if n == 0x3002 || n == 0xFF61 then 0x2E
  else n

/-- **The form of a name that is compared**, if it is a name. -/
def folded? : List Char → Option (List Char)
  | [] => some []
  | c :: rest =>
    if isUnseen c.toNat then folded? rest
    else if isRefused c.toNat then none
    else (folded? rest).map (Char.ofNat (small (usualWidth c.toNat)) :: ·)

/-- A label in ASCII. -/
def labelText (label : List Char) : List Char :=
  if label.all (·.toNat < 0x80) then label else "xn--".toList ++ Punycode.encode label

/-- **A name in ASCII**, if it is a name. -/
def ascii? (name : List Char) : Option (List Char) :=
  (folded? name).map fun s => ['.'].intercalate ((Text.splitOn (· == '.') s).map labelText)

end GraphGateway.Url.Name
