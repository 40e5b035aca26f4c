import GraphGateway.Address
import GraphGateway.Url.Name

/-!
# Hosts

The host of an address is a name or an internet address. A name whose
last label is a number is an address of four octets in one of its several
spellings; a text in brackets is an address of eight groups. All are
written in one form each.
-/

namespace GraphGateway.Url

/-- The value of a text in a base. -/
def numberIn (base : Nat) (s : List Char) : Option Nat :=
  s.foldl (fun n c => n.bind fun n => (hexValue? c).bind fun d =>
    if d < base then some (n * base + d) else none) (some 0)

/-- The value of a part of an address of octets: decimal, octal behind a
zero, or of base sixteen behind a zero and an x. -/
def octetNumber : List Char → Option Nat
  | [] => none
  | '0' :: 'x' :: rest => numberIn 16 rest
  | '0' :: 'X' :: rest => numberIn 16 rest
  | '0' :: c :: rest => numberIn 8 (c :: rest)
  | s => numberIn 10 s

/-- The labels of a name, without an empty one at its end. -/
def labels (s : List Char) : List (List Char) :=
  let all := Text.splitOn (· == '.') s
  if all.length > 1 && all.getLast? == some [] then all.dropLast else all

/-- Whether a name is meant as an address of octets. -/
def endsInNumber (s : List Char) : Bool :=
  match (labels s).getLast? with
  | some last =>
    !last.isEmpty && (last.all Char.isDigit || (octetNumber last).isSome)
  | none => false

/-- An address of octets in its usual form. The last part fills all octets
that are not given. -/
def octetAddress? (s : List Char) : Option (List Char) := do
  let numbers ← (labels s).mapM octetNumber
  let last ← numbers.getLast?
  let before := numbers.dropLast
  if before.length > 3 || before.any (· > 255) || last ≥ Nat.pow 256 (4 - before.length) then none
  else
    let value := before.zipIdx.foldl (fun n p => n + p.1 * Nat.pow 256 (3 - p.2)) last
    let octet := fun i => Nat.toDigits 10 (value / Nat.pow 256 i % 256)
    some (octet 3 ++ '.' :: octet 2 ++ '.' :: octet 1 ++ '.' :: octet 0)

/-- The characters that no host has. -/
def forbiddenInHost : List Char := " #%/:<>?@[\\]^|\x7f".toList

/-- **The host of a web address in its usual form**, if the text is one. -/
def webHost? (s : List Char) : Option (List Char) :=
  match s with
  | '[' :: rest =>
    if rest.getLast? == some ']' then do
      let groups ← Address.eightGroups? rest.dropLast
      return '[' :: Address.groupText groups ++ [']']
    else none
  | _ => do
    let name ← Name.ascii? (Text.Utf8.decodeLossy (percentDecode s)).toList
    if name.isEmpty || name.any (fun c => c.toNat < 0x20 || forbiddenInHost.contains c) then none
    else if endsInNumber name then octetAddress? name
    else some name

/-- The host of another address: kept as it is, with its characters
outside ASCII percent-encoded. -/
def otherHost? (s : List Char) : Option (List Char) :=
  match s with
  | '[' :: _ => webHost? s
  | _ =>
    if s.any (fun c => forbiddenInHost.contains c && c != '%') then none
    else some (percentEncode [] s)

end GraphGateway.Url
