import GraphGateway.Number.Whole
import GraphGateway.Text.Blank

/-!
# Internet addresses

An internet address is four octets or eight groups of 16 bits. Octets are
written in base ten with dots between them; groups in base sixteen with
colons between them, where a pair of colons stands for as many zeros as
are missing, and the last two groups may be written as four octets.
-/

namespace GraphGateway

/-- **An internet address.** -/
inductive Address where
  /-- Four octets. -/
  | short (octets : List Nat)
  /-- Eight groups, and the zone in which they are an address. -/
  | long (groups : List Nat) (zone : Nat)
  deriving DecidableEq, Repr

namespace Address

/-- One of four octets: a number up to 255 without zeros in front. -/
def octet? (s : List Char) : Option Nat :=
  match s with
  | ['0'] => some 0
  | '0' :: _ => none
  | _ => (Whole.ofDigits? 10 s).filter (· ≤ 255)

/-- **Four octets** with dots between them. -/
def fourOctets? (s : List Char) : Option (List Nat) := do
  let octets ← (Text.splitOn (· == '.') s).mapM octet?
  if octets.length == 4 then some octets else none

/-- A group: one to four digits of base sixteen. -/
def group? (s : List Char) : Option Nat := if s.length > 4 then none else Whole.ofDigits? 16 s

/-- Groups with colons between them, of which there may be none. -/
def groups? (s : List Char) : Option (List Nat) :=
  if s.isEmpty then some [] else (Text.splitOn (· == ':') s).mapM group?

/-- The two groups that four octets fill. -/
def groupsOfOctets : List Nat → List Nat
  | [a, b, c, d] => [a * 256 + b, c * 256 + d]
  | _ => []

/-- The groups at the end of an address, the last two of which may be
written as octets. -/
def lastGroups? (s : List Char) : Option (List Nat) :=
  match (Text.splitOn (· == ':') s).reverse with
  | [] => some []
  | last :: before =>
    if last.contains '.' then do
      let first ← before.reverse.mapM group?
      let octets ← fourOctets? last
      return first ++ groupsOfOctets octets
    else groups? s

/-- The text around the first pair of colons. -/
def splitAtPair : List Char → Option (List Char × List Char)
  | ':' :: ':' :: rest => some ([], rest)
  | c :: rest => (splitAtPair rest).map fun p => (c :: p.1, p.2)
  | [] => none

/-- **Eight groups.** A pair of colons stands for at least one zero. -/
def eightGroups? (s : List Char) : Option (List Nat) :=
  match splitAtPair s with
  | none => do
    let groups ← lastGroups? s
    if groups.length == 8 then some groups else none
  | some (before, behind) => do
    let first ← groups? before
    let last ← lastGroups? behind
    if first.length + last.length > 7 then none
    else some (first ++ List.replicate (8 - first.length - last.length) 0 ++ last)

/-! ## Texts -/

/-- The length of the run of zeros that a list starts with. -/
def zeroRun (groups : List Nat) : Nat := (groups.takeWhile (· == 0)).length

/-- Where the first longest run of two or more zeros starts, and its
length. -/
def longestZeros (groups : List Nat) : Option (Nat × Nat) :=
  (List.range groups.length).foldl (fun best i =>
    let n := zeroRun (groups.drop i)
    match best with
    | none => if n ≥ 2 then some (i, n) else none
    | some (j, m) => if n > m then some (i, n) else some (j, m)) none

/-- Groups with colons between them. -/
def joinGroups (groups : List Nat) : List Char :=
  [':'].intercalate (groups.map (Nat.toDigits 16))

/-- An address of groups in its usual form: the longest run of zeros is
left out. -/
def groupText (groups : List Nat) : List Char :=
  match longestZeros groups with
  | none => joinGroups groups
  | some (i, n) => joinGroups (groups.take i) ++ [':', ':'] ++ joinGroups (groups.drop (i + n))

/-- The text of an address as a host. -/
def text : Address → String
  | short octets => String.intercalate "." (octets.map toString)
  | long groups zone =>
    let zoneText := if zone == 0 then "" else "%" ++ toString zone
    "[" ++ String.ofList (groupText groups) ++ zoneText ++ "]"

/-! ## Addresses to listen on -/

/-- Eight groups and a zone behind a percent sign, if there is one. -/
def zoned? (s : List Char) : Option Address :=
  match s.span (· != '%') with
  | (groups, []) => (eightGroups? groups).map fun value => .long value 0
  | (groups, _ :: digits) => do
    let value ← eightGroups? groups
    let zone ← Whole.ofDigits? 10 digits
    if zone < Nat.pow 2 32 then some (.long value zone) else none

/-- **The address that a host names** where nothing but an address will
do: four octets, or eight groups in brackets. -/
def ofHost? (host : String) : Option Address :=
  match host.toList with
  | '[' :: rest => if rest.getLast? == some ']' then zoned? rest.dropLast else none
  | s => (fourOctets? s).map short

end Address

end GraphGateway
