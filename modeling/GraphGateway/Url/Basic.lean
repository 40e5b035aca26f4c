import GraphGateway.Error
import GraphGateway.Url.Host

/-!
# Addresses

An `Url` is an address in its normal form: scheme and host in lower case,
no port where it is the usual one, no dot segments in the path, and
everything percent-encoded that has to be. `Url.parse` finds it.

`Url.ofEndpoint` says whether requests can be sent to an address.
-/

namespace GraphGateway

/-- **An address in its normal form.** -/
structure Url where
  /-- How to talk to the host. -/
  scheme : List Char
  /-- The host with its port, if there is a host. -/
  host : Option (List Char)
  /-- The path, the query and the fragment. -/
  tail : List Char
  deriving DecidableEq, Repr

namespace Url

/-- The text of an address. -/
def text (u : Url) : String :=
  match u.host with
  | some host => String.ofList (u.scheme ++ "://".toList ++ host ++ u.tail)
  | none => String.ofList (u.scheme ++ ':' :: u.tail)

/-- The characters of an address without controls and blanks at its ends,
and without tabs and line breaks. -/
def clean (s : List Char) : List Char :=
  let isEdge := fun (c : Char) => c.toNat ≤ 0x20
  (Text.dropEnd isEdge (s.dropWhile isEdge)).filter fun c => c != '\t' && c != '\n' && c != '\r'

/-- The scheme of an address and the text behind its colon. -/
def splitScheme (s : List Char) : Option (List Char × List Char) :=
  let isPart := fun (c : Char) => c.isAlphanum || c == '+' || c == '-' || c == '.'
  match s.span isPart with
  | (c :: rest, ':' :: behind) =>
    if c.isAlpha then some ((c :: rest).map Char.toLower, behind) else none
  | _ => none

/-- The usual port of a scheme of the web. -/
def webPort? (scheme : List Char) : Option Nat :=
  [("http", 80), ("https", 443), ("ws", 80), ("wss", 443), ("ftp", 21)].lookup
    (String.ofList scheme)

/-- The segments of a path with the dot segments resolved: a single dot is
left out, two dots take the segment before with them. -/
def resolveDots (read : List (List Char)) : List (List Char) → List (List Char)
  | [] => read.reverse
  | segment :: rest =>
    let plain := String.ofList (segment.map Char.toLower)
    if plain == "." || plain == "%2e" then
      resolveDots (if rest.isEmpty then [] :: read else read) rest
    else if plain == ".." || plain == ".%2e" || plain == "%2e." || plain == "%2e%2e" then
      resolveDots (if rest.isEmpty then [] :: read.drop 1 else read.drop 1) rest
    else resolveDots (segment :: read) rest

/-- A path in its normal form; it starts with a slash. -/
def normalPath (isSlash : Char → Bool) (s : List Char) : List Char :=
  let segments := (Text.splitOn isSlash (s.drop 1)).map (percentEncode pathSpecials)
  '/' :: ['/'].intercalate (resolveDots [] segments)

/-- The query and the fragment in their normal forms. -/
def normalEnd (s : List Char) : List Char :=
  let (query, fragment) := s.span (· != '#')
  percentEncode querySpecials query ++
    match fragment with
    | [] => []
    | _ :: rest => '#' :: percentEncode fragmentSpecials rest

/-- The port at the end of a host: the text before its colon, and the
digits behind it. A colon inside brackets belongs to the host. -/
def splitPort (s : List Char) : List Char × Option (List Char) :=
  let (digits, before) := s.reverse.span (fun c => c != ':' && c != ']')
  match before with
  | ':' :: host => (host.reverse, some digits.reverse)
  | _ => (s, none)

/-- The text behind the last character that satisfies `p`, or the whole
text. -/
def behindLast (p : Char → Bool) (s : List Char) : List Char := (s.reverse.takeWhile (!p ·)).reverse

/-- The host and port of an address, without the name and password that
may stand before them. -/
def normalAuthority (scheme : List Char) (s : List Char) : Option (List Char) := do
  let (name, port) := splitPort (behindLast (· == '@') s)
  let host ← if (webPort? scheme).isSome then webHost? name else otherHost? name
  match port with
  | none => some host
  | some digits =>
    let n ← numberIn 10 digits
    if n ≥ 65536 then none
    else if digits.isEmpty || webPort? scheme == some n then some host
    else some (host ++ ':' :: Nat.toDigits 10 n)

/-- **Finds the normal form of an address.** -/
def parse (address : String) : Option Url := do
  let (scheme, rest) ← splitScheme (clean address.toList)
  let isEnd := fun (c : Char) => c == '?' || c == '#'
  let withHost := fun (isSlash : Char → Bool) (s : List Char) => do
    let (authority, behind) := s.span fun c => !isSlash c && !isEnd c
    let host ← normalAuthority scheme authority
    let (path, tail) := behind.span fun c => !isEnd c
    let path := if path.isEmpty && (webPort? scheme).isNone then [] else normalPath isSlash path
    return { scheme, host := some host, tail := path ++ normalEnd tail : Url }
  if (webPort? scheme).isSome then
    let isSlash := fun (c : Char) => c == '/' || c == '\\'
    withHost isSlash (rest.dropWhile isSlash)
  else
    match rest with
    | '/' :: '/' :: authority =>
      if authority.isEmpty || authority.head? == some '/' then
        return { scheme, host := none, tail := '/' :: '/' :: percentEncode pathSpecials authority }
      else withHost (· == '/') authority
    | _ =>
      let (path, tail) := rest.span fun c => !isEnd c
      return { scheme, host := none, tail := percentEncode [] path ++ normalEnd tail }

/-- **The address that requests are sent to**, or why none can be sent: it
has no normal form, no host, or a scheme other than those of the web's
pages. -/
def ofEndpoint (endpoint : String) : Except TransportFailure Url :=
  match parse endpoint with
  | none => .error (.badAddress none)
  | some url =>
    let scheme := String.ofList url.scheme
    if url.host.isSome && (scheme == "http" || scheme == "https") then .ok url
    else .error (.badAddress (some url.text))

end Url

end GraphGateway
