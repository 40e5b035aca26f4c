import GraphGateway.Flow
import GraphGateway.Number.Whole
import GraphGateway.Text.Blank

/-!
# Messages between gateway and backends

A request to a backend travels as octets, and so does the answer. The
gateway asks the backend to close the connection behind its answer, so an
answer ends where its head says, or else where the connection does.

`requestOctets` writes a request, and `readAnswer` reads an answer of which
some octets have arrived.
-/

namespace GraphGateway.Http

/-! ## Requests -/

/-- The part of an address that is asked for at its host. -/
def targetOf (url : Url) : String := String.ofList (url.tail.takeWhile (· != '#'))

/-- **The octets of a request.** -/
def requestOctets (call : Call) : List UInt8 :=
  let body := Text.Utf8.encode call.body
  let lines :=
    ["POST " ++ targetOf call.url ++ " HTTP/1.1",
      "host: " ++ String.ofList (call.url.host.getD []), "content-type: application/json",
      "accept: application/json", "content-length: " ++ toString body.length,
      "connection: close", "", ""]
  Text.Utf8.encode (String.intercalate "\r\n" lines) ++ body

/-! ## Answers -/

/-- **How an answer shows where it ends.** -/
inductive Framing where
  /-- By its number of octets. -/
  | counted (length : Nat)
  /-- By pieces with their lengths, the last of them empty. -/
  | inPieces
  /-- By the end of the connection. -/
  | untilClosed
  deriving DecidableEq, Repr

/-- **The head of an answer.** -/
structure Head where
  /-- The status. -/
  status : Nat
  /-- The headers, with their names in lower case. -/
  headers : List (String × String)
  deriving DecidableEq, Repr

/-- The octets around the first empty line. -/
def splitAtEmptyLine : List UInt8 → Option (List UInt8 × List UInt8)
  | 0x0D :: 0x0A :: 0x0D :: 0x0A :: rest => some ([], rest)
  | octet :: rest => (splitAtEmptyLine rest).map fun (head, body) => (octet :: head, body)
  | [] => none

/-- The octets around the first line break. -/
def splitAtLineBreak : List UInt8 → Option (List UInt8 × List UInt8)
  | 0x0D :: 0x0A :: rest => some ([], rest)
  | octet :: rest => (splitAtLineBreak rest).map fun (line, behind) => (octet :: line, behind)
  | [] => none

/-- Reads a header. -/
def readHeader? (line : List Char) : Option (String × String) :=
  match line.span (· != ':') with
  | (name, _ :: value) =>
    some (String.ofList (name.map Char.toLower), String.ofList (Text.trim value))
  | _ => none

/-- Reads the head of an answer. -/
def readHead? (octets : List UInt8) : Option Head :=
  match Text.lines (Text.Utf8.decodeLossy octets).toList with
  | [] => none
  | first :: rest =>
    match Text.words first with
    | protocol :: status :: _ =>
      if "HTTP/1.".toList.isPrefixOf protocol then
        (Whole.ofDigits? 10 status).map fun status =>
          { status, headers := rest.filterMap readHeader? }
      else none
    | _ => none

/-- How the answer with a head shows where it ends. -/
def Head.framing (h : Head) : Framing :=
  let isInPieces := h.headers.any fun (name, value) =>
    name == "transfer-encoding" && value.toLower == "chunked"
  if isInPieces then .inPieces
  else
    match (h.headers.lookup "content-length").bind fun n => Whole.ofDigits? 10 n.toList with
    | some length => .counted length
    | none => .untilClosed

/-- The octets in pieces, and whether the empty piece at their end is
there; `fuel` is at least the number of octets. -/
def joinPieces : Nat → List UInt8 → List UInt8 × Bool
  | 0, _ => ([], false)
  | fuel + 1, octets =>
    match splitAtLineBreak octets with
    | none => ([], false)
    | some (line, behind) =>
      let digits := (Text.Utf8.decodeLossy line).toList.takeWhile (· != ';')
      match Whole.ofDigits? 16 (Text.trim digits) with
      | none => ([], false)
      | some 0 => ([], true)
      | some length =>
        if behind.length < length then (behind, false)
        else
          let (rest, isWhole) := joinPieces fuel (behind.drop (length + 2))
          (behind.take length ++ rest, isWhole)

/-- **Reads an answer** of which some octets have arrived; none if more
have to arrive first. `isClosed` says that no more will. -/
def readAnswer (octets : List UInt8) (isClosed : Bool) : Option Delivery :=
  match splitAtEmptyLine octets with
  | none => if isClosed then some .noAnswer else none
  | some (head, rest) =>
    match readHead? head with
    | none => some .noAnswer
    | some h =>
      let (body, isWhole) := match h.framing with
        | .counted length => (rest.take length, decide (length ≤ rest.length))
        | .inPieces => joinPieces (rest.length + 1) rest
        | .untilClosed => (rest, isClosed)
      if isWhole || isClosed then some (.answer h.status body isWhole) else none

end GraphGateway.Http
