import GraphGateway.Json.Printer
import GraphGateway.Registry.Basic
import GraphGateway.Wire.Decode
import GraphGateway.Wire.Encode

/-!
# The text of a registry

A registry is kept in files as a JSON object over several lines, with a
member for each server under its id. `Registry.exportText` writes the text
and `Registry.ofOctets` reads it; a text in which a key is not the id of
its server is refused as a whole.
-/

namespace GraphGateway

namespace Registry

/-- A registry as an object. -/
def toJson (r : Registry) : Json := .object (r.entries.map fun entry => (entry.1, entry.2.toJson))

/-- **The text of a registry.** -/
def exportText (r : Registry) : String := Json.pretty r.toJson

/-- The octets of the text of a registry. -/
def exportOctets (r : Registry) : List UInt8 := Text.Utf8.encode r.exportText

/-- Why a key is refused: the server under it has another id. -/
def wrongKey (key id : String) : String :=
  "registry key " ++ Text.quoted key ++ " holds server with ID " ++ Text.quoted id

/-- **Reads the text of a registry.** -/
def ofOctets (octets : List UInt8) : Except GatewayError Registry :=
  match Wire.decodeText (.map (.record .server)) octets with
  | .error fault => .error (.notARegistry (fault.message octets))
  | .ok entries =>
    match (entries : List (String × Server)).find? fun entry => entry.1 != entry.2.id with
    | some (key, server) => .error (.notARegistry (wrongKey key server.id))
    | none => .ok ⟨entries⟩

end Registry

end GraphGateway
