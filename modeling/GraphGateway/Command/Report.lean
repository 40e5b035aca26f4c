import GraphGateway.Registry.Basic
import GraphGateway.Time.Rfc3339

/-!
# Reports

What a command tells people when it is done.
-/

namespace GraphGateway

namespace Report

/-- Lines, each with a line break. -/
def lines (texts : List String) : String := String.join (texts.map (· ++ "\n"))

/-- How it is shown whether requests may be routed to a server. -/
def statusLabel (isActive : Bool) : String := if isActive then "✓ Active" else "✗ Inactive"

/-- The lines on a server's schema: its roots that have a name, and the
number of its types. -/
def schemaLines (indent : String) (server : Server) : List String :=
  match server.schema with
  | none => []
  | some schema =>
    let root (label : String) (type : Option TypeRef) : List String :=
      ((type.bind (·.name)).map fun name => indent ++ label ++ " Type: " ++ name).toList
    root "Query" schema.queryType ++ root "Mutation" schema.mutationType ++
      root "Subscription" schema.subscriptionType ++
      [indent ++ "Total Types: " ++ toString schema.types.length]

/-- The line on a server's description, if it has one. -/
def descriptionLines (indent : String) (server : Server) : List String :=
  if server.description.isEmpty then [] else [indent ++ "Description: " ++ server.description]

/-- A server was registered and saved in a file. -/
def registered (file : String) (server : Server) : String :=
  lines (["✓ Successfully registered server '" ++ server.name ++ "' (" ++ server.id ++ ")",
      "  Endpoint: " ++ server.endpoint] ++ descriptionLines "  " server ++
    ["  Registry saved to: " ++ file] ++ schemaLines "  " server)

/-- A server was changed or removed. -/
def changed (server : Server) : String :=
  lines ["✓ " ++ server.name ++ " (" ++ server.id ++ "): " ++ statusLabel server.isActive]

/-- The lines on a server in a list. -/
def serverLines (number : Nat) (server : Server) : List String :=
  [toString number ++ ". " ++ server.name ++ " (" ++ server.id ++ ")",
    "   Endpoint: " ++ server.endpoint] ++ descriptionLines "   " server ++
  ["   Status: " ++ statusLabel server.isActive,
    "   Added: " ++ server.addedAt.offsetText,
    "   Updated: " ++ server.updatedAt.offsetText] ++
  (if server.schema.isSome then "   Schema:" :: schemaLines "     " server else []) ++ [""]

/-- The servers of a registry that a file holds. -/
def listed (file : String) (r : Registry) : String :=
  lines (["KastQL Server Registry", "======================", "Registry File: " ++ file,
      "Total Servers: " ++ toString r.count, "Active Servers: " ++ toString r.activeCount,
      "Inactive Servers: " ++ toString (r.count - r.activeCount), ""] ++
    if r.all.isEmpty then
      ["No servers registered.", "Use 'kastql register' to add a GraphQL server."]
    else r.all.zipIdx.flatMap fun (server, i) => serverLines (i + 1) server)

/-- Whether each of some servers answers. -/
def probed (results : List (Server × Except GatewayError Unit)) : String :=
  let line (server : Server) (result : Except GatewayError Unit) : String :=
    "  " ++ server.name ++ " (" ++ server.endpoint ++ ") [" ++ statusLabel server.isActive ++
      "] " ++
      match result with
      | .ok () => "reachable"
      | .error e => "unreachable (" ++ e.message ++ ")"
  lines (("KastQL status: " ++ toString results.length ++ " server(s) registered") ::
    results.map fun (server, result) => line server result)

/-- A configuration file was written. -/
def initialised (file : String) : String := lines ["✓ Wrote default configuration to " ++ file]

end Report

end GraphGateway
