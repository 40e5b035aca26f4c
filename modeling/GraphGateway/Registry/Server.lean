import GraphGateway.Schema
import GraphGateway.Time.Instant

/-!
# Registered servers

A `Server` is a backend that the gateway knows. `ServerUpdate` says what
to change about it; what an update leaves open stays as it is.
-/

namespace GraphGateway

open Time (Instant)

/-- **A registered backend.** -/
structure Server where
  /-- The name that the registry knows it by. -/
  id : String
  /-- The name shown to people. -/
  name : String
  /-- The address that requests are sent to. -/
  endpoint : String
  /-- What it is for. -/
  description : String
  /-- What it said about itself when it was last asked. -/
  schema : Option Schema
  /-- When it was registered. -/
  addedAt : Instant
  /-- When it was last changed. -/
  updatedAt : Instant
  /-- Whether requests may be routed to it. -/
  isActive : Bool
  deriving Repr

/-- **A change of a server**; what is absent is left as it is. -/
structure ServerUpdate where
  /-- The new name. -/
  name : Option String := none
  /-- The new address. -/
  endpoint : Option String := none
  /-- The new description. -/
  description : Option String := none
  /-- The new schema. -/
  schema : Option Schema := none
  /-- Whether requests may be routed to it from now on. -/
  isActive : Option Bool := none
  deriving Repr

namespace ServerUpdate

/-- The update that lets requests through or stops them. -/
def activation (isActive : Bool) : ServerUpdate := { isActive := some isActive }

/-- The update that puts a new schema in place. -/
def replaceSchema (schema : Schema) : ServerUpdate := { schema := some schema }

/-- **Changes a server** at a time, which it keeps as that of its last
change. -/
def apply (u : ServerUpdate) (now : Instant) (server : Server) : Server :=
  { server with
    name := u.name.getD server.name
    endpoint := u.endpoint.getD server.endpoint
    description := u.description.getD server.description
    schema := u.schema <|> server.schema
    isActive := u.isActive.getD server.isActive
    updatedAt := now }

end ServerUpdate

/-- What is needed to register a server. -/
structure Registration where
  /-- The name that the registry will know it by. -/
  id : String
  /-- The name shown to people. -/
  name : String
  /-- The address that requests are sent to. -/
  endpoint : String
  /-- What it is for. -/
  description : String
  deriving Repr

/-- The server that a registration makes at a time. It is active from the
start. -/
def Registration.server (r : Registration) (schema : Schema) (now : Instant) : Server :=
  { id := r.id, name := r.name, endpoint := r.endpoint, description := r.description
    schema := some schema, addedAt := now, updatedAt := now, isActive := true }

end GraphGateway
