import GraphGateway.Error
import GraphGateway.Keyed
import GraphGateway.Registry.Server

/-!
# The registry

A `Registry` is a map from ids to servers. Its operations either succeed
and give a new registry, or fail and give none, so that a failure cannot
leave anything behind.

Listings walk the servers in the order of their registration
(`inRegistrationOrder`), and so does the look-up of a name: of several
servers that declare it, the one registered first is found.
-/

namespace GraphGateway

open Time (Instant)

/-- **The servers that the gateway knows**, under their ids. -/
structure Registry where
  /-- The servers, sorted by the ids that they are kept under. -/
  entries : List (String × Server)
  deriving Repr

namespace Registry

/-- The registry without servers. -/
def empty : Registry := ⟨[]⟩

/-- Whether `a` is listed before `b`: it was registered earlier, or at the
same time and has the smaller id. -/
def listedBefore (a b : Server) : Bool :=
  match compare a.addedAt b.addedAt with
  | .lt => true
  | .gt => false
  | .eq => !decide (b.id < a.id)

/-- Servers in the order of their registration. -/
def inRegistrationOrder (servers : List Server) : List Server := servers.mergeSort listedBefore

/-- **All servers**, in the order of their registration. -/
def all (r : Registry) : List Server := inRegistrationOrder (Keyed.values r.entries)

/-- **The servers that requests may be routed to**, in the order of their
registration. -/
def active (r : Registry) : List Server := r.all.filter (·.isActive)

/-- The number of servers. -/
def count (r : Registry) : Nat := r.entries.length

/-- The number of servers that requests may be routed to. -/
def activeCount (r : Registry) : Nat := (r.entries.filter (·.2.isActive)).length

/-- The server of an id. -/
def get (r : Registry) (id : String) : Except GatewayError Server :=
  match r.entries.lookup id with
  | some server => .ok server
  | none => .error (.unknownServer id)

/-- Whether a server's schema satisfies `p`; a server without a schema has
nothing to satisfy it. -/
def hasSchema (p : Schema → Bool) (server : Server) : Bool := server.schema.any p

/-- **The first server that declares a name** as a root type or a type,
active or not. -/
def findByField (r : Registry) (name : String) : Except GatewayError Server :=
  match r.all.find? (hasSchema (·.declaresType name)) with
  | some server => .ok server
  | none => .error (.noServerFound name)

/-- **Adds a server**, unless its id is taken. -/
def register (r : Registry) (server : Server) : Except GatewayError Registry :=
  match r.entries.lookup server.id with
  | some _ => .error (.serverExists server.id)
  | none => .ok ⟨Keyed.insert server.id server r.entries⟩

/-- **Changes the server of an id** at a time; also the server as it is
then. -/
def update (r : Registry) (id : String) (u : ServerUpdate) (now : Instant) :
    Except GatewayError (Registry × Server) :=
  match r.entries.lookup id with
  | some server =>
    let changed := u.apply now server
    .ok (⟨Keyed.insert id changed r.entries⟩, changed)
  | none => .error (.unknownServer id)

/-- **Removes the server of an id**; also the server. -/
def remove (r : Registry) (id : String) : Except GatewayError (Registry × Server) :=
  match r.entries.lookup id with
  | some server => .ok (⟨Keyed.erase id r.entries⟩, server)
  | none => .error (.unknownServer id)

end Registry

end GraphGateway
