import GraphGateway.Introspection.Client

/-!
# Registering and refreshing servers

A server is registered in four steps: a look whether its id is free, a
probe of its address, its introspection, and the insertion, which looks at
the id again. A server is refreshed in three: its address is read, it is
introspected, and the new schema takes the place of the old one. A step
that fails ends the activity and leaves the registry as it is.
-/

namespace GraphGateway

open Time (Instant)

/-- Inserts a server with the schema given. The clock is read before the
registry is changed. -/
def Registration.insert (r : Registration) (schema : Schema) : Flow.Fallible Server :=
  .clock fun now =>
    let server := r.server schema now
    Flow.attempt fun _ registry => do
      let changed ← registry.register server
      return (changed, server)

/-- Registers a server after somebody has probed and introspected it. -/
def Registration.registerBy (r : Registration) (i : Introspector) : Flow.Fallible Server :=
  Flow.bind (Flow.readRegistry fun registry => registry.get r.id) fun
    | .ok existing => .done (.error (.serverExists existing.id))
    | .error _ =>
      Flow.andThen (i.probe r.endpoint) fun _ =>
        Flow.andThen (i.introspect r.endpoint) fun schema => r.insert schema

/-- **Registers a server** after it was probed and introspected. -/
def Registration.register (r : Registration) : Flow.Fallible Server := r.registerBy .overHttp

namespace Registry

/-- Changes a server in one step. -/
def updateFlow (id : String) (u : ServerUpdate) : Flow.Fallible Server :=
  Flow.attempt fun now registry => registry.update id u now

/-- Lets requests through to a server again. -/
def activate (id : String) : Flow.Fallible Server := updateFlow id (.activation true)

/-- Keeps requests from a server. -/
def deactivate (id : String) : Flow.Fallible Server := updateFlow id (.activation false)

/-- Removes a server in one step. -/
def removeFlow (id : String) : Flow.Fallible Server :=
  Flow.attempt fun _ registry => registry.remove id

/-- Has a server asked for its schema again and puts it in place. -/
def refreshBy (i : Introspector) (id : String) : Flow.Fallible Server :=
  Flow.andThen (Flow.readRegistry fun registry => registry.get id) fun server =>
    Flow.andThen (i.introspect server.endpoint) fun schema =>
      updateFlow id (.replaceSchema schema)

/-- **Asks a server for its schema again** and puts it in place. -/
def refresh (id : String) : Flow.Fallible Server := refreshBy .overHttp id

end Registry

end GraphGateway
