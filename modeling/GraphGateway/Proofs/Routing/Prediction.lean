import GraphGateway.Proofs.Routing.Resolution

/-!
# What a check of a query says about its routing

A check lists the active servers that **offer** the field of a query: those
that declare it as a root type or a type. The look-up of the field begins with
the same servers, but it sees the inactive ones too. So the first server of a
check is what the look-up finds, unless the field is shadowed
(`resolve_of_offers`); a shadowed field goes where the second step of the
look-up sends it, which knows nothing of root types.

`run_check_resolve` states this for the runs of both, and `run_route_of_offers`
for the requests: where the field is not shadowed, a query that can be served
is forwarded to the first server of its check.
-/

namespace GraphGateway

/-- A schema offers what it declares as a root type or a type. -/
theorem Schema.any_availableFields (s : Schema) (name : String) :
    s.availableFields.any (· == name) = s.declaresType name := by
  rw [availableFields, List.any_append, declaresType]

namespace Registry

/-- **The active servers that offer a field**, in the order of their
registration. -/
def offering (r : Registry) (field : String) : List Server :=
  r.active.filter (hasSchema (·.declaresType field))

/-- A check lists the names of these servers. -/
theorem serversOffering_eq (r : Registry) (field : String) :
    r.serversOffering field = (r.offering field).map (·.name) := by
  rw [serversOffering, offering]
  simp only [Schema.any_availableFields]

/-- The first server that offers a field is the first active one that declares
it. -/
theorem find?_active_of_offering {r : Registry} {field : String} {first : Server}
    {rest : List Server} (h : r.offering field = first :: rest) :
    r.active.find? (hasSchema (·.declaresType field)) = some first := by
  rw [← List.head?_filter, ← offering, h]
  rfl

/-- **The owner of a field that is offered** is the first server that offers it,
unless the field is shadowed. -/
theorem owner_of_offering {r : Registry} {field : String} {first : Server} {rest : List Server}
    (h : r.offering field = first :: rest) (hshadow : r.isShadowed field = false) :
    r.owner field = .ok first := by
  have hfirst : r.activeOnly.findByField field = .ok first := by
    rw [findByField_eq_ok_iff, all_activeOnly]
    exact find?_active_of_offering h
  rw [← owner_activeOnly_of_not_isShadowed hshadow,
    owner_of_not_isShadowed (isShadowed_activeOnly r field), hfirst]

/-- The owner of a field that is offered is the first server that offers it
exactly if the field is not shadowed, or if the second look-up finds the same
server. -/
theorem owner_eq_first_iff {r : Registry} {field : String} {first : Server} {rest : List Server}
    (h : r.offering field = first :: rest) :
    r.owner field = .ok first
      ↔ r.isShadowed field = false ∨ r.findActiveByField field = .ok first := by
  cases hshadow : r.isShadowed field with
  | false => simp [owner_of_offering h hshadow]
  | true => simp [owner_of_isShadowed hshadow]

end Registry

namespace Router

variable {router : Router} {query : String} {operation : Operation}

/-- A check of a query that can be read lists the servers that offer its
field. -/
theorem run_check (hextract : router.extractor.extract query = .ok operation)
    (world : Flow.World) (s : Flow.Run) :
    ((router.check query).run world s).1
      = .ok { servers := (s.registry.offering operation.field).map (·.name) } := by
  rw [check, hextract, ← Registry.serversOffering_eq]
  rfl

/-- A query can be served if some server offers its field. -/
theorem canServe_iff (servers : List Server) :
    QueryCheck.canServe { servers := servers.map (·.name) } = true
      ↔ ∃ first rest, servers = first :: rest := by
  cases servers <;> simp [QueryCheck.canServe]

/-- A request whose field is found is forwarded to the server that was found. -/
theorem run_route (hextract : router.extractor.extract query = .ok operation)
    {world : Flow.World} {s : Flow.Run} {server : Server}
    (hfound : ((resolve operation.field).run world s).1 = .ok server) {request : Request}
    (hquery : request.query = query) :
    (router.route request).run world s
      = (Backend.forward server.endpoint request).run world
        ((resolve operation.field).run world s).2 := by
  rw [route_eq, hquery, hextract]
  dsimp only
  rw [Flow.run_andThen, hfound]

/-- **What a check of a query says about its routing.** It lists the active
servers that offer the field of the query, in the order of their registration.
If there are any, then what the look-up of the field finds depends on whether
the field is shadowed.

A field that is not shadowed is found at the first server of the check, and a
request with the query is forwarded there. A shadowed field is found where the
second step of the look-up finds it, if at all. So the first server of the
check is found exactly if the field is not shadowed or if the second step finds
the same server. -/
theorem run_check_resolve (hextract : router.extractor.extract query = .ok operation)
    (world : Flow.World) (s : Flow.Run) :
    let offering := s.registry.offering operation.field
    let checked : QueryCheck := { servers := offering.map (·.name) }
    let found := (resolve operation.field).run world s
    ((router.check query).run world s).1 = .ok checked
      ∧ (checked.canServe = true → ∃ first rest, offering = first :: rest
        ∧ (s.registry.isShadowed operation.field = false →
          found.1 = .ok first ∧ ∀ request : Request, request.query = query →
            (router.route request).run world s
              = (Backend.forward first.endpoint request).run world found.2)
        ∧ (s.registry.isShadowed operation.field = true →
          found.1 = s.registry.findActiveByField operation.field)
        ∧ (found.1 = .ok first
          ↔ s.registry.isShadowed operation.field = false
            ∨ s.registry.findActiveByField operation.field = .ok first)) := by
  intro offering checked found
  have hfound : found.1 = s.registry.owner operation.field := run_resolve_fst ..
  refine ⟨run_check hextract world s, fun hserve => ?_⟩
  obtain ⟨first, rest, hoffering⟩ := (canServe_iff offering).mp hserve
  refine ⟨first, rest, hoffering, fun hshadow => ?_, fun hshadow => ?_, ?_⟩
  · have hfirst : found.1 = .ok first := by
      rw [hfound, Registry.owner_of_offering hoffering hshadow]
    exact ⟨hfirst, fun request hquery => run_route hextract hfirst hquery⟩
  · rw [hfound, Registry.owner_of_isShadowed hshadow]
  · rw [hfound, Registry.owner_eq_first_iff hoffering]

end Router

/-! ## A query for a root type -/

/-- A world in which no backend answers. -/
def silentWorld : Flow.World where
  network _ _ := .noAnswer
  clock _ := ⟨1706745600, 0⟩

/-- The field of a query is the first word in its braces. -/
theorem extract_account :
    (⟨.heuristic⟩ : Router).extractor.extract "{ Account { id } }" = .ok ⟨.query, "Account"⟩ := by
  rfl

/-- The active server offers the root type of its queries. -/
theorem offering_shadowingRegistry : shadowingRegistry.offering "Account" = [rootServer] := by
  rw [Registry.offering, active_shadowingRegistry]
  rfl

/-- Without the stopped server, the check of a query for the root type lists the
server that the look-up finds. -/
theorem run_check_resolve_account :
    let s : Flow.Run := ⟨shadowingRegistry.activeOnly, [], 0⟩
    (⟨.heuristic⟩ : Router).extractor.extract "{ Account { id } }" = .ok ⟨.query, "Account"⟩
      ∧ ((Router.check ⟨.heuristic⟩ "{ Account { id } }").run silentWorld s).1
        = .ok { servers := ["Beta"] }
      ∧ ((Router.resolve "Account").run silentWorld s).1 = .ok rootServer := by
  intro s
  have hoffering : s.registry.offering "Account" = [rootServer] := by
    rw [Registry.offering, Registry.active_activeOnly]
    exact offering_shadowingRegistry
  obtain ⟨hchecked, hserve⟩ := Router.run_check_resolve extract_account silentWorld s
  dsimp only at hchecked hserve
  rw [hoffering] at hchecked hserve
  obtain ⟨first, rest, hfirst, hvisible, -⟩ := hserve rfl
  obtain ⟨rfl, -⟩ := List.cons.inj hfirst
  exact ⟨extract_account, hchecked, (hvisible (Registry.isShadowed_activeOnly _ _)).1⟩

/-- **A check does not predict the routing**: it lists the server whose root type
the query asks for, and the look-up finds no server. -/
theorem not_run_check_resolve :
    ¬ ∀ (history : List (Time.Instant × Registry.Change)) (world : Flow.World) (router : Router)
      (query : String) (operation : Operation) (checked : QueryCheck) (calls : List Call)
      (ticks : Nat), Registry.IsHistory history →
      router.extractor.extract query = .ok operation →
      ((router.check query).run world ⟨Registry.after history, calls, ticks⟩).1 = .ok checked →
      checked.canServe = true →
      ∃ server, ((Router.resolve operation.field).run world
          ⟨Registry.after history, calls, ticks⟩).1 = .ok server
        ∧ checked.servers.head? = some server.name := by
  intro h
  have hchecked : ((Router.check ⟨.heuristic⟩ "{ Account { id } }").run silentWorld
      ⟨Registry.after shadowingHistory, [], 0⟩).1 = .ok { servers := ["Beta"] } := by
    rw [Router.run_check extract_account, after_shadowingHistory, offering_shadowingRegistry]
    rfl
  obtain ⟨server, hserver, -⟩ := h shadowingHistory silentWorld ⟨.heuristic⟩ "{ Account { id } }"
    ⟨.query, "Account"⟩ { servers := ["Beta"] } [] 0 isHistory_shadowingHistory extract_account
    hchecked rfl
  rw [after_shadowingHistory, Router.run_resolve_fst] at hserver
  dsimp only at hserver
  rw [owner_shadowingRegistry] at hserver
  cases hserver

end GraphGateway
