import GraphGateway.Proofs.Registry.Consistency
import GraphGateway.Proofs.Routing.Prediction
import GraphGateway.Proofs.Routing.Steps

/-!
# Routing is sound in any interleaving

The look-up of a field looks at the registry twice, and in between other clients
may do what they like: stop or remove the server that was seen first, give it
another schema, or put another registry in place. Whatever they do, a request is
sent only to a server that the look just before the sending found, and found
active with the field declared; it is sent once at most, and not at all if the
query has no field or the field has no server. What is looked up is justified by
a registry that one of the looks has seen, not by one that ever was there as a
whole.

`Router.RoutesSoundly` says this of the steps of one request, and
`Router.routesSoundly_among` of every run of the three ways in: one request, one
request whose failure becomes a response, and several requests in turn.
-/

namespace GraphGateway

open GraphGateway.Flow (Event Among)

/-! ## What the looks find -/

namespace Registry

variable {r : Registry} {name : String} {server : Server}

/-- What the first look finds is in the registry and declares the name. -/
theorem mem_of_findByField (h : r.findByField name = .ok server) :
    server ∈ r.all ∧ server.Declares name := by
  rw [findByField_eq_ok_iff] at h
  have hdeclares := (hasSchema_declaresType_iff server name).mp (List.find?_some h)
  exact ⟨List.mem_of_find?_eq_some h, hdeclares.declares⟩

/-- What the second look finds is active and has the name as a type or a
field. -/
theorem mem_of_findActiveByField (h : r.findActiveByField name = .ok server) :
    server ∈ r.active ∧ server.DeclaresTypeOrField name := by
  rw [findActiveByField_eq_ok_iff] at h
  exact ⟨List.mem_of_find?_eq_some h,
    (hasSchema_declaresTypeOrField_iff server name).mp (List.find?_some h)⟩

/-- **The second look finds nothing** exactly where no active server has a type or
a field of the name. -/
theorem findActiveByField_eq_error_iff {e : GatewayError} :
    r.findActiveByField name = .error e
      ↔ e = .noServerFound name ∧ ∀ server ∈ r.active, ¬ server.DeclaresTypeOrField name := by
  have hnone : r.active.find? (hasSchema (·.declaresTypeOrField name)) = none
      ↔ ∀ server ∈ r.active, ¬ server.DeclaresTypeOrField name := by
    rw [List.find?_eq_none]
    simp only [hasSchema_declaresTypeOrField_iff]
  rw [← hnone]
  unfold findActiveByField
  cases r.active.find? (hasSchema (·.declaresTypeOrField name)) <;> simp [eq_comm]

end Registry

/-! ## What the errors say -/

/-- That no server was found is not said of a query without a field. -/
theorem ExtractorKind.extract_ne_noServerFound (kind : ExtractorKind) (query name : String) :
    kind.extract query ≠ .error (.noServerFound name) := by
  cases kind with
  | heuristic =>
    unfold extract
    cases Heuristic.extract query <;> simp
  | document =>
    show (FirstField.extract query).mapError FirstField.Failure.error ≠ _
    cases FirstField.extract query with
    | ok operation => simp [Except.mapError]
    | error failure =>
      rcases failure with (report | _) | _ | _ <;>
        simp [Except.mapError, FirstField.Failure.error]

/-- That no server was found is not said of what a backend answers. -/
theorem Backend.responseIn_ne_noServerFound (endpoint : String) (url : Url) (delivery : Delivery)
    (name : String) : responseIn endpoint url delivery ≠ .error (.noServerFound name) := by
  unfold responseIn
  cases hanswer : Answer.ofDelivery endpoint url delivery with
  | error e =>
    cases delivery with
    | noAnswer =>
      obtain rfl := Except.error.inj hanswer
      simp [Except.bind]
    | answer status body complete =>
      cases complete <;> cases hanswer
      simp [Except.bind]
  | ok a =>
    show readResponse endpoint a ≠ _
    unfold readResponse
    split
    · simp [Answer.refused]
    · split <;> simp [Answer.unexpected]

namespace Router

variable {router : Router} {request : Request} {events : List Event}

/-! ## One request -/

/-- **A server is found by the last of the looks**, in what that look saw. -/
theorem Resolved.found {field : String} {looks : List Event} {result : Except GatewayError Server}
    {server : Server} (h : Resolved field looks result) (hresult : result = .ok server) :
    ∃ earlier now seen, looks = earlier ++ [.look now seen] ∧ server ∈ seen.all
      ∧ server.isActive = true ∧ server.Declares field := by
  cases h with
  | @declared now seen found hfound hactive =>
    obtain rfl := Except.ok.inj hresult
    obtain ⟨hmem, hdeclares⟩ := Registry.mem_of_findByField hfound
    exact ⟨[], now, seen, rfl, hmem, hactive, hdeclares⟩
  | @searched now now' seen seen' hmissed =>
    obtain ⟨hmem, hdeclares⟩ := Registry.mem_of_findActiveByField hresult
    obtain ⟨hmem, hactive⟩ := List.mem_filter.mp hmem
    exact ⟨[.look now seen], now', seen', rfl, hmem, hactive, hdeclares.declares⟩

/-- **No server is found only after two looks**, the second of which saw no active
server that has the field as a type or a field. -/
theorem Resolved.missed {field : String} {looks : List Event} {result : Except GatewayError Server}
    {e : GatewayError} (h : Resolved field looks result) (hresult : result = .error e) :
    e = .noServerFound field ∧ ∃ now seen now' seen',
      looks = [.look now seen, .look now' seen']
        ∧ ∀ server ∈ seen'.active, ¬ server.DeclaresTypeOrField field := by
  cases h with
  | declared => cases hresult
  | @searched now now' seen seen' hmissed =>
    obtain ⟨he, hnone⟩ := Registry.findActiveByField_eq_error_iff.mp hresult
    exact ⟨he, now, seen, now', seen', rfl, hnone⟩

/-- **A server is not found if the second look saw no active one** that has the
field as a type or a field. -/
theorem Resolved.not_found {field : String} {looks more rest : List Event}
    {result : Except GatewayError Server} {server : Server} {now now' : Time.Instant}
    {seen seen' : Registry} (h : Resolved field looks result) (hresult : result = .ok server)
    (hlooks : looks ++ more = .look now seen :: .look now' seen' :: rest)
    (hmore : .look now' seen' ∉ more)
    (hnone : ∀ server ∈ seen'.active, ¬ server.DeclaresTypeOrField field) : False := by
  cases h with
  | declared =>
    -- the second look would have to be one of the later steps
    obtain ⟨-, rfl⟩ := List.cons.inj hlooks
    exact hmore (List.mem_cons_self ..)
  | searched =>
    cases hlooks
    obtain ⟨hmem, hdeclares⟩ := Registry.mem_of_findActiveByField hresult
    exact hnone server hmem hdeclares

/-- No look of a look-up is an exchange. -/
theorem Resolved.exchange_notMem {field : String} {looks : List Event}
    {result : Except GatewayError Server} (h : Resolved field looks result) {call : Call}
    {delivery : Delivery} : .exchange call delivery ∉ looks := fun hmem =>
  Option.some_ne_none _ (List.filterMap_eq_nil_iff.mp h.exchanges_eq_nil _ hmem)

/-- **Whether a request was routed soundly** in some steps with a result. -/
structure RoutesSoundly (router : Router) (request : Request) (events : List Event)
    (result : Except GatewayError Response) : Prop where
  /-- It went one of the ways that there are: a field that the query has is looked up,
  and the request is sent if the field has a server with an address. -/
  routed : Routed router request events result
  /-- One request is sent at most. -/
  once : (Flow.exchanges events).length ≤ 1
  /-- It is sent to a server that the look before found under its id, active and
  with the field of the query declared. -/
  sound : ∀ before call delivery behind, events = before ++ .exchange call delivery :: behind →
    ∃ operation earlier now seen server,
      router.extractor.extract request.query = .ok operation
        ∧ before = earlier ++ [.look now seen]
        ∧ seen.get server.id = .ok server ∧ server.isActive = true
        ∧ server.Declares operation.field
        ∧ Url.ofEndpoint server.endpoint = .ok call.url
  /-- A query without a field is not sent, and nothing is looked up. -/
  unread : ∀ e, router.extractor.extract request.query = .error e →
    events = [] ∧ result = .error e
  /-- A query is not sent if the second look saw no active server that has its
  field as a type or a field. -/
  unresolved : ∀ operation now seen now' seen' rest,
    router.extractor.extract request.query = .ok operation →
    events = .look now seen :: .look now' seen' :: rest →
    (∀ server ∈ seen'.active, ¬ server.DeclaresTypeOrField operation.field) →
    rest = [] ∧ result = .error (.noServerFound operation.field)
  /-- That no server was found is said only then. -/
  notFound : ∀ name, result = .error (.noServerFound name) →
    ∃ operation now seen now' seen',
      router.extractor.extract request.query = .ok operation ∧ operation.field = name
        ∧ events = [.look now seen, .look now' seen']
        ∧ ∀ server ∈ seen'.active, ¬ server.DeclaresTypeOrField name

/-- What is exchanged behind a look-up is exchanged there and nowhere else. -/
theorem append_exchange_unique {field : String} {looks before behind : List Event}
    {found : Except GatewayError Server} {call call' : Call} {delivery delivery' : Delivery}
    (hlooks : Resolved field looks found)
    (h : looks ++ [.exchange call delivery] = before ++ .exchange call' delivery' :: behind) :
    before = looks ∧ call' = call := by
  rcases List.append_eq_append_iff.mp h with ⟨middle, rfl, hlast⟩ | ⟨middle, rfl, hlast⟩
  · rcases List.cons_eq_append_iff.mp hlast with ⟨rfl, hlast⟩ | ⟨more, -, hmore⟩
    · cases hlast
      exact ⟨List.append_nil _, rfl⟩
    · exact absurd hmore (by simp)
  · -- a step between the two would be an exchange among the looks
    rcases List.cons_eq_append_iff.mp hlast with ⟨rfl, hlast⟩ | ⟨more, rfl, -⟩
    · cases hlast
      exact ⟨(List.append_nil _).symm, rfl⟩
    · exact absurd (List.mem_append_right _ (List.mem_cons_self ..)) hlooks.exchange_notMem

namespace Routed

variable {result : Except GatewayError Response}

/-- One request is sent at most. -/
theorem once (h : Routed router request events result) : (Flow.exchanges events).length ≤ 1 := by
  rcases h.exchanges_eq with ⟨hnone, -⟩ | ⟨endpoint, url, delivery, hone, -⟩
  · rw [hnone]
    exact Nat.zero_le _
  · rw [hone]
    exact Nat.le_refl 1

/-- **What is sent is sent to a server that the look before found.** -/
theorem sound (h : Routed router request events result)
    (hmaps : ∀ event ∈ events, event.Sees Registry.IsMap) {before behind : List Event} {call : Call}
    {delivery : Delivery} (hsplit : events = before ++ .exchange call delivery :: behind) :
    ∃ operation earlier now seen server,
      router.extractor.extract request.query = .ok operation
        ∧ before = earlier ++ [.look now seen]
        ∧ seen.get server.id = .ok server ∧ server.isActive = true
        ∧ server.Declares operation.field
        ∧ Url.ofEndpoint server.endpoint = .ok call.url := by
  have hsent : Event.exchange call delivery ∈ events :=
    hsplit ▸ List.mem_append_right _ (List.mem_cons_self ..)
  cases h with
  | unread => exact absurd hsent List.not_mem_nil
  | unresolved hquery hfield => exact absurd hsent hfield.exchange_notMem
  | unsent hquery hfield => exact absurd hsent hfield.exchange_notMem
  | @sent operation looks server url delivery hquery hfield haddress =>
    obtain ⟨rfl, rfl⟩ := append_exchange_unique hfield hsplit
    obtain ⟨earlier, now, seen, rfl, hmem, hactive, hdeclares⟩ := hfield.found rfl
    have hmap : seen.IsMap := hmaps (.look now seen) (by simp)
    exact ⟨operation, earlier, now, seen, server, hquery, rfl, (hmap.mem_all_iff server).mp hmem,
      hactive, hdeclares, haddress⟩

/-- A query without a field is not sent, and nothing is looked up. -/
theorem of_unread (h : Routed router request events result) {e : GatewayError}
    (he : router.extractor.extract request.query = .error e) : events = [] ∧ result = .error e := by
  cases h with
  | unread hquery =>
    rw [hquery] at he
    exact ⟨rfl, congrArg _ (Except.error.inj he)⟩
  | unresolved hquery => rw [hquery] at he; cases he
  | unsent hquery => rw [hquery] at he; cases he
  | sent _ hquery => rw [hquery] at he; cases he

/-- **A query is not sent if the second look found nothing.** -/
theorem of_missed (h : Routed router request events result) {operation : Operation}
    {now now' : Time.Instant} {seen seen' : Registry} {rest : List Event}
    (hoperation : router.extractor.extract request.query = .ok operation)
    (hlooks : events = .look now seen :: .look now' seen' :: rest)
    (hnone : ∀ server ∈ seen'.active, ¬ server.DeclaresTypeOrField operation.field) :
    rest = [] ∧ result = .error (.noServerFound operation.field) := by
  cases h with
  | unread hquery => cases hlooks
  | unresolved hquery hfield =>
    obtain rfl := Except.ok.inj (hquery.symm.trans hoperation)
    obtain ⟨rfl, now₁, seen₁, now₂, seen₂, rfl, -⟩ := hfield.missed rfl
    cases hlooks
    exact ⟨rfl, rfl⟩
  | unsent hquery hfield =>
    obtain rfl := Except.ok.inj (hquery.symm.trans hoperation)
    rw [← List.append_nil events] at hlooks
    exact (hfield.not_found rfl hlooks List.not_mem_nil hnone).elim
  | sent delivery hquery hfield =>
    obtain rfl := Except.ok.inj (hquery.symm.trans hoperation)
    refine (hfield.not_found rfl hlooks (fun hmem => ?_) hnone).elim
    cases List.mem_singleton.mp hmem

/-- **That no server was found is said only if the second look found nothing.** -/
theorem missed_of_noServerFound (h : Routed router request events result) {name : String}
    (hname : result = .error (.noServerFound name)) :
    ∃ operation now seen now' seen',
      router.extractor.extract request.query = .ok operation ∧ operation.field = name
        ∧ events = [.look now seen, .look now' seen']
        ∧ ∀ server ∈ seen'.active, ¬ server.DeclaresTypeOrField name := by
  cases h with
  | unread hquery =>
    obtain rfl := Except.error.inj hname
    exact absurd hquery (router.extractor.extract_ne_noServerFound _ name)
  | @unresolved operation looks e hquery hfield =>
    obtain ⟨rfl, now, seen, now', seen', rfl, hnone⟩ := hfield.missed rfl
    obtain rfl : operation.field = name := by simpa using hname
    exact ⟨operation, now, seen, now', seen', hquery, rfl, rfl, hnone⟩
  | unsent => cases hname
  | sent => exact (Backend.responseIn_ne_noServerFound _ _ _ name hname).elim

/-- **A request is routed soundly** where its looks have seen maps. -/
theorem routesSoundly (h : Routed router request events result)
    (hmaps : ∀ event ∈ events, event.Sees Registry.IsMap) :
    RoutesSoundly router request events result where
  routed := h
  once := h.once
  sound _ _ _ _ hsplit := h.sound hmaps hsplit
  unread _ he := h.of_unread he
  unresolved _ _ _ _ _ _ hoperation hlooks hnone := h.of_missed hoperation hlooks hnone
  notFound _ hname := h.missed_of_noServerFound hname

end Routed

/-! ## All runs -/

/-- What a flow that only looks sees, from a history on and among any clients, is
a map. -/
theorem sees_isMap {α : Type} {flow : Flow α} (hflow : Flow.LooksOnly flow)
    {history : List (Time.Instant × Registry.Change)} {result : α} {left : Registry}
    (h : Among Registry.Becomes flow (Registry.after history) events result left) :
    ∀ event ∈ events, event.Sees Registry.IsMap :=
  h.sees (fun _ _ hbecomes hmap => hmap.becomes hbecomes)
    (fun event hevent => (hflow _ _ _ _ _ h event hevent).keeps _) (Registry.isMap_after history)

/-- **Routing is sound in any interleaving.** Let a registry be what a history left,
and let other clients change it in any way between any two steps: then a request
is routed soundly, also where its failure becomes a response, and several
requests are routed soundly in turn. -/
theorem routesSoundly_among (history : List (Time.Instant × Registry.Change)) (router : Router) :
    (∀ request events result left,
        Among Registry.Becomes (router.route request) (Registry.after history) events result left →
        RoutesSoundly router request events result)
      ∧ (∀ request events response left,
        Among Registry.Becomes (router.respond request) (Registry.after history) events response
          left →
        ∃ result, response = responseOf result ∧ RoutesSoundly router request events result)
      ∧ ∀ requests events result left,
        Among Registry.Becomes (router.routeAll requests) (Registry.after history) events result
          left →
        InTurn (RoutesSoundly router) requests events result := by
  have hroute : ∀ request events result left,
      Among Registry.Becomes (router.route request) (Registry.after history) events result left →
      RoutesSoundly router request events result := fun request events result left h =>
    (routed_of_among h).routesSoundly (sees_isMap (looksOnly_route router request) h)
  refine ⟨hroute, fun request events response left h => ?_, fun requests events result left h => ?_⟩
  · obtain ⟨result, hresult, rfl⟩ := Flow.among_bind_done.mp h
    exact ⟨result, rfl, hroute request events result left hresult⟩
  · exact (inTurn_of_among h).imp (sees_isMap (looksOnly_routeAll router requests) h)
      fun _ _ _ hmaps hrouted => hrouted.routesSoundly hmaps

end Router

/-! ## A server that is started between the two looks -/

/-- A request for accounts. -/
def accountRequest : Request := .ofQuery "{ Account { id } }"

/-- The address of the server of accounts. -/
def alphaUrl : Url :=
  { scheme := "http".toList, host := some "alpha".toList, tail := "/graphql".toList }

/-- Requests can be sent to this address. -/
theorem ofEndpoint_alpha : Url.ofEndpoint "http://alpha/graphql" = .ok alphaUrl := by
  decide +kernel

/-- The registry in which somebody has started the server of accounts. -/
def startedRegistry : Registry :=
  shadowingRegistry.leave (⟨1706745660, 0⟩, .activate "alpha")

/-- The server of accounts as it was started. -/
def startedServer : Server :=
  { stoppedServer with updatedAt := ⟨1706745660, 0⟩, isActive := true }

/-- Both servers are active, and the one of accounts is listed first. -/
theorem active_startedRegistry : startedRegistry.active = [startedServer, rootServer] := by
  have hall : startedRegistry.all = [startedServer, rootServer] :=
    List.mergeSort_of_pairwise (by decide)
  rw [Registry.active, hall]
  rfl

/-- The steps in which the request is routed: the first look finds the server
stopped, the second one finds it started, and something or nothing comes back. -/
def accountSteps (delivery : Delivery) : List Event :=
  [.look ⟨1706745600, 0⟩ shadowingRegistry, .look ⟨1706745670, 0⟩ startedRegistry,
    .exchange { url := alphaUrl, body := Json.compact accountRequest.toJson } delivery]

/-- The failure of the request where nobody answers. -/
def accountFailure : GatewayError := .unreachable "http://alpha/graphql" (.noAnswer alphaUrl.text)

/-- These steps can be taken. -/
theorem among_account (delivery : Delivery) :
    Among Registry.Becomes ((⟨.heuristic⟩ : Router).route accountRequest) shadowingRegistry
      (accountSteps delivery) (Backend.responseIn "http://alpha/graphql" alphaUrl delivery)
      startedRegistry := by
  have hfirst : shadowingRegistry.findByField "Account" = .ok stoppedServer := by
    rw [Registry.findByField, all_shadowingRegistry]
    rfl
  have hsecond : startedRegistry.findActiveByField "Account" = .ok startedServer := by
    rw [Registry.findActiveByField, active_startedRegistry]
    rfl
  have hresolve : Among Registry.Becomes (Router.resolve "Account") shadowingRegistry
      [.look ⟨1706745600, 0⟩ shadowingRegistry, .look ⟨1706745670, 0⟩ startedRegistry]
      (.ok startedServer) startedRegistry := by
    refine Flow.among_bind.mpr ⟨[_], .ok stoppedServer, shadowingRegistry, [_], rfl, ?_, ?_⟩
    · exact Flow.among_readRegistry.mpr ⟨_, ⟨[], rfl⟩, rfl, hfirst.symm⟩
    · exact Flow.among_readRegistry.mpr
        ⟨_, ⟨[(⟨1706745660, 0⟩, .activate "alpha")], rfl⟩, rfl, hsecond.symm⟩
  rw [Router.route_eq, accountRequest, Request.ofQuery, extract_account]
  refine Flow.among_andThen.mpr (.inr ⟨_, startedServer, startedRegistry, [_], rfl, hresolve, ?_⟩)
  exact Backend.among_forward.mpr
    ⟨rfl, .inr ⟨alphaUrl, delivery, ofEndpoint_alpha, rfl, rfl⟩⟩

/-- The request is routed soundly where nobody answers, as a single one, as one whose
failure becomes a response, and as the only one of several. -/
theorem routesSoundly_among_account :
    Among Registry.Becomes ((⟨.heuristic⟩ : Router).route accountRequest) shadowingRegistry
        (accountSteps .noAnswer) (.error accountFailure) startedRegistry
      ∧ Router.RoutesSoundly ⟨.heuristic⟩ accountRequest (accountSteps .noAnswer)
        (.error accountFailure)
      ∧ (∃ result, Response.ofError accountFailure.message = Router.responseOf result
        ∧ Router.RoutesSoundly ⟨.heuristic⟩ accountRequest (accountSteps .noAnswer) result)
      ∧ Router.InTurn (Router.RoutesSoundly ⟨.heuristic⟩) [accountRequest] (accountSteps .noAnswer)
        (.error accountFailure) := by
  obtain ⟨hone, hresponse, hseveral⟩ := Router.routesSoundly_among shadowingHistory ⟨.heuristic⟩
  rw [after_shadowingHistory] at hone hresponse hseveral
  have haccount : Among Registry.Becomes ((⟨.heuristic⟩ : Router).route accountRequest)
      shadowingRegistry (accountSteps .noAnswer) (.error accountFailure) startedRegistry :=
    among_account .noAnswer
  refine ⟨haccount, hone _ _ _ _ haccount, hresponse _ _ _ startedRegistry ?_,
    hseveral _ _ _ startedRegistry ?_⟩
  · exact Flow.among_bind_done.mpr ⟨_, haccount, rfl⟩
  · exact Flow.among_andThen.mpr (.inl ⟨accountFailure, rfl, haccount⟩)

end GraphGateway
