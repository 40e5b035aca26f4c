import GraphGateway.Proofs.Flow.Failure
import GraphGateway.Router

/-!
# The steps in which a request is routed

A request is routed in a few steps, and between any two of them other clients
may change the registry. The steps that a run has taken tell what it came to:
`Router.Resolved` for the look-up of a field, `Router.Routed` for a request and
`Router.InTurn` for requests one after another. The constructors are the ways
that these can go, each with what the looks saw and what the backend answered,
and `resolved_of_among`, `routed_of_among` and `inTurn_of_among` say that there
are no other ways.
-/

namespace GraphGateway

open GraphGateway.Flow (Event Among)

variable {others : Registry → Registry → Prop} {r left : Registry} {events : List Event}

/-! ## An exchange with a backend -/

/-- **The ways that an exchange can go**: the address cannot be used, and nothing
is sent, or one request is sent and one delivery comes back. -/
theorem Backend.among_exchange {endpoint : String} {value : Json}
    {result : Except GatewayError Answer} :
    Among others (exchange endpoint value) r events result left
      ↔ left = r
        ∧ ((∃ failure, Url.ofEndpoint endpoint = .error failure ∧ events = []
            ∧ result = .error (.unreachable endpoint failure))
          ∨ ∃ url delivery, Url.ofEndpoint endpoint = .ok url
            ∧ events = [.exchange { url, body := Json.compact value } delivery]
            ∧ result = Answer.ofDelivery endpoint url delivery) := by
  unfold exchange
  cases hurl : Url.ofEndpoint endpoint with
  | error failure =>
    refine Flow.among_done.trans ⟨?_, ?_⟩
    · rintro ⟨rfl, rfl, rfl⟩
      exact ⟨rfl, .inl ⟨failure, rfl, rfl, rfl⟩⟩
    · rintro ⟨rfl, ⟨failure', hfailure, rfl, rfl⟩ | ⟨url, delivery, hurl, -⟩⟩
      · obtain rfl := Except.error.inj hfailure
        exact ⟨rfl, rfl, rfl⟩
      · cases hurl
  | ok url =>
    constructor
    · intro h
      cases h with
      | exchange delivery hrest =>
        obtain ⟨rfl, rfl, rfl⟩ := Flow.among_done.mp hrest
        exact ⟨rfl, .inr ⟨url, delivery, rfl, rfl, rfl⟩⟩
    · rintro ⟨rfl, ⟨failure, hurl, -⟩ | ⟨url', delivery, hurl', rfl, rfl⟩⟩
      · cases hurl
      · obtain rfl := Except.ok.inj hurl'
        exact .exchange delivery (.done ..)

/-- An exchange stays away from the registry. -/
theorem Backend.looksOnly_exchange (endpoint : String) (value : Json) :
    Flow.LooksOnly (exchange endpoint value) := by
  intro others r events result left h
  obtain ⟨-, ⟨failure, -, rfl, -⟩ | ⟨url, delivery, -, rfl, -⟩⟩ := among_exchange.mp h
  · exact fun event hevent => absurd hevent List.not_mem_nil
  · exact List.forall_mem_singleton.mpr trivial

/-- **The ways that an exchange can go whose answer is worked on**, in whatever way. -/
theorem Backend.among_exchange_andThen {α : Type} {endpoint : String} {value : Json}
    {f : Answer → Except GatewayError α} {result : Except GatewayError α} :
    Among others (Flow.andThen (exchange endpoint value) fun a => .done (f a)) r events result left
      ↔ left = r
        ∧ ((∃ failure, Url.ofEndpoint endpoint = .error failure ∧ events = []
            ∧ result = .error (.unreachable endpoint failure))
          ∨ ∃ url delivery, Url.ofEndpoint endpoint = .ok url
            ∧ events = [.exchange { url, body := Json.compact value } delivery]
            ∧ result = (Answer.ofDelivery endpoint url delivery).bind f) := by
  rw [Flow.among_andThen_done]
  constructor
  · rintro ⟨answer, hsent, rfl⟩
    obtain ⟨rfl, ⟨failure, hurl, rfl, rfl⟩ | ⟨url, delivery, hurl, rfl, rfl⟩⟩ :=
      among_exchange.mp hsent
    · exact ⟨rfl, .inl ⟨failure, hurl, rfl, rfl⟩⟩
    · exact ⟨rfl, .inr ⟨url, delivery, hurl, rfl, rfl⟩⟩
  · rintro ⟨rfl, ⟨failure, hurl, rfl, rfl⟩ | ⟨url, delivery, hurl, rfl, rfl⟩⟩
    · exact ⟨_, among_exchange.mpr ⟨rfl, .inl ⟨failure, hurl, rfl, rfl⟩⟩, rfl⟩
    · exact ⟨_, among_exchange.mpr ⟨rfl, .inr ⟨url, delivery, hurl, rfl, rfl⟩⟩, rfl⟩

/-- What is made of the delivery that comes back. -/
theorem Backend.among_exchange_andThen_single {α : Type} {endpoint : String} {value : Json}
    {f : Answer → Except GatewayError α} {call : Call} {delivery : Delivery}
    {result : Except GatewayError α} :
    Among others (Flow.andThen (exchange endpoint value) fun a => .done (f a)) r
        [.exchange call delivery] result left
      ↔ left = r ∧ ∃ url, Url.ofEndpoint endpoint = .ok url
        ∧ call = { url, body := Json.compact value }
        ∧ result = (Answer.ofDelivery endpoint url delivery).bind f := by
  rw [among_exchange_andThen]
  constructor
  · rintro ⟨rfl, ⟨failure, -, hnone, -⟩ | ⟨url, found, hurl, hevents, rfl⟩⟩
    · cases hnone
    · obtain ⟨rfl, rfl⟩ := Event.exchange.inj (List.singleton_inj.mp hevents)
      exact ⟨rfl, url, hurl, rfl, rfl⟩
  · rintro ⟨rfl, url, hurl, rfl, rfl⟩
    exact ⟨rfl, .inr ⟨url, delivery, hurl, rfl, rfl⟩⟩

/-- The response that a delivery brings. -/
def Backend.responseIn (endpoint : String) (url : Url) (delivery : Delivery) :
    Except GatewayError Response :=
  (Answer.ofDelivery endpoint url delivery).bind (readResponse endpoint)

/-- **The ways that a request can be forwarded.** -/
theorem Backend.among_forward {endpoint : String} {request : Request}
    {result : Except GatewayError Response} :
    Among others (forward endpoint request) r events result left
      ↔ left = r
        ∧ ((∃ failure, Url.ofEndpoint endpoint = .error failure ∧ events = []
            ∧ result = .error (.unreachable endpoint failure))
          ∨ ∃ url delivery, Url.ofEndpoint endpoint = .ok url
            ∧ events = [.exchange { url, body := Json.compact request.toJson } delivery]
            ∧ result = responseIn endpoint url delivery) := by
  unfold forward responseIn
  exact among_exchange_andThen

namespace Router

/-! ## The look-up of a field -/

/-- **The ways that a field can be looked up**, with what the looks saw. -/
inductive Resolved (field : String) : List Event → Except GatewayError Server → Prop where
  /-- The first look found an active server that declares the field. -/
  | declared {now : Time.Instant} {seen : Registry} {server : Server}
    (hfound : seen.findByField field = .ok server) (hactive : server.isActive = true) :
    Resolved field [.look now seen] (.ok server)
  /-- The first look found none or an inactive one, and a second one searched
  the servers that were active then. -/
  | searched {now now' : Time.Instant} {seen seen' : Registry}
    (hmissed : ∀ server, seen.findByField field = .ok server → server.isActive = false) :
    Resolved field [.look now seen, .look now' seen'] (seen'.findActiveByField field)

/-- **A field is looked up in one of these ways.** -/
theorem resolved_of_among {field : String} {result : Except GatewayError Server}
    (h : Among others (resolve field) r events result left) : Resolved field events result := by
  obtain ⟨first, found, between, rest, rfl, hfirst, hrest⟩ := Flow.among_bind.mp h
  obtain ⟨now, -, rfl, rfl⟩ := Flow.among_readRegistry.mp hfirst
  cases hfound : between.findByField field with
  | error e =>
    rw [hfound] at hrest
    obtain ⟨now', -, rfl, rfl⟩ := Flow.among_readRegistry.mp hrest
    exact .searched fun server hserver => by rw [hfound] at hserver; cases hserver
  | ok server =>
    rw [hfound] at hrest
    dsimp only at hrest
    cases hactive : server.isActive with
    | true =>
      rw [hactive] at hrest
      obtain ⟨rfl, rfl, -⟩ := Flow.among_done.mp hrest
      exact .declared hfound hactive
    | false =>
      rw [hactive] at hrest
      obtain ⟨now', -, rfl, rfl⟩ := Flow.among_readRegistry.mp hrest
      refine .searched fun other hother => ?_
      rw [hfound] at hother
      rw [← Except.ok.inj hother]
      exact hactive

/-- The looks of a look-up exchange nothing with backends. -/
theorem Resolved.exchanges_eq_nil {field : String} {looks : List Event}
    {result : Except GatewayError Server} (h : Resolved field looks result) :
    Flow.exchanges looks = [] := by
  cases h <;> rfl

/-- A look-up only looks. -/
theorem looksOnly_resolve (field : String) : Flow.LooksOnly (resolve field) := by
  intro others r events result left h
  cases resolved_of_among h with
  | declared => exact List.forall_mem_singleton.mpr rfl
  | searched =>
    exact List.forall_mem_cons.mpr ⟨rfl, List.forall_mem_singleton.mpr rfl⟩

/-! ## A request -/

/-- **The ways that a request can be routed.** -/
inductive Routed (router : Router) (request : Request) :
    List Event → Except GatewayError Response → Prop where
  /-- The query has no field. -/
  | unread {e : GatewayError} (hquery : router.extractor.extract request.query = .error e) :
    Routed router request [] (.error e)
  /-- The field has no server. -/
  | unresolved {operation : Operation} {looks : List Event} {e : GatewayError}
    (hquery : router.extractor.extract request.query = .ok operation)
    (hfield : Resolved operation.field looks (.error e)) : Routed router request looks (.error e)
  /-- The server has an address that nothing can be sent to. -/
  | unsent {operation : Operation} {looks : List Event} {server : Server}
    {failure : TransportFailure}
    (hquery : router.extractor.extract request.query = .ok operation)
    (hfield : Resolved operation.field looks (.ok server))
    (haddress : Url.ofEndpoint server.endpoint = .error failure) :
    Routed router request looks (.error (.unreachable server.endpoint failure))
  /-- The request was sent to the server, and something or nothing came back. -/
  | sent {operation : Operation} {looks : List Event} {server : Server} {url : Url}
    (delivery : Delivery) (hquery : router.extractor.extract request.query = .ok operation)
    (hfield : Resolved operation.field looks (.ok server))
    (haddress : Url.ofEndpoint server.endpoint = .ok url) :
    Routed router request
      (looks ++ [.exchange { url, body := Json.compact request.toJson } delivery])
      (Backend.responseIn server.endpoint url delivery)

variable {router : Router} {request : Request}

/-- **A request is routed in one of these ways.** -/
theorem routed_of_among {result : Except GatewayError Response}
    (h : Among others (router.route request) r events result left) :
    Routed router request events result := by
  rw [route_eq] at h
  cases hquery : router.extractor.extract request.query with
  | error e =>
    rw [hquery] at h
    obtain ⟨rfl, rfl, -⟩ := Flow.among_done.mp h
    exact .unread hquery
  | ok operation =>
    rw [hquery] at h
    rcases Flow.among_andThen.mp h with
      ⟨e, rfl, hfirst⟩ | ⟨looks, server, between, rest, rfl, hfirst, hrest⟩
    · exact .unresolved hquery (resolved_of_among hfirst)
    · have hfield := resolved_of_among hfirst
      obtain ⟨-, ⟨failure, haddress, rfl, rfl⟩ | ⟨url, delivery, haddress, rfl, rfl⟩⟩ :=
        Backend.among_forward.mp hrest
      · rw [List.append_nil]
        exact .unsent hquery hfield haddress
      · exact .sent delivery hquery hfield haddress

/-- **What is exchanged for a request**: nothing, and then it fails, or the request
for one delivery, which then decides what comes of it. -/
theorem Routed.exchanges_eq {events : List Event} {result : Except GatewayError Response}
    (h : Routed router request events result) :
    (Flow.exchanges events = [] ∧ ∃ e, result = .error e)
      ∨ ∃ endpoint url delivery,
        Flow.exchanges events = [({ url, body := Json.compact request.toJson }, delivery)]
          ∧ result = Backend.responseIn endpoint url delivery := by
  cases h with
  | unread => exact .inl ⟨rfl, _, rfl⟩
  | unresolved _ hfield => exact .inl ⟨hfield.exchanges_eq_nil, _, rfl⟩
  | unsent _ hfield => exact .inl ⟨hfield.exchanges_eq_nil, _, rfl⟩
  | @sent operation looks server url delivery _ hfield haddress =>
    refine .inr ⟨server.endpoint, url, delivery, ?_, rfl⟩
    rw [Flow.exchanges_append, hfield.exchanges_eq_nil]
    rfl

/-- The routing of a request only looks at the registry. -/
theorem looksOnly_route (router : Router) (request : Request) :
    Flow.LooksOnly (router.route request) := by
  rw [route_eq]
  cases router.extractor.extract request.query with
  | error e => exact Flow.looksOnly_done _
  | ok operation =>
    refine (looksOnly_resolve operation.field).andThen fun server => ?_
    exact (Backend.looksOnly_exchange _ _).andThen fun _ => Flow.looksOnly_done _

/-! ## Requests one after another -/

/-- **The ways that requests can be routed in turn**, where `P` says how each of
them can be. -/
inductive InTurn (P : Request → List Event → Except GatewayError Response → Prop) :
    List Request → List Event → Except GatewayError (List Response) → Prop where
  /-- None was left. -/
  | nil : InTurn P [] [] (.ok [])
  /-- One failed, and those behind it were not routed. -/
  | failed {request : Request} {rest : List Request} {events : List Event} {e : GatewayError}
    (h : P request events (.error e)) : InTurn P (request :: rest) events (.error e)
  /-- One was answered, and those behind it were routed in turn. -/
  | answered {request : Request} {rest : List Request} {first later : List Event}
    {response : Response} {result : Except GatewayError (List Response)}
    (h : P request first (.ok response)) (hrest : InTurn P rest later result) :
    InTurn P (request :: rest) (first ++ later) (result.map (response :: ·))

/-- **Several requests are routed in turn**, each as a single one is. -/
theorem inTurn_of_among {requests : List Request} {result : Except GatewayError (List Response)}
    (h : Among others (router.routeAll requests) r events result left) :
    InTurn (Routed router) requests events result := by
  induction requests generalizing r left events result with
  | nil =>
    obtain ⟨rfl, rfl, -⟩ := Flow.among_done.mp h
    exact .nil
  | cons request requests ih =>
    rcases Flow.among_andThen.mp h with
      ⟨e, rfl, hfirst⟩ | ⟨first, response, between, rest, rfl, hfirst, hrest⟩
    · exact .failed (routed_of_among hfirst)
    · obtain ⟨responses, hlater, rfl⟩ := Flow.among_andThen_done.mp hrest
      exact .answered (routed_of_among hfirst) (ih hlater)

/-- The routing of several requests only looks at the registry. -/
theorem looksOnly_routeAll (router : Router) (requests : List Request) :
    Flow.LooksOnly (router.routeAll requests) := by
  induction requests with
  | nil => exact Flow.looksOnly_done _
  | cons request requests ih =>
    refine (looksOnly_route router request).andThen fun response => ?_
    exact ih.andThen fun responses => Flow.looksOnly_done _

/-- What follows from how each request was routed, and from what all of their
steps saw, holds in turn. -/
theorem InTurn.imp {P Q : Request → List Event → Except GatewayError Response → Prop}
    {S : Event → Prop} {requests : List Request} {result : Except GatewayError (List Response)}
    (h : InTurn P requests events result) (hevents : ∀ event ∈ events, S event)
    (hPQ : ∀ request events result, (∀ event ∈ events, S event) → P request events result →
      Q request events result) : InTurn Q requests events result := by
  induction h with
  | nil => exact .nil
  | failed hfirst => exact .failed (hPQ _ _ _ hevents hfirst)
  | answered hfirst _ ih =>
    obtain ⟨hbefore, hbehind⟩ := List.forall_mem_append.mp hevents
    exact .answered (hPQ _ _ _ hbefore hfirst) (ih hbehind)

end Router

end GraphGateway
