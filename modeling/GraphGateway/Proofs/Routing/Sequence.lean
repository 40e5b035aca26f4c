import GraphGateway.Proofs.Routing.Interleaving
import GraphGateway.Proofs.Routing.Steps

/-!
# Requests one after another

Several requests are routed in their order, and the first that fails ends it. Each
of them has its turn (`Turn`): its query is read, its field is looked up, and
it is brought to the server of the field. The first two may fail, and then it is
brought nowhere; if it is brought anywhere, then to one address and once. This is so
whoever brings it there: a `Dispatcher` may do so in steps of any kind, with a result
that depends on all that was done before.

The turns of several requests are those of single ones, each of which begins in the
registry that the one before it has left (`Dispatcher.among_routeAll_cons`). So they tell
the whole of what is done for the requests and what comes of them:
`Dispatcher.among_routeAll` says that requests are routed with a result exactly if there
are turns that end so (`Turn.Ends`).
-/

namespace GraphGateway

open GraphGateway.Flow (Event Among)

/-! ## Turns -/

/-- **The turn of a request**: what was done for it, and what came of it. -/
structure Turn where
  /-- The request. -/
  request : Request
  /-- The steps in which its field was looked up. -/
  looks : List Event
  /-- The address that it was brought to, if it was, and the steps in which that was
  done. -/
  brought : Option (String × List Event)
  /-- What came of it. -/
  result : Except GatewayError Response

namespace Turn

/-- The steps in which the request was brought to its server. -/
def sent (t : Turn) : List Event := t.brought.elim [] Prod.snd

/-- All steps taken for the request. -/
def steps (t : Turn) : List Event := t.looks ++ t.sent

/-- **What turns come to**, where the requests had their turns in this order. -/
inductive Ends : List Turn → List Request → Except GatewayError (List Response) → Prop where
  /-- All were answered, and there is one response for each. -/
  | answered {turns : List Turn} {responses : List Response}
    (hresults : turns.map Turn.result = responses.map .ok) :
    Ends turns (turns.map Turn.request) (.ok responses)
  /-- One failed, after others that were answered, and the rest had no turn. -/
  | failed {turns : List Turn} {responses : List Response} {last : Turn} {e : GatewayError}
    {rest : List Request} (hresults : turns.map Turn.result = responses.map .ok)
    (hlast : last.result = .error e) :
    Ends (turns ++ [last]) (turns.map Turn.request ++ last.request :: rest) (.error e)

/-- Without turns there were no requests. -/
theorem ends_nil_iff {requests : List Request} {result : Except GatewayError (List Response)} :
    Ends [] requests result ↔ requests = [] ∧ result = .ok [] := by
  constructor
  · intro h
    generalize hnone : ([] : List Turn) = turns at h
    cases h with
    | answered hresults =>
      subst hnone
      exact ⟨rfl, by rw [List.map_eq_nil_iff.mp hresults.symm]⟩
    | failed => simp at hnone
  · rintro ⟨rfl, rfl⟩
    exact @Ends.answered [] [] rfl

/-- **What a turn and those behind it come to**: the first has failed, and there are no
more, or it was answered, and the response comes before what those behind it come to. -/
theorem ends_cons_iff {turn : Turn} {turns : List Turn} {requests : List Request}
    {result : Except GatewayError (List Response)} :
    Ends (turn :: turns) requests result
      ↔ (∃ e rest, turn.result = .error e ∧ turns = [] ∧ requests = turn.request :: rest
          ∧ result = .error e)
        ∨ ∃ response rest later, turn.result = .ok response ∧ Ends turns rest later
          ∧ requests = turn.request :: rest ∧ result = later.map (response :: ·) := by
  constructor
  · intro h
    generalize hall : turn :: turns = all at h
    cases h with
    | @answered _ responses hresults =>
      subst hall
      cases responses with
      | nil => cases hresults
      | cons response responses =>
        obtain ⟨hfirst, hrest⟩ := List.cons.inj hresults
        exact .inr ⟨response, _, .ok responses, hfirst, .answered hrest, rfl, rfl⟩
    | @failed before responses last e rest hresults hlast =>
      cases before with
      | nil =>
        obtain ⟨rfl, rfl⟩ := List.cons.inj hall
        exact .inl ⟨e, rest, hlast, rfl, rfl, rfl⟩
      | cons first before =>
        obtain ⟨rfl, rfl⟩ := List.cons.inj hall
        cases responses with
        | nil => cases hresults
        | cons response responses =>
          obtain ⟨hfirst, hresults⟩ := List.cons.inj hresults
          exact .inr ⟨response, _, .error e, hfirst, .failed hresults hlast, rfl, rfl⟩
  · rintro (⟨e, rest, hresult, rfl, rfl, rfl⟩ | ⟨response, rest, later, hresult, hends, rfl, rfl⟩)
    · exact @Ends.failed [] [] _ _ _ rfl hresult
    · cases hends with
      | @answered _ responses hresults =>
        exact @Ends.answered (turn :: turns) (response :: responses)
          (List.cons_eq_cons.mpr ⟨hresult, hresults⟩)
      | @failed before responses last e rest hresults hlast =>
        exact @Ends.failed (turn :: before) (response :: responses) _ _ _
          (List.cons_eq_cons.mpr ⟨hresult, hresults⟩) hlast

end Turn

namespace Dispatcher

variable {others : Registry → Registry → Prop} {d : Dispatcher} {r left : Registry}
  {events : List Event}

/-- **The turns that a request can have** with a dispatcher, from one registry to another. -/
inductive Takes (others : Registry → Registry → Prop) (d : Dispatcher) :
    Registry → Turn → Registry → Prop where
  /-- The query has no field. -/
  | unread {r : Registry} {request : Request} {e : GatewayError}
    (hquery : d.extract request.query = .error e) :
    Takes others d r ⟨request, [], none, .error e⟩ r
  /-- The field has no server. -/
  | unresolved {r left : Registry} {request : Request} {operation : Operation}
    {looks : List Event} {e : GatewayError} (hquery : d.extract request.query = .ok operation)
    (hfield : Among others (Router.resolve operation.field) r looks (.error e) left) :
    Takes others d r ⟨request, looks, none, .error e⟩ left
  /-- The request was brought to the server of the field. -/
  | brought {r between left : Registry} {request : Request} {operation : Operation}
    {looks sent : List Event} {server : Server} {result : Except GatewayError Response}
    (hquery : d.extract request.query = .ok operation)
    (hfield : Among others (Router.resolve operation.field) r looks (.ok server) between)
    (hsent : Among others (d.forward server.endpoint request) between sent result left) :
    Takes others d r ⟨request, looks, some (server.endpoint, sent), result⟩ left

/-- **A request is routed in its turn.** -/
theorem among_route {request : Request} {result : Except GatewayError Response} :
    Among others (d.route request) r events result left
      ↔ ∃ turn, d.Takes others r turn left ∧ turn.request = request ∧ turn.steps = events
        ∧ turn.result = result := by
  unfold route
  constructor
  · intro h
    cases hquery : d.extract request.query with
    | error e =>
      rw [hquery] at h
      obtain ⟨rfl, rfl, rfl⟩ := Flow.among_done.mp h
      exact ⟨_, .unread hquery, rfl, rfl, rfl⟩
    | ok operation =>
      rw [hquery] at h
      rcases Flow.among_andThen.mp h with
        ⟨e, rfl, hfield⟩ | ⟨looks, server, between, sent, rfl, hfield, hsent⟩
      · exact ⟨_, .unresolved hquery hfield, rfl, List.append_nil _, rfl⟩
      · exact ⟨_, .brought hquery hfield hsent, rfl, rfl, rfl⟩
  · rintro ⟨turn, hturn, rfl, rfl, rfl⟩
    cases hturn with
    | unread hquery =>
      rw [hquery]
      exact .done ..
    | @unresolved _ request operation looks e hquery hfield =>
      rw [hquery]
      refine Flow.among_andThen.mpr (.inl ⟨e, rfl, ?_⟩)
      show Among others _ r (looks ++ []) _ left
      rwa [List.append_nil]
    | brought hquery hfield hsent =>
      rw [hquery]
      exact Flow.among_andThen.mpr (.inr ⟨_, _, _, _, rfl, hfield, hsent⟩)

/-- The look-up in a turn exchanges nothing with backends. -/
theorem Takes.exchanges_looks {turn : Turn} (h : d.Takes others r turn left) :
    Flow.exchanges turn.looks = [] := by
  cases h with
  | unread => rfl
  | unresolved _ hfield => exact (Router.resolved_of_among hfield).exchanges_eq_nil
  | brought _ hfield => exact (Router.resolved_of_among hfield).exchanges_eq_nil

/-- **Turns one after another**, each of which begins in the registry that the one before it
has left. -/
inductive TakesEach (others : Registry → Registry → Prop) (d : Dispatcher) :
    Registry → List Turn → Registry → Prop where
  /-- There is none. -/
  | nil {r : Registry} : TakesEach others d r [] r
  /-- There is one, and there are those behind it. -/
  | cons {r between left : Registry} {turn : Turn} {turns : List Turn}
    (hfirst : d.Takes others r turn between) (hrest : TakesEach others d between turns left) :
    TakesEach others d r (turn :: turns) left

/-- What a run of one request and of those behind it does: it fails with the first, or it puts the
response before what the rest comes to. -/
theorem among_routeAll_cons {request : Request} {requests : List Request}
    {result : Except GatewayError (List Response)} :
    Among others (d.routeAll (request :: requests)) r events result left
      ↔ (∃ e, result = .error e ∧ Among others (d.route request) r events (.error e) left)
        ∨ ∃ first response between rest later, events = first ++ rest
          ∧ Among others (d.route request) r first (.ok response) between
          ∧ Among others (d.routeAll requests) between rest later left
          ∧ result = later.map (response :: ·) := by
  rw [routeAll, Flow.among_andThen]
  refine or_congr_right ⟨?_, ?_⟩
  · rintro ⟨first, response, between, rest, rfl, hfirst, hrest⟩
    obtain ⟨later, hlater, rfl⟩ := Flow.among_andThen_done.mp hrest
    exact ⟨first, response, between, rest, later, rfl, hfirst, hlater, rfl⟩
  · rintro ⟨first, response, between, rest, later, rfl, hfirst, hlater, rfl⟩
    exact ⟨first, response, between, rest, rfl, hfirst,
      Flow.among_andThen_done.mpr ⟨later, hlater, rfl⟩⟩

/-- **Several requests are routed in their turns.** -/
theorem among_routeAll_iff {requests : List Request}
    {result : Except GatewayError (List Response)} :
    Among others (d.routeAll requests) r events result left
      ↔ ∃ turns, d.TakesEach others r turns left ∧ turns.flatMap Turn.steps = events
        ∧ Turn.Ends turns requests result := by
  induction requests generalizing r events result with
  | nil =>
    rw [routeAll, Flow.among_done]
    constructor
    · rintro ⟨rfl, rfl, rfl⟩
      exact ⟨[], .nil, rfl, Turn.ends_nil_iff.mpr ⟨rfl, rfl⟩⟩
    · rintro ⟨turns, hturns, rfl, hends⟩
      cases hturns with
      | nil => exact ⟨rfl, (Turn.ends_nil_iff.mp hends).2, rfl⟩
      | cons =>
        rcases Turn.ends_cons_iff.mp hends with ⟨_, _, _, _, hnone, _⟩ | ⟨_, _, _, _, _, hnone, _⟩
        <;> cases hnone
  | cons request requests ih =>
    rw [among_routeAll_cons]
    constructor
    · rintro (⟨e, rfl, hfirst⟩ | ⟨first, response, between, rest, later, rfl, hfirst, hrest, rfl⟩)
      · obtain ⟨turn, hturn, rfl, rfl, hresult⟩ := among_route.mp hfirst
        exact ⟨[turn], .cons hturn .nil, List.flatMap_singleton .., Turn.ends_cons_iff.mpr
          (.inl ⟨e, requests, hresult, rfl, rfl, rfl⟩)⟩
      · obtain ⟨turn, hturn, rfl, rfl, hresult⟩ := among_route.mp hfirst
        obtain ⟨turns, hturns, rfl, hends⟩ := ih.mp hrest
        exact ⟨turn :: turns, .cons hturn hturns, List.flatMap_cons .., Turn.ends_cons_iff.mpr
          (.inr ⟨response, requests, later, hresult, hends, rfl, rfl⟩)⟩
    · rintro ⟨turns, hturns, rfl, hends⟩
      cases hturns with
      | nil => exact absurd (Turn.ends_nil_iff.mp hends).1 (List.cons_ne_nil _ _)
      | @cons _ between _ turn turns hfirst hrest =>
        rcases Turn.ends_cons_iff.mp hends with ⟨e, rest, hresult, rfl, hrequests, rfl⟩
          | ⟨response, rest, later, hresult, hends, hrequests, rfl⟩
        · obtain ⟨rfl, rfl⟩ := List.cons.inj hrequests
          cases hrest
          exact .inl ⟨e, rfl, among_route.mpr
            ⟨turn, hfirst, rfl, (List.flatMap_singleton ..).symm, hresult⟩⟩
        · obtain ⟨rfl, rfl⟩ := List.cons.inj hrequests
          exact .inr ⟨turn.steps, response, between, turns.flatMap Turn.steps, later,
            List.flatMap_cons .., among_route.mpr ⟨turn, hfirst, rfl, rfl, hresult⟩,
            ih.mpr ⟨turns, hrest, rfl, hends⟩, rfl⟩

/-- What is exchanged in turns one after another is exchanged where the requests are brought to
their servers. -/
theorem TakesEach.exchanges_steps {turns : List Turn} (h : d.TakesEach others r turns left) :
    Flow.exchanges (turns.flatMap Turn.steps)
      = turns.flatMap fun turn => Flow.exchanges turn.sent := by
  induction h with
  | nil => rfl
  | cons hfirst _ ih =>
    rw [List.flatMap_cons, List.flatMap_cons, Flow.exchanges_append, ih, Turn.steps,
      Flow.exchanges_append, hfirst.exchanges_looks, List.nil_append]

/-- Over HTTP a request is exchanged once at most in its turn, and it is sent as it is. -/
theorem Takes.exchanges_overHttp {router : Router} {turn : Turn}
    (h : router.overHttp.Takes others r turn left) :
    (Flow.exchanges turn.sent).length ≤ 1
      ∧ ∀ x ∈ Flow.exchanges turn.sent, x.1.body = Json.compact turn.request.toJson := by
  have hrouted : Router.Routed router turn.request turn.steps turn.result :=
    Router.routed_of_among (among_route.mpr ⟨turn, h, rfl, rfl, rfl⟩)
  have hsent : Flow.exchanges turn.steps = Flow.exchanges turn.sent := by
    rw [Turn.steps, Flow.exchanges_append, h.exchanges_looks, List.nil_append]
  rw [← hsent]
  rcases hrouted.exchanges_eq with ⟨hnone, -⟩ | ⟨endpoint, url, delivery, hone, -⟩
  · rw [hnone]
    exact ⟨Nat.zero_le 1, fun x hx => absurd hx List.not_mem_nil⟩
  · rw [hone]
    exact ⟨Nat.le_refl 1, List.forall_mem_singleton.mpr rfl⟩

/-- Over HTTP this is so in each of several turns. -/
theorem TakesEach.exchanges_overHttp {router : Router} {turns : List Turn}
    (h : router.overHttp.TakesEach others r turns left) :
    ∀ turn ∈ turns, (Flow.exchanges turn.sent).length ≤ 1
      ∧ ∀ x ∈ Flow.exchanges turn.sent, x.1.body = Json.compact turn.request.toJson := by
  induction h with
  | nil => exact fun turn hturn => absurd hturn List.not_mem_nil
  | cons hfirst _ ih => exact List.forall_mem_cons.mpr ⟨hfirst.exchanges_overHttp, ih⟩

/-- **Several requests are routed as a map that stops at the first failure**, by any dispatcher
and whatever other clients do in the meantime. There is a run of them exactly if there are turns
of single requests one after another that make it up and end so: either all are answered, with one
response for each in their order, or one fails, all before it are answered, the error is what
comes of the whole, and those behind it have no turn. Nothing is exchanged but where the requests
are brought to their servers, each to one address at most, and over HTTP each is sent once at
most. -/
theorem among_routeAll :
    (∀ (d : Dispatcher) (requests : List Request) (result : Except GatewayError (List Response)),
        Among others (d.routeAll requests) r events result left
          ↔ ∃ turns, d.TakesEach others r turns left ∧ turns.flatMap Turn.steps = events
            ∧ Turn.Ends turns requests result)
      ∧ (∀ (d : Dispatcher) (turns : List Turn), d.TakesEach others r turns left →
        Flow.exchanges (turns.flatMap Turn.steps)
          = turns.flatMap fun turn => Flow.exchanges turn.sent)
      ∧ ∀ (router : Router) (turns : List Turn), router.overHttp.TakesEach others r turns left →
        ∀ turn ∈ turns, (Flow.exchanges turn.sent).length ≤ 1
          ∧ ∀ x ∈ Flow.exchanges turn.sent, x.1.body = Json.compact turn.request.toJson :=
  ⟨fun _ _ _ => among_routeAll_iff, fun _ _ h => h.exchanges_steps,
    fun _ _ h => h.exchanges_overHttp⟩

/-- Of two requests, the first is sent to a server that does not answer, and the second has no
turn. -/
theorem among_routeAll_account :
    Among Registry.Becomes ((⟨.heuristic⟩ : Router).overHttp.routeAll
        [accountRequest, accountRequest]) shadowingRegistry (accountSteps .noAnswer)
        (.error accountFailure) startedRegistry
      ∧ (Flow.exchanges (accountSteps .noAnswer)).length ≤ 1 := by
  obtain ⟨turn, hturn, hrequest, hsteps, hresult⟩ := among_route.mp (among_account .noAnswer)
  have hends : Turn.Ends [turn] [accountRequest, accountRequest] (.error accountFailure) := by
    rw [← hrequest]
    exact @Turn.Ends.failed [] [] turn _ _ rfl hresult
  have hall : [turn].flatMap Turn.steps = accountSteps .noAnswer :=
    (List.flatMap_singleton ..).trans hsteps
  have hturns : Dispatcher.TakesEach Registry.Becomes (⟨.heuristic⟩ : Router).overHttp
      shadowingRegistry [turn] startedRegistry := .cons hturn .nil
  obtain ⟨hrun, hexchanges, honce⟩ := @among_routeAll Registry.Becomes shadowingRegistry
    startedRegistry (accountSteps .noAnswer)
  refine ⟨(hrun _ _ _).mpr ⟨[turn], hturns, hall, hends⟩, ?_⟩
  rw [← hall, hexchanges _ _ hturns, List.flatMap_singleton]
  exact (honce _ _ hturns turn (List.mem_singleton_self _)).1

end Dispatcher

end GraphGateway
