import GraphGateway.Proofs.Http.Answers
import GraphGateway.Proofs.Routing.Interleaving
import GraphGateway.Proofs.Text.Sniffed
import GraphGateway.Proofs.Wire.Message

/-!
# The gateway is transparent

A request passes through four texts: the client's body, the body that is sent to a
backend, the backend's answer, and the body of the reply. The gateway reads and
writes in between, and the texts may differ in much: in the order of members, in
members that are `null` or left out, in records that are arrays, in blanks and
escapes. What they are read as does not differ: the backend gets the request that
the client sent, once, and the client gets the response that the backend gave
(`Http.isTransparent_among`).

Nothing is said of floating-point numbers, and nothing of requests that are not
answered with a response: a batch is answered as a whole or not at all.
-/

namespace GraphGateway

open Wire
open GraphGateway.Flow (Event Among)

variable {others : Registry → Registry → Prop} {r left : Registry} {events : List Event}

/-! ## What a backend answers -/

/-- **Whether a delivery brings a response**: it is a whole answer with the status
200, and its text is read as the response. -/
def Delivery.Brings (delivery : Delivery) (p : Response) : Prop :=
  ∃ body, delivery = .answer 200 body true
    ∧ DecodesAs (.record .response) (Text.Sniffed.decode body) p

/-- A body in UTF-8 brings what its text is read as, if the text does not start with
the mark. -/
theorem Delivery.brings_encode {text : String} (h : text.toList.head? ≠ some '\uFEFF')
    (p : Response) :
    (Delivery.answer 200 (Text.Utf8.encode text) true).Brings p
      ↔ DecodesAs (.record .response) text p := by
  unfold Delivery.Brings
  constructor
  · rintro ⟨body, hbody, hp⟩
    obtain ⟨-, rfl, -⟩ := Delivery.answer.inj hbody
    rwa [Text.Sniffed.decode_encode h] at hp
  · intro hp
    exact ⟨_, rfl, by rwa [Text.Sniffed.decode_encode h]⟩

/-- **Whether a call carries a request**: its text is read as the request. -/
def Call.Carries (call : Call) (q : Request) : Prop := DecodesAs (.record .request) call.body q

/-- What is brought is what comes of the request. -/
theorem Delivery.Brings.responseIn_eq {delivery : Delivery} {p : Response}
    (h : delivery.Brings p) (endpoint : String) (url : Url) :
    Backend.responseIn endpoint url delivery = .ok p := by
  obtain ⟨body, rfl, hp⟩ := h
  show Backend.readResponse endpoint { status := 200, body := Text.Sniffed.decode body } = .ok p
  have hdecode : decodeText (.record .response)
      (Text.Utf8.encode (Text.Sniffed.decode body)) = .ok p := hp
  unfold Backend.readResponse Backend.Answer.octets
  rw [if_neg (by simp)]
  dsimp only
  rw [hdecode]

/-- What is brought was read from a text. -/
theorem Delivery.Brings.readable {delivery : Delivery} {p : Response} (h : delivery.Brings p) :
    Readable 127 (.record .response) p := by
  obtain ⟨body, -, hp⟩ := h
  exact readable_of_decodeText hp

namespace Router

variable {router : Router}

/-- **A request that a backend answers with a response** is sent to it alone, and
that is what comes of it. -/
theorem Routed.of_brings {request : Request} {result : Except GatewayError Response}
    (h : Routed router request events result) {x : Call × Delivery} {p : Response}
    (hsent : x ∈ Flow.exchanges events) (hp : x.2.Brings p) :
    Flow.exchanges events = [x] ∧ x.1.body = Json.compact request.toJson ∧ result = .ok p := by
  rcases h.exchanges_eq with ⟨hnone, -⟩ | ⟨endpoint, url, delivery, hone, rfl⟩
  · rw [hnone] at hsent
    cases hsent
  · rw [hone] at hsent ⊢
    obtain rfl := List.mem_singleton.mp hsent
    exact ⟨rfl, rfl, hp.responseIn_eq endpoint url⟩

/-- Every request is exchanged once at most. -/
theorem InTurn.exchanges_length_le {requests : List Request}
    {result : Except GatewayError (List Response)}
    (h : InTurn (Routed router) requests events result) :
    (Flow.exchanges events).length ≤ requests.length := by
  induction h with
  | nil => exact Nat.le_refl 0
  | failed hfirst => exact hfirst.once.trans (Nat.le_add_left 1 _)
  | answered hfirst _ ih =>
    rw [Flow.exchanges_append, List.length_append, List.length_cons, Nat.add_comm]
    exact Nat.add_le_add ih hfirst.once

/-- **Requests that backends answer with as many responses** are sent in turn, and
these are what comes of them. -/
theorem InTurn.of_brings {requests : List Request} {result : Except GatewayError (List Response)}
    (h : InTurn (Routed router) requests events result) {ps : List Response}
    (hlength : (Flow.exchanges events).length = requests.length)
    (hps : List.Forall₂ (fun p x => x.2.Brings p) ps (Flow.exchanges events)) :
    List.Forall₂ (fun request x => x.1.body = Json.compact request.toJson) requests
        (Flow.exchanges events)
      ∧ result = .ok ps := by
  induction h generalizing ps with
  | nil =>
    cases hps
    exact ⟨.nil, rfl⟩
  | @failed request rest events e hfirst =>
    -- a request that failed was not answered, and so there are fewer answers
    cases hsent : Flow.exchanges events with
    | nil =>
      rw [hsent] at hlength
      cases hlength
    | cons x more =>
      rw [hsent] at hps
      cases hps with
      | cons hp _ =>
        obtain ⟨-, -, hresult⟩ := hfirst.of_brings (hsent ▸ List.mem_cons_self ..) hp
        cases hresult
  | @answered request rest first later response result hfirst _ ih =>
    rcases hfirst.exchanges_eq with ⟨-, e, he⟩ | ⟨endpoint, url, delivery, hone, hresponse⟩
    · cases he
    · rw [Flow.exchanges_append, hone] at hlength hps ⊢
      cases hps with
      | cons hp hps =>
        rw [hp.responseIn_eq endpoint url] at hresponse
        obtain rfl := Except.ok.inj hresponse
        obtain ⟨hbodies, rfl⟩ := ih (Nat.succ.inj hlength) hps
        exact ⟨.cons rfl hbodies, rfl⟩

end Router

namespace Http

variable {router : Router} {body : List UInt8}

/-! ## What a body leads to -/

/-- **A client that posts to the gateway** gets the answer to the body. -/
theorem among_handle_post {target : String} {reply : Reply} (htarget : pathOf target = "/graphql") :
    Among others (handle router { method := "POST", target, body := some body }) r events reply left
      ↔ ∃ answer, Among others (answerBody router body) r events answer left
        ∧ reply = shared answer :=
  among_handleBy_post htarget

/-- **A request with something to ask is routed**, if its body is not taken for
several. -/
theorem answerBody_of_request {q : GraphGateway.Request}
    (hq : decodeText (.record .request) body = .ok q) (hblank : isBlank q = false)
    (hbatch : isBatch body = false) :
    answerBody router body
      = Flow.bind (router.respond q) fun response => .done (json response.toJson) := by
  rw [answerBody, answerBodyBy_eq, asked, hbatch, hq]
  simp only [Bool.false_eq_true, if_false, Except.map, Asked.requests, List.any_cons, hblank,
    List.any_nil, Bool.or_false]
  rfl

/-- A request with nothing to ask is refused, and so is one whose body is taken for
several. -/
theorem answerBody_refused (router : Router) {q : GraphGateway.Request}
    (hq : decodeText (.record .request) body = .ok q)
    (h : isBatch body = true ∨ isBlank q = true) :
    ∃ reason, answerBody router body = .done (plain 400 reason) := by
  unfold answerBody answerBodyBy
  cases hbatch : isBatch body with
  | true =>
    cases hqs : decodeText (.list (.record .request)) body with
    | ok qs => exact absurd hqs (not_decodeText_list hq)
    | error fault => exact ⟨_, rfl⟩
  | false =>
    rw [hbatch] at h
    have hblank : isBlank q = true := h.resolve_left Bool.false_ne_true
    rw [hq]
    dsimp only
    rw [hblank]
    exact ⟨_, rfl⟩

/-- **Requests that all have something to ask** are routed in turn, and otherwise they
are refused. -/
theorem answerBody_of_requests {qs : List GraphGateway.Request}
    (hqs : decodeText (.list (.record .request)) body = .ok qs) :
    answerBody router body
      = if qs.any isBlank then .done queryMissing
        else Flow.bind (router.routeAll qs) fun result => .done (batchReply result) := by
  rw [answerBody, answerBodyBy_eq, asked, isBatch_of_decodeText hqs, hqs]
  rfl

/-- **A request with something to ask is routed**, and the answer is what comes of
it. -/
theorem among_answerBody_one {q : GraphGateway.Request} {answer : Reply}
    (hq : decodeText (.record .request) body = .ok q) (hblank : isBlank q = false)
    (hbatch : isBatch body = false)
    (h : Among others (answerBody router body) r events answer left) :
    ∃ result, Router.Routed router q events result
      ∧ answer = json (Router.responseOf result).toJson := by
  rw [answerBody_of_request hq hblank hbatch] at h
  obtain ⟨response, hresponse, rfl⟩ := Flow.among_bind_done.mp h
  obtain ⟨result, hroute, rfl⟩ := Flow.among_bind_done.mp hresponse
  exact ⟨result, Router.routed_of_among hroute, rfl⟩

/-- What is refused is not routed. -/
theorem among_answerBody_refused {q : GraphGateway.Request} {answer : Reply}
    (hq : decodeText (.record .request) body = .ok q)
    (hrefused : isBatch body = true ∨ isBlank q = true)
    (h : Among others (answerBody router body) r events answer left) :
    events = [] ∧ answer.status = 400 := by
  obtain ⟨reason, hdone⟩ := answerBody_refused router hq hrefused
  rw [hdone] at h
  obtain ⟨rfl, rfl, -⟩ := Flow.among_done.mp h
  exact ⟨rfl, rfl⟩

/-- **Several requests that all have something to ask** are routed in turn, and the
answer is what comes of them. -/
theorem among_answerBody_several {qs : List GraphGateway.Request} {answer : Reply}
    (hqs : decodeText (.list (.record .request)) body = .ok qs)
    (hblank : ∀ q ∈ qs, isBlank q = false)
    (h : Among others (answerBody router body) r events answer left) :
    ∃ result, Router.InTurn (Router.Routed router) qs events result
      ∧ answer = batchReply result := by
  have hnone : ¬ qs.any isBlank = true := by simpa using hblank
  rw [answerBody_of_requests hqs, if_neg hnone] at h
  obtain ⟨result, hroute, rfl⟩ := Flow.among_bind_done.mp h
  exact ⟨result, Router.inTurn_of_among hroute, rfl⟩

/-- Several requests of which one has nothing to ask are not routed. -/
theorem among_answerBody_blank {qs : List GraphGateway.Request} {answer : Reply}
    (hqs : decodeText (.list (.record .request)) body = .ok qs) (hblank : qs.any isBlank = true)
    (h : Among others (answerBody router body) r events answer left) :
    events = [] := by
  rw [answerBody_of_requests hqs, if_pos hblank] at h
  exact (Flow.among_done.mp h).1

/-! ## What the client gets -/

/-- **Whether a reply carries a response**: its text is read as the response. -/
structure Reply.Carries (reply : Reply) (p : Response) : Prop where
  /-- All went well. -/
  status : reply.status = 200
  /-- The text is read as the response. -/
  body : DecodesAs (.record .response) reply.body p

/-- **Whether a reply carries several responses**: its text is an array of texts, each
of which is read as the response in its place. -/
structure Reply.CarriesEach (reply : Reply) (ps : List Response) : Prop where
  /-- All went well. -/
  status : reply.status = 200
  /-- The texts between the brackets are read as the responses. -/
  items : ∃ texts, reply.body = "[" ++ ",".intercalate texts ++ "]"
    ∧ List.Forall₂ (DecodesAs (.record .response)) texts ps
  /-- The whole text is read as the list of the responses, if they leave a level for
  the array. -/
  body : (∀ p ∈ ps, p.toJson.depth ≤ 126) → DecodesAs (.list (.record .response)) reply.body ps

/-- A reply carries a response that was read from a backend. -/
theorem carries_json {p : Response} (hread : Readable 127 (.record .response) p)
    (hwhole : p.IsWhole) : (shared (json p.toJson)).Carries p where
  status := rfl
  body := p.decodesAs_compact le_rfl hread hwhole

/-- **A reply carries all responses** that were read from backends. -/
theorem carriesEach_batchReply {ps : List Response}
    (hread : ∀ p ∈ ps, Readable 127 (.record .response) p) (hwhole : ∀ p ∈ ps, p.IsWhole) :
    (shared (batchReply (.ok ps))).CarriesEach ps where
  status := rfl
  items := by
    refine ⟨(ps.map Response.toJson).map Json.compact, Json.compact_array _, ?_⟩
    rw [List.map_map, List.forall₂_map_left_iff, List.forall₂_same]
    exact fun p hp => p.decodesAs_compact le_rfl (hread p hp) (hwhole p hp)
  body hdepth := by
    refine decodesAs_compact ?_ ((Json.depth_array_map_le _ _ 126).mpr hdepth) ?_
    · rw [Json.isWhole, Json.areWhole_map]
      exact fun p hp => p.isWhole_toJson (hwhole p hp)
    · rw [valueOf?_array]
      exact mapM_valueOf? fun p hp =>
        Response.valueOf?_toJson (Response.isNormal_of_readable (hread p hp)).1

/-- Each of several requests that were read can be sent as it is. -/
theorem decodesAs_compact_of_mem {qs : List GraphGateway.Request}
    (hqs : decodeText (.list (.record .request)) body = .ok qs) {q : GraphGateway.Request}
    (hq : q ∈ qs) (hwhole : q.IsWhole) :
    DecodesAs (.record .request) (Json.compact q.toJson) q := by
  obtain ⟨left, hroom, hread⟩ := (readable_of_decodeText hqs).listOrNull_of_list.listOrNull hq
  exact q.decodesAs_compact (by omega) hread hwhole

/-! ## The whole way -/

/-- **Whether the gateway was transparent** for a body that a client posted, in the
steps taken and with the reply given. -/
structure IsTransparent (router : Router) (body : List UInt8) (events : List Event)
    (reply : Reply) : Prop where
  /-- A request with something to ask is routed, if its body is not taken for several,
  and the reply is what comes of it. -/
  routed : ∀ q, decodeText (.record .request) body = .ok q → isBlank q = false →
    isBatch body = false → ∃ result, Router.Routed router q events result
      ∧ reply = shared (json (Router.responseOf result).toJson)
  /-- A request written as an array is taken for several, and refused. -/
  refused : ∀ q, decodeText (.record .request) body = .ok q → isBatch body = true →
    events = [] ∧ reply.status = 400
  /-- A request that a backend answers with a response is sent there alone, once, as a
  text that is read as the request, and what the client gets is read as the
  response. -/
  answered : ∀ q x p, decodeText (.record .request) body = .ok q → q.IsWhole →
    x ∈ Flow.exchanges events → x.2.Brings p → p.IsWhole →
    Flow.exchanges events = [x] ∧ x.1.Carries q ∧ reply.Carries p
  /-- Several requests that all have something to ask are routed in turn, and the reply
  is what comes of them. -/
  routedEach : ∀ qs, decodeText (.list (.record .request)) body = .ok qs →
    (∀ q ∈ qs, isBlank q = false) → ∃ result, Router.InTurn (Router.Routed router) qs events result
      ∧ reply = shared (batchReply result)
  /-- Several requests that backends answer with as many responses are sent one after
  the other, once each, and the client gets an array of the responses. -/
  answeredEach : ∀ qs answered ps, decodeText (.list (.record .request)) body = .ok qs →
    (∀ q ∈ qs, GraphGateway.Request.IsWhole q) → answered.Sublist (Flow.exchanges events) →
    answered.length = qs.length → List.Forall₂ (fun p x => x.2.Brings p) ps answered →
    (∀ p ∈ ps, p.IsWhole) →
    Flow.exchanges events = answered ∧ List.Forall₂ (fun q x => x.1.Carries q) qs answered
      ∧ reply.CarriesEach ps

/-- One request that was routed and answered reaches the backend, and the response
reaches the client. -/
theorem carries_of_routed {q : GraphGateway.Request} {result : Except GatewayError Response}
    (hq : decodeText (.record .request) body = .ok q) (hqwhole : q.IsWhole)
    (h : Router.Routed router q events result) {x : Call × Delivery} {p : Response}
    (hsent : x ∈ Flow.exchanges events) (hp : x.2.Brings p) (hpwhole : p.IsWhole) :
    Flow.exchanges events = [x] ∧ x.1.Carries q
      ∧ (shared (json (Router.responseOf result).toJson)).Carries p := by
  obtain ⟨hone, hbody, rfl⟩ := h.of_brings hsent hp
  refine ⟨hone, ?_, carries_json hp.readable hpwhole⟩
  unfold Call.Carries
  rw [hbody]
  exact q.decodesAs_compact le_rfl (readable_of_decodeText hq) hqwhole

/-- Several requests that were routed and answered reach the backends, and the responses
reach the client. -/
theorem carriesEach_of_inTurn {qs : List GraphGateway.Request}
    {result : Except GatewayError (List Response)}
    (hqs : decodeText (.list (.record .request)) body = .ok qs)
    (hqswhole : ∀ q ∈ qs, GraphGateway.Request.IsWhole q)
    (h : Router.InTurn (Router.Routed router) qs events result) {ps : List Response}
    (hlength : (Flow.exchanges events).length = qs.length)
    (hps : List.Forall₂ (fun p x => x.2.Brings p) ps (Flow.exchanges events))
    (hpswhole : ∀ p ∈ ps, p.IsWhole) :
    List.Forall₂ (fun q x => x.1.Carries q) qs (Flow.exchanges events)
      ∧ (shared (batchReply result)).CarriesEach ps := by
  obtain ⟨hbodies, rfl⟩ := h.of_brings hlength hps
  have hread := (List.forall₂_and_left ps _).mp
    (hps.imp fun p x hp => (⟨hp.readable, hp⟩ : Readable 127 (.record .response) p ∧ _))
  have hsent := (List.forall₂_and_left qs _).mpr
    ⟨fun q hq => decodesAs_compact_of_mem hqs hq (hqswhole q hq), hbodies⟩
  refine ⟨hsent.imp fun q x hx => ?_, carriesEach_batchReply hread.1 hpswhole⟩
  unfold Call.Carries
  rw [hx.2]
  exact hx.1

/-- **The gateway is transparent**, whatever other clients do in the meantime. A request
is routed, and if a backend answers it with a response, it was sent to that backend and
to no other, once, as a text that is read as the request; and what the client gets is
read as the response. Several requests are routed in turn, and if all are answered, they
were sent once each, and the client gets an array of all the responses. The numbers in
requests and responses have to be whole. -/
theorem isTransparent_among {target : String} (htarget : pathOf target = "/graphql")
    {reply : Reply}
    (h : Among others (handle router { method := "POST", target, body := some body }) r events
      reply left) :
    IsTransparent router body events reply := by
  obtain ⟨answer, hanswer, rfl⟩ := (among_handle_post htarget).mp h
  constructor
  case routed =>
    intro q hq hblank hbatch
    obtain ⟨result, hrouted, rfl⟩ := among_answerBody_one hq hblank hbatch hanswer
    exact ⟨result, hrouted, rfl⟩
  case refused =>
    intro q hq hbatch
    obtain ⟨hnone, hstatus⟩ := among_answerBody_refused hq (.inl hbatch) hanswer
    exact ⟨hnone, hstatus⟩
  case answered =>
    intro q x p hq hqwhole hsent hp hpwhole
    by_cases hrefused : isBatch body = true ∨ isBlank q = true
    · obtain ⟨rfl, -⟩ := among_answerBody_refused hq hrefused hanswer
      exact absurd hsent List.not_mem_nil
    · rw [not_or, Bool.not_eq_true, Bool.not_eq_true] at hrefused
      obtain ⟨result, hrouted, rfl⟩ := among_answerBody_one hq hrefused.2 hrefused.1 hanswer
      exact carries_of_routed hq hqwhole hrouted hsent hp hpwhole
  case routedEach =>
    intro qs hqs hblank
    obtain ⟨result, hrouted, rfl⟩ := among_answerBody_several hqs hblank hanswer
    exact ⟨result, hrouted, rfl⟩
  case answeredEach =>
    intro qs answered ps hqs hqswhole hsub hlength hps hpswhole
    by_cases hblank : qs.any isBlank = true
    · -- nothing was sent, so that there are no requests, and none of them is blank
      obtain rfl := among_answerBody_blank hqs hblank hanswer
      obtain rfl := List.sublist_nil.mp hsub
      obtain rfl := List.eq_nil_of_length_eq_zero hlength.symm
      cases hblank
    · obtain ⟨result, hrouted, rfl⟩ := among_answerBody_several hqs (by simpa using hblank) hanswer
      obtain rfl := hsub.eq_of_length_le (hrouted.exchanges_length_le.trans hlength.ge)
      exact ⟨rfl, carriesEach_of_inTurn hqs hqswhole hrouted hlength hps hpswhole⟩

/-! ## A server that answers -/

/-- A client posts an array with the same request, as an array. -/
def accountsPost : Request where
  method := "POST"
  target := "/graphql"
  body := some (Text.Utf8.encode "[[\"\x7b Account \x7b id \x7d \x7d\"]]")

/-- The answer brings the response. -/
theorem brings_accountAnswer : accountAnswer.Brings accountResponse :=
  (Delivery.brings_encode (by decide) accountResponse).mpr rfl

/-- All numbers of the response are whole. -/
theorem isWhole_accountResponse : accountResponse.IsWhole where
  data v hv := by
    obtain rfl := Option.some.inj hv
    rfl
  errors e he := absurd he List.not_mem_nil
  extensions members hmembers := by cases hmembers

/-- What is exchanged with the server of accounts. -/
def accountExchange : Call × Delivery :=
  ({ url := alphaUrl, body := Json.compact accountRequest.toJson }, accountAnswer)

/-- The client who posts the array gets an array. -/
theorem among_accountsPost :
    Among Registry.Becomes (handle ⟨.heuristic⟩ accountsPost) shadowingRegistry
      (accountSteps accountAnswer) (shared (batchReply (.ok [accountResponse])))
      startedRegistry := by
  refine (among_handle_post rfl).mpr ⟨batchReply (.ok [accountResponse]), ?_, rfl⟩
  show Among _ (Flow.bind (Router.routeAll ⟨.heuristic⟩ [accountRequest]) _) _ _ _ _
  refine Flow.among_bind_done.mpr ⟨.ok [accountResponse], ?_, rfl⟩
  refine Flow.among_andThen.mpr
    (.inr ⟨_, _, _, [], (List.append_nil _).symm, among_accountAnswer, ?_⟩)
  exact Flow.among_andThen_done.mpr ⟨.ok [], .done .., rfl⟩

/-- The gateway is transparent for both clients. -/
theorem isTransparent_among_account :
    (Among Registry.Becomes (handle ⟨.heuristic⟩ accountPost) shadowingRegistry
        (accountSteps accountAnswer) (shared (json accountResponse.toJson)) startedRegistry
      ∧ Flow.exchanges (accountSteps accountAnswer) = [accountExchange]
      ∧ accountExchange.1.Carries accountRequest
      ∧ (shared (json accountResponse.toJson)).Carries accountResponse)
      ∧ Among Registry.Becomes (handle ⟨.heuristic⟩ accountsPost) shadowingRegistry
        (accountSteps accountAnswer) (shared (batchReply (.ok [accountResponse]))) startedRegistry
      ∧ Flow.exchanges (accountSteps accountAnswer) = [accountExchange]
      ∧ List.Forall₂ (fun q x => x.1.Carries q) [accountRequest] [accountExchange]
      ∧ (shared (batchReply (.ok [accountResponse]))).CarriesEach [accountResponse] := by
  have hrequest : accountRequest.IsWhole := fun v hv => by cases hv
  constructor
  · exact ⟨among_accountPost,
      (isTransparent_among rfl among_accountPost).answered accountRequest accountExchange
        accountResponse rfl hrequest (List.mem_singleton_self _) brings_accountAnswer
        isWhole_accountResponse⟩
  · exact ⟨among_accountsPost,
      (isTransparent_among rfl among_accountsPost).answeredEach [accountRequest] [accountExchange]
        [accountResponse] rfl (List.forall_mem_singleton.mpr hrequest) (List.Sublist.refl _) rfl
        (.cons brings_accountAnswer .nil)
        (List.forall_mem_singleton.mpr isWhole_accountResponse)⟩

end Http

end GraphGateway
