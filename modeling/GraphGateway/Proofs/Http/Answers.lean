import GraphGateway.Proofs.Flow.Among
import GraphGateway.Proofs.Http.Batch
import GraphGateway.Proofs.Json.Grammar
import GraphGateway.Proofs.Routing.Interleaving

/-!
# Every body is answered

A client may post anything. What comes of it is decided before anything is done: the
first octet that is not blank shows whether the body is to be read as one request or as
several, the whole body is read as that, and every query in it is looked at (`asked`,
`IsRefused`). A body that is refused gets the status 400, and nothing was done for any
request in it, not even a look at the registry. Any other body gets the status 200 and
a JSON text: a response, several of them, or the one that tells why several requests
have none (`Answered`).

The octet that decides is the right one: of all texts of the grammar of JSON, it takes the
arrays for several requests and nothing else (`isBatch_iff_isArray`), and the reader
of JSON agrees (`isBatch_iff_of_decodeText`).

All of this holds of any `Dispatcher`, among clients who do what they like with the
registry (`isAnswered_among`).
-/

namespace GraphGateway

open Wire
open GraphGateway.Flow (Event Among)

namespace Wire

open Json (Node)

/-- What is read as an array, whatever its items, is one. -/
theorem exists_array_of_read_any {node : Node} {origin : Origin} {values : List Json}
    (h : (partOf node).read origin .any = .ok (.array values)) :
    ∃ start items ending, node = .array start items ending := by
  cases node with
  | scalar v start stop => cases v <;> cases h
  | object =>
    obtain ⟨_, -, h⟩ := bind_eq_ok h
    obtain ⟨_, -, h⟩ := bind_eq_ok h
    cases h
  | faulty => cases h
  | array start items ending => exact ⟨start, items, ending, rfl⟩

/-- An array is read as one. -/
theorem exists_eq_array_of_read_any {start : Nat} {items : List Json.Item} {ending : Json.Ending}
    {origin : Origin} {v : Json}
    (h : (partOf (.array start items ending)).read origin .any = .ok v) :
    ∃ values, v = .array values := by
  obtain ⟨_, -, h⟩ := bind_eq_ok h
  obtain ⟨values, -, h⟩ := bind_eq_ok h
  exact ⟨values, (Except.ok.inj h).symm⟩

end Wire

namespace Http

/-! ## Arrays and several requests -/

/-- **A JSON text is taken for several requests** exactly if it is an array. -/
theorem isBatch_iff_isArray {before value : List UInt8} (hbefore : Json.Grammar.Blanks before)
    (hvalue : Json.Grammar.IsValue value) (behind : List UInt8) :
    isBatch (before ++ value ++ behind) = true ↔ Json.Grammar.IsArray value := by
  obtain ⟨b, rest, rfl, ⟨hblank, hfeed⟩, harray⟩ := hvalue.first
  rw [List.append_assoc, isBatch_append hbefore, List.cons_append,
    isBatch_cons (isBlankOctet_eq_false hblank hfeed), beq_iff_eq, harray]

/-- A body that is taken for several requests is read as an array or not at all. -/
theorem root_of_isBatch {body : List UInt8} (h : isBatch body = true) :
    (∃ start items ending, (Json.Document.read body).root = .array start items ending)
      ∨ ∃ likeNull strict name loose,
        (Json.Document.read body).root = .faulty likeNull strict name loose := by
  have hrest : (Json.Cursor.start body).skipBlanks.rest
      = body.dropWhile Json.Cursor.isBlankOctet := Json.rest_skipFrom 0 body
  have hread : (Json.Document.read body).root
      = (Json.readValue (2 * body.length + 2) (Json.Cursor.start body).skipBlanks).1 := rfl
  rw [← isBatch_dropWhile] at h
  rw [hread, Json.readValue, Json.Cursor.peek?, hrest]
  cases hdrop : body.dropWhile Json.Cursor.isBlankOctet with
  | nil =>
    rw [hdrop] at h
    cases h
  | cons b tail =>
    have hblank : Json.Cursor.isBlankOctet b = false := by
      have hhead := List.head?_dropWhile_not Json.Cursor.isBlankOctet body
      rw [hdrop] at hhead
      exact hhead
    by_cases hfeed : b = 0x0C
    · subst hfeed
      exact .inr ⟨_, _, _, _, rfl⟩
    · rw [hdrop, isBatch_cons (isBlankOctet_eq_false hblank hfeed), beq_iff_eq] at h
      subst h
      exact .inl ⟨_, _, _, rfl⟩

/-- **A body that is read as a value** is taken for several requests exactly if the value is
an array. -/
theorem isBatch_iff_of_decodeText {body : List UInt8} {v : Json}
    (h : decodeText .any body = .ok v) : isBatch body = true ↔ ∃ values, v = .array values := by
  obtain ⟨v', hread, hend⟩ := bind_eq_ok h
  obtain rfl : v' = v := by
    revert hend
    cases (Json.Document.read body).trailing with
    | none => exact Except.ok.inj
    | some fault => exact fun hend => by cases hend
  constructor
  · intro hbatch
    rcases root_of_isBatch hbatch with ⟨start, items, ending, hroot⟩ | ⟨_, _, _, _, hroot⟩
    · rw [hroot] at hread
      exact exists_eq_array_of_read_any hread
    · rw [hroot] at hread
      cases hread
  · rintro ⟨values, rfl⟩
    obtain ⟨start, items, ending, hroot⟩ := exists_array_of_read_any hread
    exact isBatch_of_root hroot

/-! ## What a body asks for -/

/-- **What is asked for**: one thing, or several at once. -/
inductive Asked where
  /-- One thing. -/
  | one (q : GraphGateway.Request)
  /-- Several things. -/
  | several (qs : List GraphGateway.Request)

/-- The requests, one or several. -/
def Asked.requests : Asked → List GraphGateway.Request
  | one q => [q]
  | several qs => qs

/-- **What a body asks for**, if it is read as what its first octet shows it for. -/
def asked (octets : List UInt8) : Except Json.Fault Asked :=
  if isBatch octets then (decodeText (.list (.record .request)) octets).map .several
  else (decodeText (.record .request) octets).map .one

/-- **How a body is refused.** -/
inductive Refusal : Option (List UInt8) → Reply → Prop where
  /-- It broke off. -/
  | cut : Refusal none (plain 400 "Failed to read request body")
  /-- It is not read as what its first octet shows it for. -/
  | unreadable {octets : List UInt8} {fault : Json.Fault} (h : asked octets = .error fault) :
    Refusal (some octets) (malformed octets fault)
  /-- There is nothing but blanks in one of its queries. -/
  | blank {octets : List UInt8} {a : Asked} {q : GraphGateway.Request} (h : asked octets = .ok a)
    (hq : q ∈ a.requests) (hblank : ∀ c ∈ q.query.toList, Text.isBlank c = true) :
    Refusal (some octets) queryMissing

/-- **Whether a body is refused.** -/
def IsRefused (body : Option (List UInt8)) : Prop := ∃ reply, Refusal body reply

/-- A request has nothing to ask exactly if there is nothing but blanks in its query. -/
theorem isBlank_iff (q : GraphGateway.Request) :
    isBlank q = true ↔ ∀ c ∈ q.query.toList, Text.isBlank c = true :=
  List.all_eq_true

/-- A body that is read is refused exactly if one of its requests has nothing to ask. -/
theorem isRefused_iff_of_asked {octets : List UInt8} {a : Asked} (h : asked octets = .ok a) :
    IsRefused (some octets) ↔ a.requests.any isBlank = true := by
  rw [List.any_eq_true]
  constructor
  · rintro ⟨reply, hrefused⟩
    cases hrefused with
    | unreadable hfault => cases h.symm.trans hfault
    | @blank _ a' q ha' hq hblank =>
      obtain rfl := Except.ok.inj (h.symm.trans ha')
      exact ⟨q, hq, (isBlank_iff q).mpr hblank⟩
  · rintro ⟨q, hq, hblank⟩
    exact ⟨_, .blank h hq ((isBlank_iff q).mp hblank)⟩

/-! ## Answers -/

variable {others : Registry → Registry → Prop} {d : Dispatcher} {r left : Registry}
  {events : List Event} {reply : Reply}

/-- **How a body is answered**, in which steps. -/
inductive Answered (others : Registry → Registry → Prop) (d : Dispatcher) :
    Option (List UInt8) → Registry → List Event → Reply → Registry → Prop where
  /-- It is refused, and nothing is done. -/
  | refused {body : Option (List UInt8)} {r : Registry} {reply : Reply} (h : Refusal body reply) :
    Answered others d body r [] (shared reply) r
  /-- It asks for one thing, and the answer is what comes of it. -/
  | one {octets : List UInt8} {q : GraphGateway.Request} {r left : Registry} {events : List Event}
    {response : Response} (h : ¬ IsRefused (some octets)) (hasked : asked octets = .ok (.one q))
    (hrun : Among others (d.respond q) r events response left) :
    Answered others d (some octets) r events (shared (json response.toJson)) left
  /-- It asks for several things, and the answer holds what comes of each. -/
  | several {octets : List UInt8} {qs : List GraphGateway.Request} {r left : Registry}
    {events : List Event} {responses : List Response} (h : ¬ IsRefused (some octets))
    (hasked : asked octets = .ok (.several qs))
    (hrun : Among others (d.routeAll qs) r events (.ok responses) left) :
    Answered others d (some octets) r events
      (shared (json (.array (responses.map Response.toJson)))) left
  /-- It asks for several things, and the answer is the error of one that fails. -/
  | failed {octets : List UInt8} {qs : List GraphGateway.Request} {r left : Registry}
    {events : List Event} {e : GatewayError} (h : ¬ IsRefused (some octets))
    (hasked : asked octets = .ok (.several qs))
    (hrun : Among others (d.routeAll qs) r events (.error e) left) :
    Answered others d (some octets) r events (shared (json (Response.ofError e.message).toJson))
      left

/-- What is done for what is asked. -/
def Asked.answer (d : Dispatcher) : Asked → Flow Reply
  | one q => Flow.bind (d.respond q) fun response => .done (json response.toJson)
  | several qs => Flow.bind (d.routeAll qs) fun result => .done (batchReply result)

/-- **A body is answered by what it asks for**, unless it is refused. -/
theorem answerBodyBy_eq (d : Dispatcher) (octets : List UInt8) :
    answerBodyBy d octets = match asked octets with
      | .error fault => .done (malformed octets fault)
      | .ok a => if a.requests.any isBlank then .done queryMissing else a.answer d := by
  unfold answerBodyBy asked
  cases isBatch octets with
  | true =>
    cases decodeText (.list (.record .request)) octets <;> rfl
  | false =>
    cases decodeText (.record .request) octets with
    | error fault => rfl
    | ok q =>
      show _ = if [q].any isBlank then _ else _
      rw [List.any_cons, List.any_nil, Bool.or_false]
      rfl

/-- **A client that posts to the gateway** gets the answer to the body. -/
theorem among_handleBy_post {target : String} {octets : List UInt8}
    (htarget : pathOf target = "/graphql") :
    Among others (handleBy d { method := "POST", target, body := some octets }) r events reply left
      ↔ ∃ answer, Among others (answerBodyBy d octets) r events answer left
        ∧ reply = shared answer := by
  have hhandle : handleBy d { method := "POST", target, body := some octets }
      = Flow.bind (answerBodyBy d octets) fun answer => .done (shared answer) := by
    unfold handleBy
    rw [htarget]
    rfl
  rw [hhandle]
  exact Flow.among_bind_done

/-- **Every body is answered in one of these ways.** -/
theorem answered_among {target : String} (htarget : pathOf target = "/graphql")
    {body : Option (List UInt8)}
    (h : Among others (handleBy d { method := "POST", target, body }) r events reply left) :
    Answered others d body r events reply left := by
  cases body with
  | none =>
    unfold handleBy at h
    rw [htarget] at h
    obtain ⟨rfl, rfl, rfl⟩ := Flow.among_done.mp h
    exact .refused .cut
  | some octets =>
    obtain ⟨answer, hanswer, rfl⟩ := (among_handleBy_post htarget).mp h
    rw [answerBodyBy_eq] at hanswer
    cases hasked : asked octets with
    | error fault =>
      rw [hasked] at hanswer
      obtain ⟨rfl, rfl, rfl⟩ := Flow.among_done.mp hanswer
      exact .refused (.unreadable hasked)
    | ok a =>
      rw [hasked] at hanswer
      dsimp only at hanswer
      by_cases hblank : a.requests.any isBlank = true
      · rw [if_pos hblank] at hanswer
        obtain ⟨rfl, rfl, rfl⟩ := Flow.among_done.mp hanswer
        obtain ⟨q, hq, hq'⟩ := List.any_eq_true.mp hblank
        exact .refused (.blank hasked hq ((isBlank_iff q).mp hq'))
      · rw [if_neg hblank] at hanswer
        have hasks := mt (isRefused_iff_of_asked hasked).mp hblank
        cases a with
        | one q =>
          obtain ⟨response, hrun, rfl⟩ := Flow.among_bind_done.mp hanswer
          exact .one hasks hasked hrun
        | several qs =>
          obtain ⟨result, hrun, rfl⟩ := Flow.among_bind_done.mp hanswer
          cases result with
          | ok responses => exact .several hasks hasked hrun
          | error e => exact .failed hasks hasked hrun

/-! ## What every answer has -/

/-- The headers that let pages from anywhere send requests and read the reply. -/
def sharingHeaders : List (String × String) :=
  [("access-control-allow-origin", "*"), ("access-control-allow-methods", "POST, GET, OPTIONS"),
    ("access-control-allow-headers", "Content-Type, Authorization")]

/-- A shared reply has these headers behind its own. -/
theorem headers_shared (reply : Reply) : (shared reply).headers = reply.headers ++ sharingHeaders :=
  List.append_assoc ..

namespace Answered

variable {body : Option (List UInt8)}

/-- Every answer has these headers. -/
theorem headers (h : Answered others d body r events reply left) :
    sharingHeaders ⊆ reply.headers := by
  cases h <;> exact headers_shared _ ▸ List.subset_append_right ..

/-- The status is 400 for a body that is refused, and 200 for any other. -/
theorem status (h : Answered others d body r events reply left) :
    reply.status = 400 ∧ IsRefused body ∨ reply.status = 200 ∧ ¬ IsRefused body := by
  cases h with
  | refused h => exact .inl ⟨by cases h <;> rfl, _, h⟩
  | one h => exact .inr ⟨rfl, h⟩
  | several h => exact .inr ⟨rfl, h⟩
  | failed h => exact .inr ⟨rfl, h⟩

/-- Nothing is done for a body that is refused. -/
theorem untouched (h : Answered others d body r events reply left) (hrefused : IsRefused body) :
    events = [] ∧ left = r := by
  cases h with
  | refused => exact ⟨rfl, rfl⟩
  | one h => exact absurd hrefused h
  | several h => exact absurd hrefused h
  | failed h => exact absurd hrefused h

/-- The answer to any other body is JSON. -/
theorem json (h : Answered others d body r events reply left) (hasks : ¬ IsRefused body) :
    ("content-type", "application/json") ∈ reply.headers
      ∧ ∃ v, reply.body = Json.compact v := by
  cases h with
  | refused h => exact absurd ⟨_, h⟩ hasks
  | one => exact ⟨List.mem_cons_self .., _, rfl⟩
  | several => exact ⟨List.mem_cons_self .., _, rfl⟩
  | failed => exact ⟨List.mem_cons_self .., _, rfl⟩

end Answered

/-- **Whether a body was answered as it should be**, in the steps taken and with the reply
given. -/
structure IsAnswered (others : Registry → Registry → Prop) (d : Dispatcher)
    (body : Option (List UInt8)) (r : Registry) (events : List Event) (reply : Reply)
    (left : Registry) : Prop where
  /-- The answer is what comes of what is asked. -/
  answered : Answered others d body r events reply left
  /-- The status is 400 for a body that is refused, and 200 for any other. -/
  status : reply.status = 400 ∧ IsRefused body ∨ reply.status = 200 ∧ ¬ IsRefused body
  /-- Nothing is done for a body that is refused. -/
  untouched : IsRefused body → events = [] ∧ left = r
  /-- The answer to any other body is JSON. -/
  json : ¬ IsRefused body → ("content-type", "application/json") ∈ reply.headers
    ∧ ∃ v, reply.body = Json.compact v
  /-- Pages from anywhere can send such a body and read the reply. -/
  headers : sharingHeaders ⊆ reply.headers
  /-- A body that is JSON is taken for several requests exactly if it is an array. -/
  array : ∀ before value behind, body = some (before ++ value ++ behind) →
    Json.Grammar.Blanks before → Json.Grammar.Blanks behind → Json.Grammar.IsValue value →
    (isBatch (before ++ value ++ behind) = true ↔ Json.Grammar.IsArray value)
  /-- A body that is read as a value is taken for several requests exactly if the value is an
  array. -/
  read : ∀ octets v, body = some octets → decodeText .any octets = .ok v →
    (isBatch octets = true ↔ ∃ values, v = .array values)

/-- **Every body is answered**, by any dispatcher and whatever other clients do in the meantime.
A body that breaks off, that is not read as what its first octet shows it for, or that has a query
with nothing but blanks gets the status 400, and nothing is done for it. Any other body gets the
status 200 and the response to its request, the responses to its requests, or the error of one
of them. -/
theorem isAnswered_among {target : String} (htarget : pathOf target = "/graphql")
    {body : Option (List UInt8)}
    (h : Among others (handleBy d { method := "POST", target, body }) r events reply left) :
    IsAnswered others d body r events reply left := by
  have hanswered := answered_among htarget h
  exact {
    answered := hanswered
    status := hanswered.status
    untouched := hanswered.untouched
    json := hanswered.json
    headers := hanswered.headers
    array := fun _ _ behind _ hbefore _ hvalue => isBatch_iff_isArray hbefore hvalue behind
    read := fun _ _ _ hread => isBatch_iff_of_decodeText hread }

/-! ## A request among others -/

/-- A client posts two requests, one of which has nothing to ask. -/
def halfBlankPost : Request where
  method := "POST"
  target := "/graphql"
  body := some (Text.Utf8.encode
    " [\x7b\"query\": \"\x7b Account \x7b id \x7d \x7d\"\x7d, \x7b\"query\": \" \"\x7d]")

/-- A client posts a request for accounts, with a member that is `null`. -/
def accountPost : Request where
  method := "POST"
  target := "/graphql?from=here"
  body := some (Text.Utf8.encode
    "\x7b\"query\": \"\x7b Account \x7b id \x7d \x7d\", \"variables\": null\x7d")

/-- The answer of the server of accounts. -/
def accountAnswer : Delivery :=
  .answer 200 (Text.Utf8.encode "\x7b\"errors\": [], \"data\": \x7b\"n\": -7, \"b\": []\x7d\x7d")
    true

/-- The response in this answer, with its members sorted. -/
def accountResponse : Response where
  data := some (.object [("b", .array []), ("n", .number (.negative 6))])
  errors := []
  extensions := none

/-- The request for accounts is routed and answered. -/
theorem among_accountAnswer :
    Among Registry.Becomes ((⟨.heuristic⟩ : Router).route accountRequest) shadowingRegistry
      (accountSteps accountAnswer) (.ok accountResponse) startedRegistry :=
  among_account accountAnswer

/-- The client who posts it gets the response. -/
theorem among_accountPost :
    Among Registry.Becomes (handleBy (Router.overHttp ⟨.heuristic⟩) accountPost) shadowingRegistry
      (accountSteps accountAnswer) (shared (json accountResponse.toJson)) startedRegistry := by
  refine (among_handleBy_post rfl).mpr ⟨json accountResponse.toJson, ?_, rfl⟩
  show Among _ (Flow.bind (Router.respond ⟨.heuristic⟩ accountRequest) _) _ _ _ _
  exact Flow.among_bind_done.mpr
    ⟨accountResponse, Flow.among_bind_done.mpr ⟨_, among_accountAnswer, rfl⟩, rfl⟩

/-- Both requests of the one client are refused, and nothing is done for either. The request of
the other is sent once, and what comes back is the reply. -/
theorem isAnswered_among_posts :
    (Among Eq (handleBy (Router.overHttp ⟨.heuristic⟩) halfBlankPost) Registry.empty []
        (shared queryMissing) Registry.empty
      ∧ (shared queryMissing).status = 400 ∧ IsRefused halfBlankPost.body)
      ∧ Among Registry.Becomes (handleBy (Router.overHttp ⟨.heuristic⟩) accountPost)
        shadowingRegistry (accountSteps accountAnswer) (shared (json accountResponse.toJson))
        startedRegistry
      ∧ (Flow.exchanges (accountSteps accountAnswer)).length = 1
      ∧ (shared (json accountResponse.toJson)).status = 200 ∧ ¬ IsRefused accountPost.body
      ∧ ("content-type", "application/json") ∈ (shared (json accountResponse.toJson)).headers := by
  have hrefused : Among Eq (handleBy (Router.overHttp ⟨.heuristic⟩) halfBlankPost) Registry.empty []
      (shared queryMissing) Registry.empty :=
    .done (shared queryMissing) Registry.empty
  refine ⟨⟨hrefused, ?_⟩, among_accountPost, rfl, ?_⟩
  · rcases (isAnswered_among rfl hrefused).status with hstatus | ⟨hstatus, -⟩
    · exact hstatus
    · cases hstatus
  · have hanswered := isAnswered_among rfl among_accountPost
    rcases hanswered.status with ⟨hstatus, -⟩ | ⟨hstatus, hasks⟩
    · cases hstatus
    · exact ⟨hstatus, hasks, (hanswered.json hasks).1⟩

end Http

end GraphGateway
