import GraphGateway.Proofs.Introspection.Agreement
import GraphGateway.Proofs.Registry.Admission

/-!
# What the check of an address makes of a reply

A backend that is checked may reply with any status and any body. Its reply is accepted if the
body is an object and either has data or errors, whatever these are, or comes with a status that
says that all went well (`Accepts`). All other replies fall into two kinds by their status, and
the error tells the status and the text that came (`Probed`, `probed_checkProbe`).

An introspection asks for more: for the status 200 and for data, which only an object has. So a
reply in which a schema is found is accepted by the check (`accepts_of_readSchema`), and whoever
gives one such reply to both requests of a registration is registered, or the id is taken
(`classifies_reply`).
-/

namespace GraphGateway.Introspection

open Wire
open Backend (Answer)
open GraphGateway.Flow (Event Among Takes)

variable {endpoint : String} {a : Answer} {schema : Schema}

/-- **Whether an answer shows a backend that speaks GraphQL.** -/
def Accepts (a : Answer) : Prop :=
  ∃ members, DecodesAs .any a.body (.object members)
    ∧ ("data" ∈ members.map Prod.fst ∨ "errors" ∈ members.map Prod.fst
      ∨ 200 ≤ a.status ∧ a.status < 300)

/-- **What the check makes of an answer.** -/
inductive Probed (endpoint : String) (a : Answer) : Except GatewayError Unit → Prop where
  /-- A backend that speaks GraphQL has answered. -/
  | accepted (h : Accepts a) : Probed endpoint a (.ok ())
  /-- The status says that not all went well. -/
  | refused (h : ¬ Accepts a) (hstatus : ¬ (200 ≤ a.status ∧ a.status < 300)) :
    Probed endpoint a (.error (.refused endpoint a.status a.body))
  /-- The body is no object. -/
  | unexpected (reason : String) (h : ¬ Accepts a) (hstatus : 200 ≤ a.status ∧ a.status < 300) :
    Probed endpoint a (.error (.unexpectedAnswer endpoint a.status reason a.body))

/-- Whether all went well is a matter of the first digit of the status. -/
theorem isSuccess_iff : a.isSuccess = true ↔ 200 ≤ a.status ∧ a.status < 300 := by
  simp [Answer.isSuccess]

/-- A member that is found is one of the members. -/
theorem isSome_member?_object {members : List (String × Json)} {key : String} :
    ((Json.object members).member? key).isSome = true ↔ key ∈ members.map Prod.fst := by
  rw [Json.member?, Option.isSome_iff_ne_none, ne_eq, List.lookup_eq_none_iff]
  simp

/-- **One of these is made of every answer.** -/
theorem probed_checkProbe (endpoint : String) (a : Answer) :
    Probed endpoint a (checkProbe endpoint a) := by
  -- what is not accepted is told by its status
  have hrefused : ∀ reason, ¬ Accepts a → Probed endpoint a
      (.error (if a.isSuccess then a.unexpected endpoint reason else a.refused endpoint)) := by
    intro reason hnot
    split
    · next hsuccess => exact .unexpected reason hnot (isSuccess_iff.mp hsuccess)
    · next hsuccess => exact .refused hnot fun h => hsuccess (isSuccess_iff.mpr h)
  rw [checkProbe]
  cases hvalue : decodeText .any a.octets with
  | error fault =>
    exact hrefused _ fun ⟨members, hobject, _⟩ => by cases hvalue.symm.trans hobject
  | ok value =>
    dsimp only
    cases value with
    | object members =>
      rw [if_neg (by simp [Json.isObject])]
      split
      · next hmarked =>
        refine .accepted ⟨members, hvalue, ?_⟩
        rwa [Bool.or_eq_true, Bool.or_eq_true, isSome_member?_object, isSome_member?_object,
          isSuccess_iff, or_assoc] at hmarked
      · next hmarked =>
        have hnot : ¬ Accepts a := by
          rintro ⟨other, hobject, hmarked'⟩
          obtain rfl : members = other :=
            Json.object.inj (Except.ok.inj (hvalue.symm.trans hobject))
          refine hmarked ?_
          rwa [Bool.or_eq_true, Bool.or_eq_true, isSome_member?_object, isSome_member?_object,
            isSuccess_iff, or_assoc]
        refine .refused hnot fun hstatus => hmarked ?_
        rw [isSuccess_iff.mpr hstatus, Bool.or_true]
    | _ =>
      rw [if_pos (by rfl)]
      exact hrefused _ fun ⟨members, hobject, _⟩ => by cases hvalue.symm.trans hobject

/-- An error page that has errors is accepted, even if these are `null`. -/
example : checkProbe "http://a/" { status := 502, body := "\x7b\"errors\":null\x7d" } = .ok () :=
  rfl

/-- An answer with a schema has the status 200 and is an object with data. -/
theorem accepts_of_readSchema (h : readSchema endpoint a = .ok schema) : Accepts a := by
  rw [readSchema] at h
  split at h
  · cases h
  · next hstatus =>
    have hstatus : a.status = 200 := by simpa using hstatus
    split at h
    · cases h
    · next value hvalue =>
      split at h
      · cases h
      · cases h
      · split at h
        · cases h
        · next data hdata =>
          cases value with
          | object members => exact ⟨members, hvalue, .inr (.inr (by omega))⟩
          | _ => cases hdata

/-! ## Replies -/

variable {status : Nat} {body : List UInt8} {others : Registry → Registry → Prop}
  {r left : Registry} {events : List Event} {call : Call}

/-- The answer of a reply: its body is read as text. -/
def answerOf (status : Nat) (body : List UInt8) : Answer := ⟨status, Text.Sniffed.decode body⟩

/-- **What is made of each reply**, with whatever status and body. -/
structure ClassifiesReply (status : Nat) (body : List UInt8) : Prop where
  /-- The check accepts it, or fails with an error that tells the status and the text. -/
  probed : ∀ {others r endpoint call result left},
    Among others (probe endpoint) r [.exchange call (.answer status body true)] result left →
      Probed endpoint (answerOf status body) result
  /-- It can be the reply of any backend that has an address. -/
  exists_probed : ∀ others r {endpoint url}, Url.ofEndpoint endpoint = .ok url →
    ∃ call result,
      Among others (probe endpoint) r [.exchange call (.answer status body true)] result r
  /-- The check accepts it if an introspection finds a schema in it. -/
  introspected : ∀ {others r endpoint call schema left},
    Among others (introspect endpoint) r [.exchange call (.answer status body true)] (.ok schema)
      left → Accepts (answerOf status body)
  /-- If it has a schema and is the reply to every request of a registration, the server is
  registered with the schema, or the id is taken. -/
  registered : ∀ {others others' r r' request call schema events result left left'},
    Among others' (introspect request.endpoint) r' [.exchange call (.answer status body true)]
      (.ok schema) left' →
    Among others (Registration.register request) r events result left →
    (∀ x ∈ Flow.exchanges events, x.2 = .answer status body true) →
      (∃ id, result = .error (.serverExists id))
        ∨ ∃ server, result = .ok server ∧ server.schema = some schema

/-- What is made of the one reply that comes to an address that can be used. -/
theorem eq_of_takes {α : Type} {value : Json} {f : Answer → Except GatewayError α}
    {result : Except GatewayError α} {url : Url} (hurl : Url.ofEndpoint endpoint = .ok url)
    (h : Takes (Flow.andThen (Backend.exchange endpoint value) fun a => .done (f a)) events
      (.done result))
    (hreply : ∀ x ∈ Flow.exchanges events, x.2 = .answer status body true) :
    result = f (answerOf status body) := by
  obtain ⟨_, hrun⟩ := h.among .empty
  obtain ⟨-, ⟨failure, hnone, -⟩ | ⟨url', delivery, -, rfl, rfl⟩⟩ :=
    Backend.among_exchange_andThen.mp hrun
  · cases hurl.symm.trans hnone
  · obtain rfl : delivery = .answer status body true := hreply _ (List.mem_singleton.mpr rfl)
    rfl

/-- **A reply with a schema registers its server**, or the id is taken. -/
theorem registered_of_readSchema {request : Registration} {url : Url}
    {result : Except GatewayError Server} (hurl : Url.ofEndpoint request.endpoint = .ok url)
    (hschema : readSchema request.endpoint (answerOf status body) = .ok schema)
    (h : Among others request.register r events result left)
    (hreply : ∀ x ∈ Flow.exchanges events, x.2 = .answer status body true) :
    (∃ id, result = .error (.serverExists id))
      ∨ ∃ server, result = .ok server ∧ server.schema = some schema := by
  have hasked : ∀ {asked : List Event}, asked.Sublist events →
      ∀ x ∈ Flow.exchanges asked, x.2 = .answer status body true :=
    fun hsub x hx => hreply x ((hsub.filterMap _).subset hx)
  cases Registration.went_of_takes h.takes with
  | taken => exact .inl ⟨_, rfl⟩
  | overtaken => exact .inl ⟨_, rfl⟩
  | @unchecked now seen free e asked _ hcheck =>
    have hresult := eq_of_takes hurl hcheck (hasked (List.sublist_cons_self ..))
    have hprobed := probed_checkProbe request.endpoint (answerOf status body)
    rw [← hresult] at hprobed
    cases hprobed <;> exact absurd (accepts_of_readSchema hschema) ‹_›
  | @unread now seen free e asked answered _ _ hread =>
    have hresult := eq_of_takes hurl hread (hasked ((List.sublist_append_right ..).cons _))
    cases hresult.trans hschema
  | @added now read now' seen seen' left free asked answered found _ _ hread =>
    have hresult := eq_of_takes hurl hread (hasked (((List.sublist_append_left ..).trans
      (List.sublist_append_right ..)).cons _))
    obtain rfl := Except.ok.inj (hresult.trans hschema)
    exact .inr ⟨_, rfl, rfl⟩

/-- **What is made of each reply**, whatever its status and its body are: the check accepts it if
it is an object and has data or errors or the status says that all went well, and otherwise
fails with the status and the text. So it accepts each reply in which an introspection finds a
schema, and a registration with two such replies does not fail at the check. -/
theorem classifies_reply (status : Nat) (body : List UInt8) : ClassifiesReply status body where
  probed h := by
    obtain ⟨-, url, -, -, rfl⟩ := Backend.among_exchange_andThen_single.mp h
    exact probed_checkProbe ..
  exists_probed others r endpoint url hurl :=
    ⟨_, _, Backend.among_exchange_andThen_single.mpr ⟨rfl, url, hurl, rfl, rfl⟩⟩
  introspected h := by
    obtain ⟨-, url, -, -, hschema⟩ := among_introspect.mp h
    exact accepts_of_readSchema hschema.symm
  registered hschema hrun hreply := by
    obtain ⟨-, url, hurl, -, hschema⟩ := among_introspect.mp hschema
    exact registered_of_readSchema hurl hschema.symm hrun hreply

end GraphGateway.Introspection
