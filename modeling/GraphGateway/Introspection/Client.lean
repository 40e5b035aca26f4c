import GraphGateway.Backend.Exchange
import GraphGateway.Introspection.Document
import GraphGateway.Wire.Decode

/-!
# Asking backends about themselves

`probe` finds out whether a backend speaks GraphQL at all: any answer that
is an object and has data or errors will do, whatever its status.
`introspect` asks for the whole schema, and accepts only an answer with
the status 200, without errors, and with a schema in its data.

Whoever else can do both is an `Introspector` too. All that is asked of it is
to stay away from the registry.
-/

namespace GraphGateway

namespace Introspection

open Backend (Answer exchange)

/-- A query as it is sent. -/
def asRequest (document : String) : Json := .object [("query", .string document)]

/-- **Whether an answer comes from a backend that speaks GraphQL.** -/
def checkProbe (endpoint : String) (a : Answer) : Except GatewayError Unit :=
  match Wire.decodeText .any a.octets with
  | .error fault =>
    .error (if a.isSuccess then a.unexpected endpoint (fault.message a.octets)
      else a.refused endpoint)
  | .ok value =>
    let value : Json := value
    if !value.isObject then
      .error (if a.isSuccess then a.unexpected endpoint "expected a JSON object"
        else a.refused endpoint)
    else if (value.member? "data").isSome || (value.member? "errors").isSome || a.isSuccess then
      .ok ()
    else .error (a.refused endpoint)

/-- **Checks that an address belongs to a backend.** -/
def probe (endpoint : String) : Flow.Fallible Unit :=
  Flow.andThen (exchange endpoint (asRequest probeDocument)) fun a =>
    .done (checkProbe endpoint a)

/-- The errors that an answer reports; an answer without them has none. -/
def reportedErrors (value : Json) : Except Json.Cause (List ResponseError) :=
  match value.member? "errors" with
  | some errors => Wire.decodeValue (.list (.record .responseError)) errors
  | none => .ok []

/-- The data of an answer, if it has any. -/
def dataOf (value : Json) : Option Json :=
  match value.member? "data" with
  | some .null => none
  | found => found

/-- **The schema in an answer.** -/
def readSchema (endpoint : String) (a : Answer) : Except GatewayError Schema :=
  if a.status != 200 then .error (a.refused endpoint)
  else
    match Wire.decodeText .any a.octets with
    | .error fault => .error (a.unexpected endpoint (fault.message a.octets))
    | .ok value =>
      match reportedErrors value with
      | .error cause => .error (a.unexpected endpoint cause.message)
      | .ok (e :: errors) =>
        .error (.backendErrors endpoint ((e :: errors).map ResponseError.message))
      | .ok [] =>
        match dataOf value with
        | none => .error (a.unexpected endpoint "response has no data")
        | some data =>
          match Wire.decodeValue (.record .introspection) data with
          | .error cause => .error (a.unexpected endpoint cause.message)
          | .ok schema => .ok schema

/-- **Asks a backend for its schema.** -/
def introspect (endpoint : String) : Flow.Fallible Schema :=
  Flow.andThen (exchange endpoint (asRequest fullDocument)) fun a =>
    .done (readSchema endpoint a)

/-- An exchange stays away from the registry, whatever is done with the
answer. -/
theorem isOutside_exchange {α : Type} (endpoint : String) (value : Json)
    (f : Answer → Except GatewayError α) :
    (Flow.andThen (exchange endpoint value) fun a => .done (f a)).IsOutside := by
  unfold exchange
  cases Url.ofEndpoint endpoint with
  | error failure => trivial
  | ok url =>
    intro delivery
    show (Flow.bind (.done (Answer.ofDelivery endpoint url delivery)) _).IsOutside
    cases Answer.ofDelivery endpoint url delivery <;> trivial

end Introspection

open Introspection (isOutside_exchange)

/-- **Somebody who asks backends about themselves**, in whatever way. -/
structure Introspector where
  /-- Checks that an address belongs to a backend. -/
  probe : String → Flow.Fallible Unit
  /-- Asks a backend for its schema. -/
  introspect : String → Flow.Fallible Schema
  /-- A check stays away from the registry. -/
  probe_isOutside : ∀ endpoint, (probe endpoint).IsOutside
  /-- An introspection stays away from the registry. -/
  introspect_isOutside : ∀ endpoint, (introspect endpoint).IsOutside

/-- The introspector that sends queries to the backends. -/
def Introspector.overHttp : Introspector where
  probe := Introspection.probe
  introspect := Introspection.introspect
  probe_isOutside endpoint := isOutside_exchange endpoint ..
  introspect_isOutside endpoint := isOutside_exchange endpoint ..

end GraphGateway
