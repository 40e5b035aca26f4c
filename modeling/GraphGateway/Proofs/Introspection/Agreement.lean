import GraphGateway.Introspection.Client
import GraphGateway.Proofs.Routing.Steps
import GraphGateway.Proofs.Text.Sniffed
import GraphGateway.Proofs.Wire.Message
import GraphGateway.Proofs.Wire.Rereading

/-!
# Introspection and forwarding

An answer of a backend is read in two ways. Whoever forwards a request reads it as a response, at
once. Whoever asks for a schema reads it as any value first, takes the errors and the data out of
it, and reads each of them by itself. `Taken` says what the second way makes of an answer that the
first one finds to be successful, with no errors and with a schema in its data.

Mostly it takes the schema. A text that is read in both ways has the same errors and the same data
in both (`Wire.valueOf?_of_decodeText`). But errors that are `null` count as none for a response
only, and the second way refuses them. So the two do not agree on what a successful answer is
(`not_introspect_eq_ok`).
-/

namespace GraphGateway.Introspection

open Wire
open Backend (Answer)
open GraphGateway.Flow (Event Among)

variable {endpoint text : String} {schema : Schema} {response : Response}
  {members : List (String × Json)}

/-! ## Errors and data -/

/-- **The data and the errors of a response** are under their keys. -/
theorem columns_of_response (hnormal : (Json.object members).IsNormal)
    (h : valueOf? (.record .response) (.object members) = some response) :
    columnOf? (may "data" .any) (members.lookup "data").toList = some response.data
      ∧ columnOf? (many "errors" (.record .responseError)) (members.lookup "errors").toList
        = some response.errors := by
  rw [valueOf?_object, objectOf?] at h
  obtain ⟨values, hvalues, rfl⟩ := Option.map_eq_some_iff.mp h
  simp only [RecordKind.layout] at values hvalues
  rw [columnsOf?] at hvalues
  obtain ⟨found, hdata, hvalues⟩ := Option.bind_eq_some_iff.mp hvalues
  obtain ⟨rest, hrest, rfl⟩ := Option.map_eq_some_iff.mp hvalues
  rw [columnsOf?] at hrest
  obtain ⟨errors, herrors, hrest⟩ := Option.bind_eq_some_iff.mp hrest
  obtain ⟨⟨extensions, ⟨⟩⟩, -, rfl⟩ := Option.map_eq_some_iff.mp hrest
  rw [valuesUnder_of_sorted hnormal.sorted] at hdata herrors
  exact ⟨hdata, herrors⟩

/-- The data of a response are the data that are taken out of the object. -/
theorem dataOf_of_response (hnormal : (Json.object members).IsNormal)
    (h : valueOf? (.record .response) (.object members) = some response) {v : Json}
    (hdata : response.data = some v) : dataOf (.object members) = some v := by
  have hcolumn := (columns_of_response hnormal h).1
  rw [hdata] at hcolumn
  cases hlookup : members.lookup "data" with
  | none =>
    rw [hlookup] at hcolumn
    cases hcolumn
  | some u =>
    rw [hlookup] at hcolumn
    have hnull : u ≠ .null := by
      rintro rfl
      cases hcolumn
    have hvalue : valueOf? (.nullable .any) u = some (some v) := hcolumn
    rw [valueOf?_nullable _ hnull, hnormal.of_lookup hlookup] at hvalue
    obtain rfl := Option.some.inj (Option.some.inj hvalue)
    rw [dataOf, Json.member?, hlookup]
    cases u with
    | null => exact absurd rfl hnull
    | _ => rfl

/-- **A response without errors** has none to take out of the object, unless they are `null`. -/
theorem reportedErrors_of_response (hnormal : (Json.object members).IsNormal)
    (h : valueOf? (.record .response) (.object members) = some response)
    (herrors : response.errors = []) (hnull : members.lookup "errors" ≠ some .null) :
    reportedErrors (.object members) = .ok [] := by
  have hcolumn := (columns_of_response hnormal h).2
  rw [herrors] at hcolumn
  rw [reportedErrors, Json.member?]
  cases hlookup : members.lookup "errors" with
  | none => rfl
  | some u =>
    rw [hlookup] at hcolumn hnull
    have hvalue : valueOf? (.listOrNull (.record .responseError)) u = some [] := hcolumn
    rw [valueOf?_listOrNull_of_ne_null fun hu => hnull (congrArg some hu)] at hvalue
    exact (decodeValue_eq_ok_iff ..).mpr hvalue

/-- Errors that are `null` are refused. -/
theorem reportedErrors_of_null (hnull : members.lookup "errors" = some .null) :
    ∃ cause, reportedErrors (.object members) = .error cause
      ∧ cause.message = "invalid type: null, expected a sequence" := by
  rw [reportedErrors, Json.member?, hnull]
  exact ⟨_, rfl, by decide⟩

/-! ## Answers -/

/-- **What is made of a text** that is a response without errors and with a schema in its data. -/
inductive Taken (endpoint text : String) (schema : Schema) : Except GatewayError Schema → Prop where
  /-- The schema is taken out of an object whose errors are not `null`. -/
  | accepted {members : List (String × Json)} (hobject : DecodesAs .any text (.object members))
    (herrors : members.lookup "errors" ≠ some .null) : Taken endpoint text schema (.ok schema)
  /-- Errors that are `null` are refused. -/
  | nullErrors {members : List (String × Json)} (hobject : DecodesAs .any text (.object members))
    (herrors : members.lookup "errors" = some .null) :
    Taken endpoint text schema (.error (.unexpectedAnswer endpoint 200
      "invalid type: null, expected a sequence" text))
  /-- A response that is written as an array has no data to take. -/
  | noObject {items : List Json} (harray : DecodesAs .any text (.array items)) :
    Taken endpoint text schema (.error (.unexpectedAnswer endpoint 200
      "response has no data" text))
  /-- A member that a response does not know cannot be read. -/
  | unread {fault : Json.Fault}
    (hfault : decodeText .any (Text.Utf8.encode text) = .error fault) :
    Taken endpoint text schema (.error (.unexpectedAnswer endpoint 200
      (fault.message (Text.Utf8.encode text)) text))

/-- **One of these is made of the text.** -/
theorem taken_of_decodesAs (hresponse : DecodesAs (.record .response) text response)
    (herrors : response.errors = []) {v : Json} (hdata : response.data = some v)
    (hschema : decodeValue (.record .introspection) v = .ok schema) :
    Taken endpoint text schema (readSchema endpoint { status := 200, body := text }) := by
  rw [readSchema, if_neg (by simp), Answer.octets]
  dsimp only
  cases hany : decodeText .any (Text.Utf8.encode text) with
  | error fault => exact .unread hany
  | ok value =>
    have hvalue := valueOf?_of_decodeText hany hresponse
    have hnormal := (readable_of_decodeText hany).isNormal
    cases value with
    | null | bool | number | string => cases hvalue
    | array items => exact .noObject hany
    | object members =>
      dsimp only
      by_cases hnull : members.lookup "errors" = some .null
      · obtain ⟨cause, hcause, hmessage⟩ := reportedErrors_of_null hnull
        rw [hcause]
        dsimp only
        rw [Answer.unexpected, hmessage]
        exact .nullErrors hany hnull
      · rw [reportedErrors_of_response hnormal hvalue herrors hnull]
        dsimp only
        rw [dataOf_of_response hnormal hvalue hdata]
        dsimp only
        rw [hschema]
        exact .accepted hany hnull

/-- An answer that is read as a response has the status 200, and its text is read as the
response. -/
theorem of_readResponse_eq_ok {a : Answer} (h : Backend.readResponse endpoint a = .ok response) :
    a.status = 200 ∧ DecodesAs (.record .response) a.body response := by
  rw [Backend.readResponse] at h
  split at h
  · cases h
  · next hstatus =>
    split at h
    · next found hfound =>
      obtain rfl := Except.ok.inj h
      exact ⟨by simpa using hstatus, hfound⟩
    · cases h

/-! ## Runs -/

section

variable {others others' : Registry → Registry → Prop} {r r' left left' : Registry}
  {events : List Event} {call call' : Call} {delivery : Delivery} {body : List UInt8}

/-- What is made of the delivery that comes back. -/
theorem among_introspect {result : Except GatewayError Schema} :
    Among others (introspect endpoint) r [.exchange call delivery] result left
      ↔ left = r ∧ ∃ url, Url.ofEndpoint endpoint = .ok url
        ∧ call = { url, body := Json.compact (asRequest fullDocument) }
        ∧ result = (Answer.ofDelivery endpoint url delivery).bind (readSchema endpoint) :=
  Backend.among_exchange_andThen_single

/-- **What introspection makes of an answer that forwarding finds to be successful**, whatever
other clients do meanwhile: where a response came back, without errors and with a schema in its
data, the schema is taken, or the answer is refused in one of the ways of `Taken`. -/
theorem taken_of_among {request : Request} {result : Except GatewayError Schema} {v : Json}
    (hforward : Among others (Backend.forward endpoint request) r
      [.exchange call (.answer 200 body true)] (.ok response) left)
    (hintrospect : Among others' (introspect endpoint) r'
      [.exchange call' (.answer 200 body true)] result left')
    (herrors : response.errors = []) (hdata : response.data = some v)
    (hschema : decodeValue (.record .introspection) v = .ok schema) :
    Taken endpoint (Text.Sniffed.decode body) schema result := by
  obtain ⟨-, ⟨failure, -, hnone, -⟩ | ⟨url, delivery, hurl, hevents, hresponse⟩⟩ :=
    Backend.among_forward.mp hforward
  · cases hnone
  obtain ⟨-, rfl⟩ := Event.exchange.inj (List.singleton_inj.mp hevents)
  obtain ⟨-, url', -, -, rfl⟩ := among_introspect.mp hintrospect
  have hread : Backend.readResponse endpoint { status := 200, body := Text.Sniffed.decode body }
      = .ok response := hresponse.symm
  obtain ⟨-, hdecodes⟩ := of_readResponse_eq_ok hread
  exact taken_of_decodesAs hdecodes herrors hdata hschema

variable (others r) in
/-- A text in an answer can come back to whoever forwards a request, and to whoever asks for a
schema. -/
theorem among_of_decodesAs {url : Url} (hurl : Url.ofEndpoint endpoint = .ok url)
    (hmark : text.toList.head? ≠ some '\uFEFF')
    (hresponse : DecodesAs (.record .response) text response) (request : Request) :
    Among others (Backend.forward endpoint request) r
        [.exchange { url, body := Json.compact request.toJson }
          (.answer 200 (Text.Utf8.encode text) true)] (.ok response) r
      ∧ Among others (introspect endpoint) r
        [.exchange { url, body := Json.compact (asRequest fullDocument) }
          (.answer 200 (Text.Utf8.encode text) true)]
        (readSchema endpoint { status := 200, body := text }) r := by
  have hanswer : Answer.ofDelivery endpoint url (.answer 200 (Text.Utf8.encode text) true)
      = .ok { status := 200, body := text } := by
    rw [Answer.ofDelivery, if_pos rfl, Text.Sniffed.decode_encode hmark]
  have hread : Backend.responseIn endpoint url (.answer 200 (Text.Utf8.encode text) true)
      = .ok response := by
    rw [Backend.responseIn, hanswer]
    show Backend.readResponse endpoint _ = _
    rw [Backend.readResponse, if_neg (by simp)]
    dsimp only [Answer.octets]
    rw [(hresponse : decodeText (.record .response) (Text.Utf8.encode text) = .ok response)]
  refine ⟨?_, among_introspect.mpr ⟨rfl, url, hurl, rfl, by rw [hanswer]; rfl⟩⟩
  rw [← hread]
  exact Backend.among_forward.mpr ⟨rfl, .inr ⟨url, _, hurl, rfl, rfl⟩⟩

end

/-! ## A schema with errors that are null -/

/-- The address of a backend. -/
def schemaUrl : Url := { scheme := "http".toList, host := some "a".toList, tail := "/".toList }

/-- The text of an answer of the backend, with what it has as its errors. -/
def schemaText (errors : String) : String :=
  "\x7b\"data\":\x7b\"__schema\":\x7b\"types\":[\x7b\"kind\":\"OBJECT\",\"name\":\"Q\"" ++
  "\x7d]\x7d\x7d,\"errors\":" ++ errors ++ "\x7d"

/-- The data in the answers. -/
def schemaData : Json :=
  .object [("__schema", .object [("types",
    .array [.object [("kind", .string "OBJECT"), ("name", .string "Q")]])])]

/-- The response in the answers. -/
def schemaResponse : Response where
  data := some schemaData
  errors := []
  extensions := none

/-- The schema in the answers. -/
def answeredSchema : Schema where
  queryType := none
  mutationType := none
  subscriptionType := none
  types := [
    { kind := .object, name := "Q", description := none, fields := [], inputFields := []
      interfaces := [], enumValues := [], possibleTypes := [] }]
  directives := []

/-- The schema is in the data. -/
theorem decodeValue_schemaData :
    decodeValue (.record .introspection) schemaData = .ok answeredSchema :=
  rfl

/-- The address can be used. -/
theorem ofEndpoint_schemaUrl : Url.ofEndpoint "http://a/" = .ok schemaUrl := by decide +kernel

/-- **The schema is taken from an answer with an empty list of errors.** -/
theorem taken_schemaText :
    Among Eq (Backend.forward "http://a/" (.ofQuery "\x7bx\x7d")) .empty
        [.exchange { url := schemaUrl, body := Json.compact (Request.ofQuery "\x7bx\x7d").toJson }
          (.answer 200 (Text.Utf8.encode (schemaText "[]")) true)] (.ok schemaResponse) .empty
      ∧ Among Eq (introspect "http://a/") .empty
        [.exchange { url := schemaUrl, body := Json.compact (asRequest fullDocument) }
          (.answer 200 (Text.Utf8.encode (schemaText "[]")) true)] (.ok answeredSchema) .empty
      ∧ schemaResponse.errors = [] ∧ schemaResponse.data = some schemaData
      ∧ decodeValue (.record .introspection) schemaData = .ok answeredSchema
      ∧ Taken "http://a/" (Text.Sniffed.decode (Text.Utf8.encode (schemaText "[]")))
        answeredSchema (.ok answeredSchema) := by
  have htext : DecodesAs (.record .response) (schemaText "[]") schemaResponse := rfl
  obtain ⟨hforward, hintrospect⟩ := among_of_decodesAs Eq .empty
    ofEndpoint_schemaUrl (by decide) htext (.ofQuery "\x7bx\x7d")
  have hread : readSchema "http://a/" { status := 200, body := schemaText "[]" }
      = .ok answeredSchema := rfl
  rw [hread] at hintrospect
  exact ⟨hforward, hintrospect, rfl, rfl, decodeValue_schemaData,
    taken_of_among hforward hintrospect rfl rfl decodeValue_schemaData⟩

/-- **Introspection does not agree with forwarding** on what a successful answer is: an answer with
errors that are `null` brings a response without errors, and its schema is refused. -/
theorem not_introspect_eq_ok :
    ¬ ∀ (endpoint : String) (request : Request) (call call' : Call) (body : List UInt8)
      (response : Response) (members : List (String × Json)) (v : Json) (schema : Schema)
      (result : Except GatewayError Schema),
      Among Eq (Backend.forward endpoint request) .empty
        [.exchange call (.answer 200 body true)] (.ok response) .empty →
      Among Eq (introspect endpoint) .empty
        [.exchange call' (.answer 200 body true)] result .empty →
      DecodesAs .any (Text.Sniffed.decode body) (.object members) →
      response.errors = [] → response.data = some v →
      decodeValue (.record .introspection) v = .ok schema → result = .ok schema := by
  intro h
  have htext : DecodesAs (.record .response) (schemaText "null") schemaResponse := rfl
  have hmark : (schemaText "null").toList.head? ≠ some '\uFEFF' := by decide
  obtain ⟨hforward, hintrospect⟩ := among_of_decodesAs Eq .empty
    ofEndpoint_schemaUrl hmark htext (.ofQuery "\x7bx\x7d")
  have hobject : DecodesAs .any (Text.Sniffed.decode (Text.Utf8.encode (schemaText "null")))
      (.object [("data", schemaData), ("errors", .null)]) := by
    rw [Text.Sniffed.decode_encode hmark]
    rfl
  have hread : readSchema "http://a/" { status := 200, body := schemaText "null" }
      = .ok answeredSchema :=
    h _ _ _ _ _ _ _ _ _ _ hforward hintrospect hobject rfl rfl decodeValue_schemaData
  have hrefused : readSchema "http://a/" { status := 200, body := schemaText "null" }
      = .error (.unexpectedAnswer "http://a/" 200 "invalid type: null, expected a sequence"
        (schemaText "null")) := rfl
  cases hread.symm.trans hrefused

end GraphGateway.Introspection
