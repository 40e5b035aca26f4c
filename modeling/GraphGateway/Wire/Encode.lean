import GraphGateway.Json.Basic
import GraphGateway.Time.Rfc3339
import GraphGateway.Wire.Shape

/-!
# Data as JSON

Every record is written as an object whose members stand in the order of
the record's layout. A member that stands for nothing is written as
`null`, left out, or written as an empty list, and which of the three is
part of the format: `orNull` writes `null`, `unlessNone` and `unlessEmpty`
leave the member out.
-/

namespace GraphGateway

open Json (ofScalar)

namespace Wire

/-- A member that is always there. -/
def always (key : String) (value : Json) : List (String × Json) := [(key, value)]

/-- A member that is `null` where there is no value. -/
def orNull (key : String) (value : Option Json) : List (String × Json) :=
  [(key, value.getD .null)]

/-- A member that is left out where there is no value. -/
def unlessNone (key : String) (value : Option Json) : List (String × Json) :=
  match value with
  | some v => [(key, v)]
  | none => []

/-- A list that is left out where it is empty. -/
def unlessEmpty (key : String) (items : List Json) : List (String × Json) :=
  if items.isEmpty then [] else [(key, .array items)]

/-- A list that is always there. -/
def alwaysList (key : String) (items : List Json) : List (String × Json) := [(key, .array items)]

/-- The name of a chosen value. -/
def nameOf (c : Choice) [BEq c.Carrier] (value : c.Carrier) : String :=
  ((c.names.find? fun entry => entry.2 == value).map Prod.fst).getD ""

end Wire

open Wire

/-- The name of a kind of type. -/
def TypeKind.toJson (k : TypeKind) : Json := .string (nameOf .typeKind k)

/-- The name of a type of operation. -/
def OperationType.toJson (t : OperationType) : Json := .string (nameOf .operationType t)

/-- The name of a way to find the field of a query. -/
def ExtractorKind.toJson (k : ExtractorKind) : Json := .string (nameOf .extractorKind k)

/-- A reference to a type. -/
def TypeRef.toJson : TypeRef → Json
  | mk kind name none =>
    .object (always "kind" kind.toJson ++ orNull "name" (name.map .string))
  | mk kind name (some inner) =>
    .object (always "kind" kind.toJson ++ orNull "name" (name.map .string) ++
      always "ofType" inner.toJson)

/-- An argument. -/
def InputValue.toJson (v : InputValue) : Json :=
  .object (always "name" (.string v.name) ++ orNull "description" (v.description.map .string) ++
    always "type" v.type.toJson ++ orNull "defaultValue" (v.defaultValue.map .string))

/-- A field. -/
def Field.toJson (f : Field) : Json :=
  .object (always "name" (.string f.name) ++ orNull "description" (f.description.map .string) ++
    alwaysList "args" (f.args.map InputValue.toJson) ++ always "type" f.type.toJson ++
    always "isDeprecated" (.bool f.isDeprecated) ++
    orNull "deprecationReason" (f.deprecationReason.map .string))

/-- A value of an enumeration. -/
def EnumValue.toJson (v : EnumValue) : Json :=
  .object (always "name" (.string v.name) ++ orNull "description" (v.description.map .string) ++
    always "isDeprecated" (.bool v.isDeprecated) ++
    orNull "deprecationReason" (v.deprecationReason.map .string))

/-- A directive. -/
def Directive.toJson (d : Directive) : Json :=
  .object (always "name" (.string d.name) ++ orNull "description" (d.description.map .string) ++
    alwaysList "locations" (d.locations.map .string) ++
    alwaysList "args" (d.args.map InputValue.toJson))

/-- A definition of a type. -/
def TypeDefinition.toJson (t : TypeDefinition) : Json :=
  .object (always "kind" t.kind.toJson ++ always "name" (.string t.name) ++
    orNull "description" (t.description.map .string) ++
    unlessEmpty "fields" (t.fields.map Field.toJson) ++
    unlessEmpty "inputFields" (t.inputFields.map InputValue.toJson) ++
    unlessEmpty "interfaces" (t.interfaces.map TypeRef.toJson) ++
    unlessEmpty "enumValues" (t.enumValues.map EnumValue.toJson) ++
    unlessEmpty "possibleTypes" (t.possibleTypes.map TypeRef.toJson))

/-- **A schema.** -/
def Schema.toJson (s : Schema) : Json :=
  .object (orNull "queryType" (s.queryType.map TypeRef.toJson) ++
    orNull "mutationType" (s.mutationType.map TypeRef.toJson) ++
    orNull "subscriptionType" (s.subscriptionType.map TypeRef.toJson) ++
    alwaysList "types" (s.types.map TypeDefinition.toJson) ++
    alwaysList "directives" (s.directives.map Directive.toJson))

/-- A request. -/
def Request.toJson (r : Request) : Json :=
  .object (always "query" (.string r.query) ++ unlessNone "variables" r.variableValues ++
    unlessNone "operationName" (r.operationName.map .string))

/-- A place in a query. -/
def Location.toJson (l : Location) : Json :=
  .object (always "line" (.ofNat l.line.toNat) ++ always "column" (.ofNat l.column.toNat))

/-- An error of a response. -/
def ResponseError.toJson (e : ResponseError) : Json :=
  .object (always "message" (.string e.message) ++
    unlessEmpty "locations" (e.locations.map Location.toJson) ++ unlessEmpty "path" e.path ++
    unlessNone "extensions" (e.extensions.map .object))

/-- **A response.** -/
def Response.toJson (r : Response) : Json :=
  .object (unlessNone "data" r.data ++ unlessEmpty "errors" (r.errors.map ResponseError.toJson) ++
    unlessNone "extensions" (r.extensions.map .object))

/-- **A registered server.** -/
def Server.toJson (s : Server) : Json :=
  .object (always "id" (.string s.id) ++ always "name" (.string s.name) ++
    always "endpoint" (.string s.endpoint) ++ always "description" (.string s.description) ++
    orNull "schema" (s.schema.map Schema.toJson) ++ always "added_at" (.string s.addedAt.text) ++
    always "updated_at" (.string s.updatedAt.text) ++ always "is_active" (.bool s.isActive))

/-- The settings of a gateway. -/
def Config.toJson (c : Config) : Json :=
  .object (always "registry_file" (.string c.registryFile) ++
    always "log_level" (.string c.logLevel) ++ always "host" (.string c.host) ++
    always "port" (.ofNat c.port.toNat) ++
    always "request_timeout_secs" (.ofNat c.requestTimeoutSecs.toNat) ++
    always "field_extractor" c.extractor.toJson)

end GraphGateway
