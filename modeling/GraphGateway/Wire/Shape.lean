import GraphGateway.Config.Basic
import GraphGateway.Json.Basic
import GraphGateway.Message
import GraphGateway.Registry.Server

/-!
# Shapes of data

A `Shape` describes what a JSON value must look like to stand for a value
of the library, and `Shape.Carrier` is the type of those values. The
records of the library are shapes too: each is a list of members, and a
member has a key, a shape, and a value to take where it is absent.

Shapes are plain data, so that reading is one function on them, and a
statement about reading is proved once and not once for each type.
-/

namespace GraphGateway.Wire

open Time (Instant)

/-- **The widths of whole numbers.** -/
inductive Width where
  /-- 16 bits. -/
  | short
  /-- 32 bits. -/
  | medium
  /-- 64 bits. -/
  | long
  deriving DecidableEq

/-- The numbers of a width. -/
abbrev Width.Carrier : Width → Type
  | short => UInt16
  | medium => UInt32
  | long => UInt64

/-- The name of a width in messages. -/
def Width.name : Width → String
  | short => "u16"
  | medium => "u32"
  | long => "u64"

/-- A number that fits the width. -/
def Width.ofNat? : (w : Width) → Nat → Option w.Carrier
  | short, n => if n < 65536 then some (UInt16.ofNat n) else none
  | medium, n => if n < 4294967296 then some (UInt32.ofNat n) else none
  | long, n => if n < 18446744073709551616 then some (UInt64.ofNat n) else none

/-- **The types whose values are written as one of several names.** -/
inductive Choice where
  /-- The kinds of types. -/
  | typeKind
  /-- The types of operations. -/
  | operationType
  /-- The ways to find the field of a query. -/
  | extractorKind
  deriving DecidableEq

/-- The values that are chosen from. -/
abbrev Choice.Carrier : Choice → Type
  | typeKind => TypeKind
  | operationType => OperationType
  | extractorKind => ExtractorKind

/-- The names, each with its value. -/
def Choice.names : (c : Choice) → List (String × c.Carrier)
  | typeKind =>
    [("SCALAR", .scalar), ("OBJECT", .object), ("INTERFACE", .interface), ("UNION", .union),
      ("ENUM", .enum), ("INPUT_OBJECT", .inputObject), ("LIST", .list), ("NON_NULL", .nonNull)]
  | operationType =>
    [("query", .query), ("mutation", .mutation), ("subscription", .subscription)]
  | extractorKind => [("heuristic", .heuristic), ("document", .document)]

/-- **The records.** -/
inductive RecordKind where
  /-- A request. -/
  | request
  /-- A response. -/
  | response
  /-- An error of a response. -/
  | responseError
  /-- A place in a query. -/
  | location
  /-- A reference to a type. -/
  | typeRef
  /-- A reference to a root type, which is an object type unless it says
  otherwise. -/
  | rootType
  /-- An argument. -/
  | inputValue
  /-- A field. -/
  | field
  /-- A value of an enumeration. -/
  | enumValue
  /-- A directive. -/
  | directive
  /-- A definition of a type. -/
  | typeDefinition
  /-- A schema. -/
  | schema
  /-- The data of an introspection, which is a schema under a key. -/
  | introspection
  /-- A registered server. -/
  | server
  /-- The settings of a gateway. -/
  | config
  deriving DecidableEq

/-- The values that a record stands for. -/
abbrev RecordKind.Carrier : RecordKind → Type
  | request => Request
  | response => Response
  | responseError => ResponseError
  | location => Location
  | typeRef => TypeRef
  | rootType => TypeRef
  | inputValue => InputValue
  | field => Field
  | enumValue => EnumValue
  | directive => Directive
  | typeDefinition => TypeDefinition
  | schema => Schema
  | introspection => Schema
  | server => Server
  | config => Config

/-- The name of a record in messages. -/
def RecordKind.name : RecordKind → String
  | request => "GraphQLRequest"
  | response => "GraphQLResponse"
  | responseError => "GraphQLError"
  | location => "ErrorLocation"
  | typeRef => "TypeRef"
  | rootType => "RootType"
  | inputValue => "InputValue"
  | field => "Field"
  | enumValue => "EnumValue"
  | directive => "Directive"
  | typeDefinition => "SchemaType"
  | schema => "Schema"
  | introspection => "IntrospectionData"
  | server => "ServerRecord"
  | config => "GatewayConfig"

/-- **What a JSON value must look like.** -/
inductive Shape where
  /-- A text. -/
  | text
  /-- A text that names a file. -/
  | path
  /-- A text that is a timestamp. -/
  | timestamp
  /-- A truth value. -/
  | flag
  /-- A whole number of a width. -/
  | whole (w : Width)
  /-- One of several names. -/
  | choice (c : Choice)
  /-- The value `null`. -/
  | nothing
  /-- Any value at all. -/
  | any
  /-- Any object. -/
  | members
  /-- A value, or `null` for none. -/
  | nullable (s : Shape)
  /-- An array. -/
  | list (s : Shape)
  /-- An array, or `null` for the empty one. -/
  | listOrNull (s : Shape)
  /-- An object whose members all have one shape. -/
  | map (s : Shape)
  /-- A record. -/
  | record (k : RecordKind)
  deriving DecidableEq

/-- **The values of a shape.** -/
abbrev Shape.Carrier : Shape → Type
  | text => String
  | path => String
  | timestamp => Instant
  | flag => Bool
  | whole w => w.Carrier
  | choice c => c.Carrier
  | nothing => Unit
  | any => Json
  | members => List (String × Json)
  | nullable s => Option s.Carrier
  | list s => List s.Carrier
  | listOrNull s => List s.Carrier
  | map s => List (String × s.Carrier)
  | record k => k.Carrier

/-- What a message says is expected where a value of the shape should be. -/
def Shape.expected : Shape → String
  | text => "a string"
  | path => "path string"
  | timestamp => "an RFC 3339 formatted date and time string"
  | flag => "a boolean"
  | whole w => w.name
  | choice _ => "string or map"
  | nothing => "unit"
  | any => "any value"
  | members => "a map"
  | nullable s => s.expected
  | list _ => "a sequence"
  | listOrNull _ => "a sequence"
  | map _ => "a map"
  | record k => "struct " ++ k.name

/-- **What an absent member stands for.** -/
inductive Absence (α : Type) where
  /-- Nothing: the member has to be there. -/
  | required
  /-- A value, where the record is written as an object; a record written
  as an array has to have the member. -/
  | inObject (value : α)
  /-- A value. -/
  | allowed (value : α)

/-- **A member of a record.** -/
structure MemberLayout where
  /-- The key. -/
  key : String
  /-- The shape of its value. -/
  shape : Shape
  /-- What it stands for when absent. -/
  absence : Absence shape.Carrier

/-- A member that has to be there. -/
def need (key : String) (shape : Shape) : MemberLayout := ⟨key, shape, .required⟩

/-- A member that may be absent or `null`. -/
def may (key : String) (shape : Shape) : MemberLayout := ⟨key, .nullable shape, .allowed none⟩

/-- A list that may be absent or `null`. -/
def many (key : String) (shape : Shape) : MemberLayout := ⟨key, .listOrNull shape, .allowed []⟩

/-- **The members of a record**, in the order in which an array gives
them. -/
def RecordKind.layout : RecordKind → List MemberLayout
  | request => [need "query" .text, may "variables" .any, may "operationName" .text]
  | response =>
    [may "data" .any, many "errors" (.record .responseError), may "extensions" .members]
  | responseError =>
    [need "message" .text, many "locations" (.record .location), many "path" .any,
      may "extensions" .members]
  | location => [need "line" (.whole .medium), need "column" (.whole .medium)]
  | typeRef =>
    [need "kind" (.choice .typeKind), may "name" .text, may "ofType" (.record .typeRef)]
  | rootType =>
    [may "kind" (.choice .typeKind), ⟨"name", .nullable .text, .inObject none⟩]
  | inputValue =>
    [need "name" .text, may "description" .text, need "type" (.record .typeRef),
      may "defaultValue" .text]
  | field =>
    [need "name" .text, may "description" .text, many "args" (.record .inputValue),
      need "type" (.record .typeRef), ⟨"isDeprecated", .flag, .allowed false⟩,
      may "deprecationReason" .text]
  | enumValue =>
    [need "name" .text, may "description" .text, ⟨"isDeprecated", .flag, .allowed false⟩,
      may "deprecationReason" .text]
  | directive =>
    [need "name" .text, may "description" .text, many "locations" .text,
      many "args" (.record .inputValue)]
  | typeDefinition =>
    [need "kind" (.choice .typeKind), ⟨"name", .text, .allowed ""⟩, may "description" .text,
      many "fields" (.record .field), many "inputFields" (.record .inputValue),
      many "interfaces" (.record .typeRef), many "enumValues" (.record .enumValue),
      many "possibleTypes" (.record .typeRef)]
  | schema =>
    [may "queryType" (.record .rootType), may "mutationType" (.record .rootType),
      may "subscriptionType" (.record .rootType), many "types" (.record .typeDefinition),
      many "directives" (.record .directive)]
  | introspection => [need "__schema" (.record .schema)]
  | server =>
    [need "id" .text, need "name" .text, need "endpoint" .text,
      ⟨"description", .text, .allowed ""⟩, may "schema" (.record .schema),
      need "added_at" .timestamp, need "updated_at" .timestamp, need "is_active" .flag]
  | config =>
    [⟨"registry_file", .path, .allowed Config.default.registryFile⟩,
      ⟨"log_level", .text, .allowed Config.default.logLevel⟩,
      ⟨"host", .text, .allowed Config.default.host⟩,
      ⟨"port", .whole .short, .allowed Config.default.port⟩,
      ⟨"request_timeout_secs", .whole .long, .allowed Config.default.requestTimeoutSecs⟩,
      ⟨"field_extractor", .choice .extractorKind, .allowed Config.default.extractor⟩]

/-- A value for every member. -/
abbrev Values : List MemberLayout → Type
  | [] => Unit
  | m :: rest => m.shape.Carrier × Values rest

/-- **The record with given values of its members.** -/
def RecordKind.build : (k : RecordKind) → Values k.layout → k.Carrier
  | request, (query, variableValues, operationName, ()) => { query, variableValues, operationName }
  | response, (data, errors, extensions, ()) => { data, errors, extensions }
  | responseError, (message, locations, path, extensions, ()) =>
    { message, locations, path, extensions }
  | location, (line, column, ()) => { line, column }
  | typeRef, (kind, name, inner, ()) => .mk kind name inner
  | rootType, (kind, name, ()) => .mk (kind.getD .object) name none
  | inputValue, (name, description, type, defaultValue, ()) =>
    { name, description, type, defaultValue }
  | field, (name, description, args, type, isDeprecated, deprecationReason, ()) =>
    { name, description, args, type, isDeprecated, deprecationReason }
  | enumValue, (name, description, isDeprecated, deprecationReason, ()) =>
    { name, description, isDeprecated, deprecationReason }
  | directive, (name, description, locations, args, ()) => { name, description, locations, args }
  | typeDefinition,
      (kind, name, description, fields, inputFields, interfaces, enumValues, possibleTypes, ()) =>
    { kind, name, description, fields, inputFields, interfaces, enumValues, possibleTypes }
  | schema, (queryType, mutationType, subscriptionType, types, directives, ()) =>
    { queryType, mutationType, subscriptionType, types, directives }
  | introspection, (s, ()) => s
  | server, (id, name, endpoint, description, s, addedAt, updatedAt, isActive, ()) =>
    { id, name, endpoint, description, schema := s, addedAt, updatedAt, isActive }
  | config, (registryFile, logLevel, host, port, requestTimeoutSecs, extractor, ()) =>
    { registryFile, logLevel, host, port, requestTimeoutSecs, extractor }

end GraphGateway.Wire
