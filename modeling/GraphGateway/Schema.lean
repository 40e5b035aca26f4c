/-!
# GraphQL schemas

A `Schema` is what a backend says about itself when it is asked for its
types: its root types, every type with its fields, and its directives. It
is taken from one answer as a whole and never changed afterwards.

What the gateway asks of a schema is whether it declares a name: as a
root type or a type (`declaresType`), or as a type or a field of one
(`declaresTypeOrField`).
-/

namespace GraphGateway

/-- **The kinds of types.** -/
inductive TypeKind where
  /-- A type of indivisible values. -/
  | scalar
  /-- A type with fields. -/
  | object
  /-- A set of fields that several types have. -/
  | interface
  /-- A choice between object types. -/
  | union
  /-- A type with a fixed list of values. -/
  | enum
  /-- A type of structured arguments. -/
  | inputObject
  /-- A list of another type. -/
  | list
  /-- Another type without its null. -/
  | nonNull
  deriving DecidableEq, Repr

/-- **A reference to a type**: a named type, or a wrapper around another
reference. A reference may lack its name, its inner reference, or both. -/
inductive TypeRef where
  /-- A reference. -/
  | mk (kind : TypeKind) (name : Option String) (inner : Option TypeRef)
  deriving Repr

namespace TypeRef

/-- The kind of the outermost type. -/
def kind : TypeRef → TypeKind
  | mk kind _ _ => kind

/-- The name of the outermost type. -/
def name : TypeRef → Option String
  | mk _ name _ => name

/-- The reference inside the outermost one. -/
def inner : TypeRef → Option TypeRef
  | mk _ _ inner => inner

/-- A reference to a type by its name. -/
def named (kind : TypeKind) (name : String) : TypeRef := mk kind (some name) none

/-- A wrapper around a reference. -/
def wrap (kind : TypeKind) (inner : TypeRef) : TypeRef := mk kind none (some inner)

/-- **The name of the type inside all wrappers**: the first name on the
way inwards. -/
def baseName : TypeRef → Option String
  | mk _ (some name) _ => some name
  | mk _ none (some inner) => inner.baseName
  | mk _ none none => none

end TypeRef

/-- An argument, or a field of a type of arguments. -/
structure InputValue where
  /-- Its name. -/
  name : String
  /-- What it is for. -/
  description : Option String
  /-- The type of its values. -/
  type : TypeRef
  /-- The value that it has when none is given, as a GraphQL literal. -/
  defaultValue : Option String
  deriving Repr

/-- A field of a type. -/
structure Field where
  /-- Its name. -/
  name : String
  /-- What it is for. -/
  description : Option String
  /-- The arguments that it takes. -/
  args : List InputValue
  /-- The type of its values. -/
  type : TypeRef
  /-- Whether it should no longer be used. -/
  isDeprecated : Bool
  /-- Why not. -/
  deprecationReason : Option String
  deriving Repr

/-- A value of an enumeration. -/
structure EnumValue where
  /-- Its name. -/
  name : String
  /-- What it means. -/
  description : Option String
  /-- Whether it should no longer be used. -/
  isDeprecated : Bool
  /-- Why not. -/
  deprecationReason : Option String
  deriving Repr

/-- A directive. -/
structure Directive where
  /-- Its name. -/
  name : String
  /-- What it does. -/
  description : Option String
  /-- Where it may stand. -/
  locations : List String
  /-- The arguments that it takes. -/
  args : List InputValue
  deriving Repr

/-- **The definition of a type.** The lists that do not apply to its kind
are empty. -/
structure TypeDefinition where
  /-- The kind of the type. -/
  kind : TypeKind
  /-- Its name. -/
  name : String
  /-- What it stands for. -/
  description : Option String
  /-- The fields of an object or an interface. -/
  fields : List Field
  /-- The fields of a type of arguments. -/
  inputFields : List InputValue
  /-- The interfaces that it implements. -/
  interfaces : List TypeRef
  /-- The values of an enumeration. -/
  enumValues : List EnumValue
  /-- The types that an interface or a union may be. -/
  possibleTypes : List TypeRef
  deriving Repr

/-- Whether the type has a field of a name. -/
def TypeDefinition.hasField (t : TypeDefinition) (name : String) : Bool :=
  t.fields.any fun field => field.name == name

/-- **A schema.** -/
structure Schema where
  /-- The type of queries. -/
  queryType : Option TypeRef
  /-- The type of mutations. -/
  mutationType : Option TypeRef
  /-- The type of subscriptions. -/
  subscriptionType : Option TypeRef
  /-- All types. -/
  types : List TypeDefinition
  /-- All directives. -/
  directives : List Directive
  deriving Repr

namespace Schema

/-- The names of the root types for queries, mutations and subscriptions,
in this order. -/
def rootTypeNames (s : Schema) : List String :=
  [s.queryType, s.mutationType, s.subscriptionType].filterMap fun root => root.bind TypeRef.name

/-- The names of the types, in their order. -/
def typeNames (s : Schema) : List String := s.types.map TypeDefinition.name

/-- The first type of a name. -/
def findType (s : Schema) (name : String) : Option TypeDefinition :=
  s.types.find? fun t => t.name == name

/-- Whether a root type or a type has exactly this name. -/
def declaresType (s : Schema) (name : String) : Bool :=
  s.rootTypeNames.any (· == name) || s.typeNames.any (· == name)

/-- Whether a type, or a field of any type, has exactly this name. -/
def declaresTypeOrField (s : Schema) (name : String) : Bool :=
  s.types.any fun t => t.name == name || t.hasField name

/-- **The names that the schema offers for routing**: those of its root
types, then those of its types. -/
def availableFields (s : Schema) : List String := s.rootTypeNames ++ s.typeNames

end Schema

end GraphGateway
