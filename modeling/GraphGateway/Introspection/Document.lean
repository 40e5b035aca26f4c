/-!
# The documents of introspection

A backend is asked about itself with two fixed documents. `fullDocument`
asks for the whole schema, and unwraps seven levels of wrapped types;
`probeDocument` asks for as little as possible, only to see whether the
backend speaks GraphQL at all.

The documents are given as selections and written by `Selection.lines`.
-/

namespace GraphGateway.Introspection

/-- **A selection**: what is asked for, and what is asked for inside it. -/
inductive Selection where
  /-- A selection with its text and the selections inside it. -/
  | mk (text : String) (inside : List Selection)

/-- A selection with nothing inside. -/
def leaf (text : String) : Selection := .mk text []

/-- The text before the selections inside another. -/
def opening (text : String) : String := text ++ " \x7b"

mutual

/-- The lines of a selection inside `depth` others. -/
def Selection.lines (depth : Nat) : Selection → List String
  | .mk text [] => ["".pushn ' ' (2 * depth) ++ text]
  | .mk text (first :: rest) =>
    ("".pushn ' ' (2 * depth) ++ opening text) ::
      first.lines (depth + 1) ++ linesOf (depth + 1) rest ++ ["".pushn ' ' (2 * depth) ++ "\x7d"]

/-- The lines of several selections. -/
def linesOf (depth : Nat) : List Selection → List String
  | [] => []
  | first :: rest => first.lines depth ++ linesOf depth rest

end

/-- A selection written on one line with the single thing inside it. -/
def short (text inside : String) : Selection := leaf (opening text ++ " " ++ inside ++ " \x7d")

/-- What is asked about a wrapped type and the types inside it. -/
def wrapped : Nat → List Selection
  | 0 => [leaf "kind", leaf "name"]
  | n + 1 => [leaf "kind", leaf "name", .mk "ofType" (wrapped n)]

/-- The definitions of the full document. -/
def fullDefinitions : List Selection := [
  .mk "query IntrospectionQuery" [
    .mk "__schema" [
      short "queryType" "name",
      short "mutationType" "name",
      short "subscriptionType" "name",
      .mk "types" [leaf "...FullType"],
      .mk "directives" [
        leaf "name", leaf "description", leaf "locations",
        .mk "args" [leaf "...InputValue"]]]],
  .mk "fragment FullType on __Type" [
    leaf "kind", leaf "name", leaf "description",
    .mk "fields(includeDeprecated: true)" [
      leaf "name", leaf "description",
      .mk "args" [leaf "...InputValue"],
      .mk "type" [leaf "...TypeRef"],
      leaf "isDeprecated", leaf "deprecationReason"],
    .mk "inputFields" [leaf "...InputValue"],
    .mk "interfaces" [leaf "...TypeRef"],
    .mk "enumValues(includeDeprecated: true)" [
      leaf "name", leaf "description", leaf "isDeprecated", leaf "deprecationReason"],
    .mk "possibleTypes" [leaf "...TypeRef"]],
  .mk "fragment InputValue on __InputValue" [
    leaf "name", leaf "description", short "type" "...TypeRef", leaf "defaultValue"],
  .mk "fragment TypeRef on __Type" (wrapped 7)]

/-- **The document that asks for the whole schema.** An empty line stands
between its definitions. -/
def fullDocument : String :=
  "\n" ++ String.intercalate "\n\n"
    (fullDefinitions.map fun d => String.intercalate "\n" (d.lines 0)) ++ "\n"

/-- **The document that asks whether the backend speaks GraphQL.** -/
def probeDocument : String :=
  opening "query" ++ " " ++ opening "__schema" ++ " " ++ opening "queryType" ++
    " name \x7d \x7d \x7d"

end GraphGateway.Introspection
