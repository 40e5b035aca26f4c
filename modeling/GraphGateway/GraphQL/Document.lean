/-!
# GraphQL documents

A document is a list of definitions, each an operation or a fragment, and
what both have in common is a set of selections: fields, spreads of
fragments, and fragments written in place.
-/

namespace GraphGateway.GraphQL

/-- **A literal value.** -/
inductive Literal where
  /-- A variable. -/
  | variable (name : String)
  /-- A whole number. -/
  | int (n : Int)
  /-- A number with a fraction or an exponent, as it is written. -/
  | float (text : String)
  /-- A text. -/
  | string (s : String)
  /-- A truth value. -/
  | bool (b : Bool)
  /-- No value. -/
  | null
  /-- A value of an enumeration. -/
  | enum (name : String)
  /-- A list. -/
  | list (items : List Literal)
  /-- Named values. -/
  | object (members : List (String × Literal))
  deriving Repr

/-- A named value. -/
abbrev Argument := String × Literal

/-- A directive, applied to something. -/
structure Annotation where
  /-- The directive. -/
  name : String
  /-- What it is given. -/
  arguments : List Argument
  deriving Repr

/-- A type of a variable. -/
inductive VariableType where
  /-- A named type. -/
  | named (name : String)
  /-- A list of a type. -/
  | list (of : VariableType)
  /-- A type without its null. -/
  | nonNull (of : VariableType)
  deriving Repr

/-- A variable of an operation. -/
structure Variable where
  /-- Its name. -/
  name : String
  /-- Its type. -/
  type : VariableType
  /-- The value that it has when none is given. -/
  defaultValue : Option Literal
  deriving Repr

/-- **A selection.** -/
inductive Selection where
  /-- A field, perhaps under another name, with what is selected of it. -/
  | field (label : Option String) (name : String) (arguments : List Argument)
      (annotations : List Annotation) (inside : List Selection)
  /-- A fragment by its name. -/
  | spread (name : String) (annotations : List Annotation)
  /-- A fragment in place, perhaps for one type only. -/
  | inline (onType : Option String) (annotations : List Annotation) (inside : List Selection)
  deriving Repr

/-- The keywords that an operation may start with. -/
inductive OperationKind where
  /-- An operation without a keyword, which is a query. -/
  | unmarked
  /-- A query. -/
  | query
  /-- A mutation. -/
  | mutation
  /-- A subscription. -/
  | subscription
  deriving DecidableEq, Repr

/-- **A definition of a document.** -/
inductive Definition where
  /-- An operation. -/
  | operation (kind : OperationKind) (name : Option String) (parameters : List Variable)
      (annotations : List Annotation) (selections : List Selection)
  /-- A fragment. -/
  | fragment (name onType : String) (annotations : List Annotation) (selections : List Selection)
  deriving Repr

/-- **A document.** -/
abbrev Document := List Definition

end GraphGateway.GraphQL
