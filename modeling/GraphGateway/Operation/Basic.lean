/-!
# Operations

A query is routed by two things: the type of its operation and the name
of one field. `Operation` holds both. Which field a query is routed by is
decided by an extractor, and there are two of them: one that looks at the
words of the query, one that reads the query as a document.
-/

namespace GraphGateway

/-- **The types of operations.** -/
inductive OperationType where
  /-- Reads data. -/
  | query
  /-- Changes data. -/
  | mutation
  /-- Follows data. -/
  | subscription
  deriving DecidableEq, Repr

/-- The keyword that an operation of a type starts with. -/
def OperationType.keyword : OperationType → String
  | query => "query"
  | mutation => "mutation"
  | subscription => "subscription"

/-- **What a query is routed by.** -/
structure Operation where
  /-- The type of the operation. -/
  type : OperationType
  /-- The field. -/
  field : String
  deriving DecidableEq, Repr

/-- **The ways to find the field of a query.** -/
inductive ExtractorKind where
  /-- By the words of the query. -/
  | heuristic
  /-- By reading the query as a document. -/
  | document
  deriving DecidableEq, Repr

end GraphGateway
