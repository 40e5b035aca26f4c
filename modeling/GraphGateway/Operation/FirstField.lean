import GraphGateway.GraphQL.Grammar
import GraphGateway.Operation.Basic

/-!
# The field of a query as a document

The exact way to find the field of a query reads the query as a document.
The operation is the first one of the document, and the field is the first
one that its selections come to: fragments in place are entered, spreads
are passed over. A field counts by its own name, whatever it is called in
the response.
-/

namespace GraphGateway.FirstField

open GraphQL (Document Definition Selection OperationKind Refusal)

mutual

/-- The first field that a selection comes to. -/
def ofSelection : Selection → Option String
  | .field _ name _ _ _ => some name
  | .spread _ _ => none
  | .inline _ _ inside => ofSelections inside

/-- The first field that some selections come to. -/
def ofSelections : List Selection → Option String
  | [] => none
  | first :: rest =>
    match ofSelection first with
    | some name => some name
    | none => ofSelections rest

end

/-- The type of an operation. -/
def typeOf : OperationKind → OperationType
  | .unmarked => .query
  | .query => .query
  | .mutation => .mutation
  | .subscription => .subscription

/-- The type and the selections of an operation. -/
def operationOf : Definition → Option (OperationType × List Selection)
  | .operation kind _ _ _ selections => some (typeOf kind, selections)
  | .fragment _ _ _ _ => none

/-- **Why a query has no field.** -/
inductive Failure where
  /-- It is no document. -/
  | notADocument (refusal : Refusal)
  /-- It has no operation. -/
  | noOperation
  /-- Its operation selects no field. -/
  | noField

/-- The operation that a document is routed by. -/
def ofDocument (document : Document) : Except Failure Operation :=
  match document.findSome? operationOf with
  | none => .error .noOperation
  | some (type, selections) =>
    match ofSelections selections with
    | none => .error .noField
    | some field => .ok { type, field }

/-- **Finds the operation of a query** in its document. -/
def extract (query : String) : Except Failure Operation :=
  match Document.parse query with
  | .error refusal => .error (.notADocument refusal)
  | .ok document => ofDocument document

end GraphGateway.FirstField
