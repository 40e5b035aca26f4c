import GraphGateway.Error
import GraphGateway.Operation.FirstField
import GraphGateway.Operation.Heuristic

/-!
# Extractors

`ExtractorKind.extract` finds the operation of a query in the way that a
gateway is set to, and says why a query has none.
-/

namespace GraphGateway

/-- The error of a query whose document has no field. -/
def FirstField.Failure.error : FirstField.Failure → GatewayError
  | .notADocument (.report report) =>
    .unreadableQuery ("query parse error: " ++ report.message)
  | .notADocument .cutCharacter => .cutCharacter
  | .noOperation => .unreadableQuery "document has no operation"
  | .noField => .unreadableQuery "operation selects no field"

/-- **Finds the operation of a query.** -/
def ExtractorKind.extract (kind : ExtractorKind) (query : String) : Except GatewayError Operation :=
  match kind with
  | .heuristic =>
    match Heuristic.extract query with
    | some operation => .ok operation
    | none => .error (.unreadableQuery "could not extract field name from query")
  | .document => (FirstField.extract query).mapError FirstField.Failure.error

end GraphGateway
