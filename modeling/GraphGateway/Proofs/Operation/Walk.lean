import GraphGateway.Operation.Extractor

/-!
# The field that a document comes to first

The selections of an operation are **walked** from left to right. Each is met before what is in
it, and only fragments in place are entered: what is selected of a field belongs to its type, and
what a spread stands for is somewhere else. The field of a document is the first one that is met on
the walk of its first operation (`ofSelections_eq`), so a fragment in place that has nothing but
spreads in it is left again, and the walk goes on behind it.

By this the field cannot depend on anything that a walk does not look at. `Document.bare` takes all
that away, and leaves the field as it is (`ofDocument_bare`).
-/

namespace GraphGateway

namespace GraphQL

namespace Selection

/-- Whether a selection is a field. -/
def isField : Selection → Bool
  | field _ _ _ _ _ => true
  | _ => false

/-- The name of a field, by which it counts. -/
def fieldName? : Selection → Option String
  | field _ name _ _ _ => some name
  | _ => none

mutual

/-- **The walk of a selection**: what is met on it, in order. -/
def walk : Selection → List Selection
  | inline onType annotations inside => inline onType annotations inside :: walkAll inside
  | field label name arguments annotations inside =>
    [field label name arguments annotations inside]
  | spread name annotations => [spread name annotations]

/-- The walk of some selections, one after another. -/
def walkAll : List Selection → List Selection
  | [] => []
  | first :: rest => walk first ++ walkAll rest

end

mutual

/-- **A selection without what a walk does not look at**: labels, arguments, directives, types of
fragments, and what is selected of fields. -/
def bare : Selection → Selection
  | field _ name _ _ _ => field none name [] [] []
  | spread name _ => spread name []
  | inline _ _ inside => inline none [] (bareAll inside)

/-- Some selections without what a walk does not look at. -/
def bareAll : List Selection → List Selection
  | [] => []
  | first :: rest => bare first :: bareAll rest

end

end Selection

namespace Definition

/-- Whether a definition is an operation. -/
def isOperation : Definition → Bool
  | operation _ _ _ _ _ => true
  | fragment _ _ _ _ => false

/-- A definition without what a walk does not look at: also its name, and its variables. -/
def bare : Definition → Definition
  | operation kind _ _ _ selections => operation kind none [] [] (Selection.bareAll selections)
  | fragment name onType _ _ => fragment name onType [] []

end Definition

/-- **A document without what a walk does not look at**: only its first operation is left. -/
def Document.bare (document : Document) : Document :=
  ((document.find? Definition.isOperation).map Definition.bare).toList

end GraphQL

namespace FirstField

open GraphQL (Document Definition Selection OperationKind)
open GraphQL.Selection (walk walkAll)

/-! ## The walk -/

mutual

/-- The first field of a selection is the first on its walk. -/
theorem ofSelection_eq : (s : Selection) →
    ofSelection s = (walk s).findSome? Selection.fieldName?
  | .field _ _ _ _ _ => rfl
  | .spread _ _ => rfl
  | .inline _ _ inside => by
    rw [ofSelection, walk, List.findSome?_cons_of_isNone rfl, ofSelections_eq inside]

/-- **The first field of some selections** is the first on their walk. -/
theorem ofSelections_eq : (selections : List Selection) →
    ofSelections selections = (walkAll selections).findSome? Selection.fieldName?
  | [] => rfl
  | first :: rest => by
    rw [ofSelections, walkAll, List.findSome?_append, ← ofSelection_eq first,
      ← ofSelections_eq rest]
    cases ofSelection first <;> rfl

end

/-- What is found first with a test and a result is what the result is of the first that passes. -/
theorem findSome?_eq_bind {α β : Type} {f : α → Option β} {p : α → Bool}
    (h : ∀ a, (f a).isSome = p a) (l : List α) : l.findSome? f = (l.find? p).bind f := by
  induction l with
  | nil => rfl
  | cons a l ih =>
    rw [List.findSome?_cons, List.find?_cons, ← h a, ih]
    cases ha : f a <;> simp [ha]

/-- **The field of some selections** is named by the first field on their walk. -/
theorem ofSelections_eq_bind (selections : List Selection) :
    ofSelections selections
      = ((walkAll selections).find? Selection.isField).bind Selection.fieldName? := by
  have hname (s : Selection) : s.fieldName?.isSome = s.isField := by cases s <;> rfl
  rw [ofSelections_eq, findSome?_eq_bind hname]

/-- What a document is routed by is in its first operation. -/
theorem findSome?_operationOf (document : Document) :
    document.findSome? operationOf = (document.find? Definition.isOperation).bind operationOf := by
  have hoperation (definition : Definition) :
      (operationOf definition).isSome = definition.isOperation := by cases definition <;> rfl
  rw [findSome?_eq_bind hoperation]

/-! ## Documents -/

/-- **The type that the keyword of an operation stands for.** An operation without one is a
query. -/
inductive Stands : OperationKind → OperationType → Prop where
  /-- There is no keyword. -/
  | unmarked : Stands .unmarked .query
  /-- The keyword of queries. -/
  | query : Stands .query .query
  /-- The keyword of mutations. -/
  | mutation : Stands .mutation .mutation
  /-- The keyword of subscriptions. -/
  | subscription : Stands .subscription .subscription

/-- A keyword stands for one type. -/
theorem stands_iff {kind : OperationKind} {type : OperationType} :
    Stands kind type ↔ type = typeOf kind := by
  constructor
  · intro h
    cases h <;> rfl
  · rintro rfl
    cases kind
    · exact .unmarked
    · exact .query
    · exact .mutation
    · exact .subscription

/-- **The ways that a document can be read**, with what comes of them. -/
inductive Walked (document : Document) : Except GatewayError Operation → Prop where
  /-- A field was met on the walk of the first operation. It counts by its own name, and the
  operation by its keyword. -/
  | found {kind : OperationKind} {type : OperationType} {name : Option String}
    {parameters : List GraphQL.Variable}
    {annotations directives : List GraphQL.Annotation} {selections inside : List Selection}
    {label : Option String} {field : String} {arguments : List GraphQL.Argument}
    (hfirst : document.find? Definition.isOperation
      = some (.operation kind name parameters annotations selections))
    (htype : Stands kind type)
    (hfield : (walkAll selections).find? Selection.isField
      = some (.field label field arguments directives inside)) :
    Walked document (.ok ⟨type, field⟩)
  /-- There is no operation. -/
  | noOperation (hnone : document.find? Definition.isOperation = none) :
    Walked document (.error (.unreadableQuery "document has no operation"))
  /-- No field was met on the walk of the first operation. -/
  | noField {kind : OperationKind} {name : Option String} {parameters : List GraphQL.Variable}
    {annotations : List GraphQL.Annotation} {selections : List Selection}
    (hfirst : document.find? Definition.isOperation
      = some (.operation kind name parameters annotations selections))
    (hnone : (walkAll selections).find? Selection.isField = none) :
    Walked document (.error (.unreadableQuery "operation selects no field"))

/-- What a document is routed by if it has an operation. -/
theorem ofDocument_of_find? {document : Document} {kind : OperationKind} {name : Option String}
    {parameters : List GraphQL.Variable} {annotations : List GraphQL.Annotation}
    {selections : List Selection}
    (hfirst : document.find? Definition.isOperation
      = some (.operation kind name parameters annotations selections)) :
    ofDocument document = match ofSelections selections with
      | none => .error .noField
      | some field => .ok ⟨typeOf kind, field⟩ := by
  rw [ofDocument, findSome?_operationOf, hfirst]
  rfl

/-- What a document is routed by if it has no operation. -/
theorem ofDocument_of_find?_eq_none {document : Document}
    (hnone : document.find? Definition.isOperation = none) :
    ofDocument document = .error .noOperation := by
  rw [ofDocument, findSome?_operationOf, hnone]
  rfl

/-- A document is read in one of these ways. -/
theorem walked (document : Document) :
    Walked document ((ofDocument document).mapError Failure.error) := by
  cases hfirst : document.find? Definition.isOperation with
  | none =>
    rw [ofDocument_of_find?_eq_none hfirst]
    exact .noOperation hfirst
  | some first =>
    cases first with
    | fragment => exact absurd (List.find?_some hfirst) Bool.false_ne_true
    | operation kind name parameters annotations selections =>
      rw [ofDocument_of_find? hfirst, ofSelections_eq_bind]
      cases hfield : (walkAll selections).find? Selection.isField with
      | none => exact .noField hfirst hfield
      | some met =>
        cases met with
        | field => exact .found hfirst (stands_iff.mpr rfl) hfield
        | spread => exact absurd (List.find?_some hfield) Bool.false_ne_true
        | inline => exact absurd (List.find?_some hfield) Bool.false_ne_true

/-- **A document is read in exactly one of these ways.** -/
theorem walked_iff {document : Document} {result : Except GatewayError Operation} :
    Walked document result ↔ (ofDocument document).mapError Failure.error = result := by
  refine ⟨fun h => ?_, fun h => h ▸ walked document⟩
  cases h with
  | found hfirst htype hfield =>
    obtain rfl := stands_iff.mp htype
    rw [ofDocument_of_find? hfirst, ofSelections_eq_bind, hfield]
    rfl
  | noOperation hnone =>
    rw [ofDocument_of_find?_eq_none hnone]
    rfl
  | noField hfirst hnone =>
    rw [ofDocument_of_find? hfirst, ofSelections_eq_bind, hnone]
    rfl

/-! ## What does not matter -/

mutual

/-- The field of a selection does not depend on what a walk does not look at. -/
theorem ofSelection_bare : (s : Selection) → ofSelection s.bare = ofSelection s
  | .field _ _ _ _ _ => rfl
  | .spread _ _ => rfl
  | .inline _ _ inside => ofSelections_bareAll inside

/-- The field of some selections does not depend on what a walk does not look at. -/
theorem ofSelections_bareAll : (selections : List Selection) →
    ofSelections (Selection.bareAll selections) = ofSelections selections
  | [] => rfl
  | first :: rest => by
    rw [Selection.bareAll, ofSelections, ofSelections, ofSelection_bare first,
      ofSelections_bareAll rest]

end

/-- **The operation of a document** does not depend on what a walk does not look at. -/
theorem ofDocument_bare (document : Document) : ofDocument document.bare = ofDocument document := by
  rw [Document.bare]
  cases hfirst : document.find? Definition.isOperation with
  | none => rw [ofDocument_of_find?_eq_none hfirst]; rfl
  | some first =>
    cases first with
    | fragment => exact absurd (List.find?_some hfirst) Bool.false_ne_true
    | operation kind name parameters annotations selections =>
      have hbare : ofDocument [.operation kind none [] [] (Selection.bareAll selections)]
          = match ofSelections (Selection.bareAll selections) with
            | none => .error .noField
            | some field => .ok ⟨typeOf kind, field⟩ := ofDocument_of_find? rfl
      rw [ofDocument_of_find? hfirst, ← ofSelections_bareAll]
      exact hbare

/-! ## Queries -/

/-- A query that is a document is read as it. -/
theorem extract_of_parse {query : String} {document : Document}
    (h : Document.parse query = .ok document) :
    ExtractorKind.document.extract query = (ofDocument document).mapError Failure.error := by
  unfold ExtractorKind.extract extract
  rw [h]

/-- **A query that is a document is read by its walk**: in one of the ways of `Walked`, and in the
same way as every query whose document differs only in what a walk does not look at. -/
theorem extract_eq_iff_walked_of_parse {query : String} {document : Document}
    (h : Document.parse query = .ok document) :
    (∀ result, ExtractorKind.document.extract query = result ↔ Walked document result)
      ∧ ∀ (other : String) (document' : Document), Document.parse other = .ok document' →
        document'.bare = document.bare →
        ExtractorKind.document.extract other = ExtractorKind.document.extract query := by
  refine ⟨fun result => ?_, fun other document' hother hbare => ?_⟩
  · rw [walked_iff, extract_of_parse h]
  · rw [extract_of_parse h, extract_of_parse hother, ← ofDocument_bare document, ← hbare,
      ofDocument_bare]

/-- A query behind a fragment. In it are a fragment in place that has nothing but a spread, and
another one that has a field under another name. -/
def labelledQuery : String :=
  "fragment F on T \x7b a \x7d \x7b ... \x7b ...F \x7d ... on T \x7b me: user(id: 1) \x7d \x7d"

/-- The document of this query. -/
def labelledDocument : Document :=
  [.fragment "F" "T" [] [.field none "a" [] [] []],
    .operation .unmarked none [] []
      [.inline none [] [.spread "F" []],
        .inline (some "T") [] [.field (some "me") "user" [("id", .int 1)] [] []]]]

/-- A mutation with a variable, which has a fragment before it. -/
def labelledMutation : String :=
  "fragment F on T\x7ba\x7dmutation M($v:Int)@b\x7b...F it:rename(to:$v)\x7bid\x7d\x7d"

/-- The document of this mutation. -/
def labelledMutationDocument : Document :=
  [.fragment "F" "T" [] [.field none "a" [] [] []],
    .operation .mutation (some "M") [⟨"v", .named "Int", none⟩] [⟨"b", []⟩]
      [.spread "F" [],
        .field (some "it") "rename" [("to", .variable "v")] [] [.field none "id" [] [] []]]]

/-- The query is read by its walk, and so is another one that only adds a directive. The mutation
is read by its own. -/
theorem extract_labelledQuery :
    Document.parse labelledQuery = .ok labelledDocument
      ∧ ExtractorKind.document.extract labelledQuery = .ok ⟨.query, "user"⟩
      ∧ ExtractorKind.document.extract "\x7b ... \x7b ...F \x7d ... @b \x7b user \x7d \x7d"
        = .ok ⟨.query, "user"⟩
      ∧ Document.parse labelledMutation = .ok labelledMutationDocument
      ∧ ExtractorKind.document.extract labelledMutation = .ok ⟨.mutation, "rename"⟩ := by
  have hparse : Document.parse labelledQuery = .ok labelledDocument := rfl
  have hother : Document.parse "\x7b ... \x7b ...F \x7d ... @b \x7b user \x7d \x7d"
      = .ok [.operation .unmarked none [] [] [.inline none [] [.spread "F" []],
        .inline none [⟨"b", []⟩] [.field none "user" [] [] []]]] := rfl
  obtain ⟨hread, hsame⟩ := extract_eq_iff_walked_of_parse hparse
  have hfound : ExtractorKind.document.extract labelledQuery = .ok ⟨.query, "user"⟩ :=
    (hread _).mpr (.found rfl .unmarked rfl)
  have hmutation : Document.parse labelledMutation = .ok labelledMutationDocument := rfl
  have hrenamed : ExtractorKind.document.extract labelledMutation = .ok ⟨.mutation, "rename"⟩ :=
    ((extract_eq_iff_walked_of_parse hmutation).1 _).mpr (.found rfl .mutation rfl)
  exact ⟨hparse, hfound, (hsame _ _ hother rfl).trans hfound, hmutation, hrenamed⟩

end FirstField

end GraphGateway
