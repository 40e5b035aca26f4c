import GraphGateway.GraphQL.Literal

/-!
# The grammar of documents

The rules of executable documents: operations and fragments, with
everything inside them. A rule that refers to itself is `named` and takes
an amount of fuel, one unit for each rule inside another; the rules in
between are plain values.

`Document.parse` reads a whole document.
-/

namespace GraphGateway.GraphQL

namespace Grammar

open Rule

/-- A value without brackets. -/
def plainValue : Rule Literal :=
  named (explained
    (orElse (orElse (orElse (orElse (orElse (orElse (orElse
      (named (explained (check Literal.ofInt (ofKind .intValue))))
      (named (explained (check Literal.ofFloat (ofKind .floatValue)))))
      (named (explained (check Literal.ofString (ofKind .stringValue)))))
      (named (explained (check Literal.ofBlock (ofKind .blockString)))))
      (map (fun _ => Literal.bool true) (keyword "true")))
      (map (fun _ => Literal.bool false) (keyword "false")))
      (map (fun _ => Literal.null) (keyword "null")))
      (map Literal.enum name)))

/-- A list of values. -/
def listOf (value : Rule Literal) : Rule Literal :=
  map Literal.list (keepThen (thenKeep (sign "[") (many value)) (sign "]"))

/-- Named values in braces. -/
def objectOf (value : Rule Literal) : Rule Literal :=
  map Literal.object
    (keepThen
      (thenKeep (sign "\x7b") (many (pair (keepThen name (sign ":")) value))) (sign "\x7d"))

/-- A value, perhaps a variable. -/
def value (fuel : Nat) : Rule Literal :=
  named fun ts =>
    match fuel with
    | 0 => .stuck (.ofReport (.blank ts.place))
    | fuel + 1 =>
      explained
        (orElse (orElse (orElse plainValue
          (map Literal.variable (thenKeep (sign "$") name)))
          (listOf (value fuel)))
          (objectOf (value fuel))) ts

/-- A value without variables. -/
def constant (fuel : Nat) : Rule Literal :=
  named fun ts =>
    match fuel with
    | 0 => .stuck (.ofReport (.blank ts.place))
    | fuel + 1 =>
      explained (orElse (orElse plainValue (listOf (constant fuel))) (objectOf (constant fuel))) ts

/-- A type of a variable. -/
def variableType (fuel : Nat) : Rule VariableType :=
  named fun ts =>
    match fuel with
    | 0 => .stuck (.ofReport (.blank ts.place))
    | fuel + 1 =>
      let inner := orElse (map VariableType.named name)
        (map VariableType.list (keepThen (thenKeep (sign "[") (variableType fuel)) (sign "]")))
      let mark := fun (type, bang) =>
        match (bang : Option Token) with
        | some _ => VariableType.nonNull type
        | none => type
      explained (map mark (pair inner (optional (sign "!")))) ts

/-- Arguments in parentheses, or none. -/
def arguments (fuel : Nat) : Rule (List Argument) :=
  named (explained
    (map (fun found => found.getD [])
      (optional
        (keepThen
          (thenKeep (sign "(") (oneOrMore (pair (keepThen name (sign ":")) (value fuel))))
          (sign ")")))))

/-- Directives that are applied to what stands before. -/
def annotations (fuel : Nat) : Rule (List Annotation) :=
  named (explained
    (many
      (map (fun found => { name := found.1.2, arguments := found.2 })
        (pair (pair (keepThen here (sign "@")) name) (arguments fuel)))))

mutual

/-- Selections in braces. -/
def selectionSet (fuel : Nat) : Rule (List Selection) :=
  named fun ts =>
    match fuel with
    | 0 => .stuck (.ofReport (.blank ts.place))
    | fuel + 1 =>
      explained
        (map (fun found => found.2.1)
          (triple (keepThen here (sign "\x7b")) (oneOrMore (selection fuel))
            (keepThen here (sign "\x7d")))) ts

/-- A selection. -/
def selection (fuel : Nat) : Rule Selection :=
  named fun ts =>
    match fuel with
    | 0 => .stuck (.ofReport (.blank ts.place))
    | fuel + 1 =>
      let inline := map (fun found => Selection.inline found.2.1 found.2.2.1 found.2.2.2)
        (quadruple here (optional (thenKeep (keyword "on") name)) (annotations fuel)
          (selectionSet fuel))
      let spread := map (fun found => Selection.spread found.2.1 found.2.2)
        (triple here name (annotations fuel))
      explained (orElse (field fuel) (thenKeep (sign "...") (orElse inline spread))) ts

/-- A field. -/
def field (fuel : Nat) : Rule Selection :=
  named fun ts =>
    match fuel with
    | 0 => .stuck (.ofReport (.blank ts.place))
    | fuel + 1 =>
      let build := fun (found : Place × String × Option String × List Argument ×
          List Annotation × Option (List Selection)) =>
        let (_, first, second, arguments, annotations, inside) := found
        match second with
        | some name => Selection.field (some first) name arguments annotations (inside.getD [])
        | none => Selection.field none first arguments annotations (inside.getD [])
      explained
        (map build
          (sextuple here name (optional (thenKeep (sign ":") name)) (arguments fuel)
            (annotations fuel) (optional (selectionSet fuel)))) ts

end

/-- The variables of an operation in parentheses. -/
def parameters (fuel : Nat) : Rule (List Variable) :=
  let one := quadruple here (keepThen (thenKeep (sign "$") name) (sign ":"))
    (variableType fuel) (optional (thenKeep (sign "=") (constant fuel)))
  keepThen
    (thenKeep (sign "(")
      (oneOrMore (map (fun found =>
        { name := found.2.1, type := found.2.2.1, defaultValue := found.2.2.2 }) one)))
    (sign ")")

/-- What stands behind the keyword of an operation. -/
def operationBody (fuel : Nat) :
    Rule (Option String × List Variable × List Annotation × List Selection) :=
  named (explained
    (map (fun found => (found.1.1.1, found.1.1.2, found.1.2, found.2))
      (pair
        (pair
          (pair (optional name) (map (fun found => found.getD []) (optional (parameters fuel))))
          (annotations fuel))
        (selectionSet fuel))))

/-- An operation with a keyword. -/
def marked (fuel : Nat) (kind : OperationKind) (word : String) : Rule Definition :=
  named (explained
    (map (fun found =>
        Definition.operation kind found.2.1 found.2.2.1 found.2.2.2.1 found.2.2.2.2)
      (pair (keepThen here (keyword word)) (operationBody fuel))))

/-- An operation. -/
def operation (fuel : Nat) : Rule Definition :=
  named (explained
    (orElse (orElse (orElse
      (map (Definition.operation .unmarked none [] []) (selectionSet fuel))
      (marked fuel .query "query"))
      (marked fuel .mutation "mutation"))
      (marked fuel .subscription "subscription")))

/-- A fragment. -/
def fragment (fuel : Nat) : Rule Definition :=
  named (explained
    (map (fun found => Definition.fragment found.2.1 found.2.2.1 found.2.2.2.1 found.2.2.2.2)
      (quintuple (keepThen here (keyword "fragment")) name (thenKeep (keyword "on") name)
        (annotations fuel) (selectionSet fuel))))

/-- A definition. -/
def definition (fuel : Nat) : Rule Definition :=
  named (explained (orElse (operation fuel) (fragment fuel)))

/-- A whole document. -/
def document (fuel : Nat) : Rule Document := keepThen (oneOrMore (definition fuel)) finish

end Grammar

/-- **Reads a document.** -/
def Document.parse (text : String) : Except Refusal Document :=
  let tokens := tokenize text
  match Rule.explained (Grammar.document (4 * tokens.list.length + 8)) tokens with
  | .ok _ document _ => .ok document
  | .stuck trace => .error (.report trace.report)
  | .refused refusal => .error refusal

end GraphGateway.GraphQL
