import GraphGateway.Operation.FirstField
import GraphGateway.Proofs.GraphQL.Rule

/-!
# How documents start

Of a document that was read, its first tokens tell much, whatever comes behind them. A
definition that starts with a brace or with the keyword of an operation is an operation of this
type, and where the brace comes at once behind the keyword, there is no name, and there are no
parameters and no directives: what they would start with is not there
(`of_operationBody`). In the brace, a name starts a field, and it is the name of the field
or its label (`of_selection`).

`findSome?_of_parse` says all of this of a document.
-/

namespace GraphGateway

/-- A type of operations is known by its keyword. -/
theorem OperationType.eq_of_keyword {a b : OperationType} (h : a.keyword = b.keyword) : a = b := by
  revert h
  cases a <;> cases b <;> decide

/-- The keyword of a fragment is none of an operation. -/
theorem OperationType.keyword_ne_fragment (a : OperationType) : a.keyword ≠ "fragment" := by
  cases a <;> decide

namespace GraphQL.Grammar

open Rule

variable {ts next inside rest : Tokens} {fuel : Nat}

/-- An opening brace. -/
def openBrace : Token := ⟨.punctuator, "\x7b"⟩

/-- **What the next token does not allow** is not read: a sign is the next token. -/
theorem next_of_sign {t first : Token} {text : String} (hnext : ts.next? = some (first, next))
    (h : (sign text).Reads ts t rest) : first = ⟨.punctuator, text⟩ ∧ next = rest := by
  obtain ⟨hsign, rfl⟩ := reads_sign_iff.mp h
  obtain ⟨rfl, rfl⟩ := Prod.mk.inj (Option.some.inj (hnext.symm.trans hsign))
  exact ⟨rfl, rfl⟩

/-- A keyword is the next token. -/
theorem next_of_keyword {t first : Token} {text : String} (hnext : ts.next? = some (first, next))
    (h : (keyword text).Reads ts t rest) : first = ⟨.name, text⟩ ∧ next = rest := by
  obtain ⟨hword, rfl⟩ := reads_keyword_iff.mp h
  obtain ⟨rfl, rfl⟩ := Prod.mk.inj (Option.some.inj (hnext.symm.trans hword))
  exact ⟨rfl, rfl⟩

/-- A name is the next token. -/
theorem next_of_name {first : Token} {text : String} (hnext : ts.next? = some (first, next))
    (h : name.Reads ts text rest) : first = ⟨.name, text⟩ ∧ next = rest := by
  obtain ⟨rfl, rfl⟩ := Prod.mk.inj (Option.some.inj (hnext.symm.trans (reads_name_iff.mp h)))
  exact ⟨rfl, rfl⟩

/-! ## Selections -/

/-- A set of selections starts with a brace and has a first one. -/
theorem of_selectionSet {selections : List Selection} {first : Token}
    (hnext : ts.next? = some (first, next)) (h : (selectionSet fuel).Reads ts selections rest) :
    first = openBrace ∧ ∃ fuel' selected more between, selections = selected :: more
      ∧ (selection fuel').Reads next selected between := by
  cases fuel with
  | zero =>
    obtain ⟨moved, h⟩ := h
    cases h
  | succ fuel =>
    obtain ⟨moved, h⟩ := h
    unfold selectionSet at h
    obtain ⟨found, hfound, rfl⟩ := reads_map_iff.mp ⟨moved, explained_eq_ok_iff.mp h⟩
    obtain ⟨inside, _, hopen, hselections, -⟩ := hfound.of_triple
    obtain ⟨t, _, hhere, hsign⟩ := hopen.of_keepThen
    obtain rfl := hhere.of_here
    obtain ⟨rfl, rfl⟩ := next_of_sign hnext hsign
    obtain ⟨selected, more, between, hmore, hselected⟩ := hselections.of_oneOrMore
    exact ⟨rfl, fuel, selected, more, between, hmore, hselected⟩

/-- **A field** starts with its name or its label. -/
theorem of_field {s : Selection} {first : Token} (hnext : ts.next? = some (first, next))
    (h : (field fuel).Reads ts s rest) :
    ∃ text label name arguments annotations inside, first = ⟨.name, text⟩
      ∧ s = .field label name arguments annotations inside ∧ (label = none → name = text) := by
  cases fuel with
  | zero =>
    obtain ⟨moved, h⟩ := h
    cases h
  | succ fuel =>
    obtain ⟨moved, h⟩ := h
    unfold field at h
    obtain ⟨⟨place, text, second, arguments, annotations, inside⟩, hfound, rfl⟩ :=
      reads_map_iff.mp ⟨moved, explained_eq_ok_iff.mp h⟩
    obtain ⟨_, _, _, _, _, hhere, hname, -⟩ := hfound.of_sextuple
    obtain rfl := hhere.of_here
    obtain ⟨rfl, -⟩ := next_of_name hnext hname
    cases second with
    | none => exact ⟨text, _, _, _, _, _, rfl, rfl, fun _ => rfl⟩
    | some name => exact ⟨text, _, _, _, _, _, rfl, rfl, fun hnone => by cases hnone⟩

/-- **A selection that starts with a name** is a field. -/
theorem of_selection {s : Selection} {text : String}
    (hnext : ts.next? = some (⟨.name, text⟩, next)) (h : (selection fuel).Reads ts s rest) :
    ∃ label name arguments annotations inside,
      s = .field label name arguments annotations inside ∧ (label = none → name = text) := by
  cases fuel with
  | zero =>
    obtain ⟨moved, h⟩ := h
    cases h
  | succ fuel =>
    obtain ⟨moved, h⟩ := h
    unfold selection at h
    rcases Reads.of_orElse ⟨moved, explained_eq_ok_iff.mp h⟩ with hfield | hspread
    · obtain ⟨text', label, name, arguments, annotations, inside, htext, rfl, hname⟩ :=
        of_field hnext hfield
      obtain rfl := (Token.mk.inj htext).2
      exact ⟨label, name, arguments, annotations, inside, rfl, hname⟩
    · obtain ⟨_, _, hdots, -⟩ := hspread.of_thenKeep
      cases congrArg Token.kind (next_of_sign hnext hdots).1

/-! ## Definitions -/

/-- **What stands behind the keyword of an operation** is a set of selections where a
brace is next. -/
theorem of_operationBody
    {found : Option String × List Variable × List Annotation × List Selection}
    (hnext : ts.next? = some (openBrace, next)) (h : (operationBody fuel).Reads ts found rest) :
    (selectionSet fuel).Reads ts found.2.2.2 rest := by
  obtain ⟨⟨⟨⟨label, parameters⟩, annotations⟩, selections⟩, hfound, rfl⟩ :=
    reads_map_iff.mp (reads_named_explained_iff.mp h)
  obtain ⟨_, hbefore, hselections⟩ := hfound.of_pair
  obtain ⟨_, hbefore, hannotations⟩ := hbefore.of_pair
  obtain ⟨_, hlabel, hparameters⟩ := hbefore.of_pair
  -- nothing of what may stand before the brace is there
  rcases hlabel.of_optional with ⟨text, hname, -⟩ | ⟨-, rfl⟩
  · cases congrArg Token.kind (next_of_name hnext hname).1
  obtain ⟨_, hparameters, -⟩ := reads_map_iff.mp hparameters
  rcases hparameters.of_optional with ⟨_, hopen, -⟩ | ⟨-, rfl⟩
  · obtain ⟨_, _, hopen, -⟩ := hopen.of_keepThen
    obtain ⟨_, _, hopen, -⟩ := hopen.of_thenKeep
    exact absurd (next_of_sign hnext hopen).1 (by decide)
  obtain ⟨-, rfl⟩ := (reads_named_explained_iff.mp hannotations).of_many fun _ _ hone => by
    obtain ⟨_, hparts, -⟩ := reads_map_iff.mp hone
    obtain ⟨_, hmark, -⟩ := hparts.of_pair
    obtain ⟨_, hmark, -⟩ := hmark.of_pair
    obtain ⟨_, _, hhere, hsign⟩ := hmark.of_keepThen
    obtain rfl := hhere.of_here
    exact absurd (next_of_sign hnext hsign).1 (by decide)
  exact hselections

/-- An operation with a keyword starts with the keyword. -/
theorem of_marked {d : Definition} {kind : OperationKind} {word : String} {first : Token}
    (hnext : ts.next? = some (first, next)) (h : (marked fuel kind word).Reads ts d rest) :
    first = ⟨.name, word⟩ ∧ ∃ found, (operationBody fuel).Reads next found rest
      ∧ FirstField.operationOf d = some (FirstField.typeOf kind, found.2.2.2) := by
  obtain ⟨⟨place, found⟩, hfound, rfl⟩ := reads_map_iff.mp (reads_named_explained_iff.mp h)
  obtain ⟨_, hmark, hbody⟩ := hfound.of_pair
  obtain ⟨_, _, hhere, hword⟩ := hmark.of_keepThen
  obtain rfl := hhere.of_here
  obtain ⟨rfl, rfl⟩ := next_of_keyword hnext hword
  exact ⟨rfl, found, hbody, rfl⟩

/-- A fragment starts with its keyword. -/
theorem of_fragment {d : Definition} {first : Token} (hnext : ts.next? = some (first, next))
    (h : (fragment fuel).Reads ts d rest) : first = ⟨.name, "fragment"⟩ := by
  obtain ⟨_, hfound, -⟩ := reads_map_iff.mp (reads_named_explained_iff.mp h)
  obtain ⟨_, _, _, _, hmark, -⟩ := hfound.of_quintuple
  obtain ⟨_, _, hhere, hword⟩ := hmark.of_keepThen
  obtain rfl := hhere.of_here
  exact (next_of_keyword hnext hword).1

/-- **The ways that a definition can start**: with a brace, with the keyword of an operation, or
with that of a fragment. -/
theorem of_definition {d : Definition} {first : Token} (hnext : ts.next? = some (first, next))
    (h : (definition fuel).Reads ts d rest) :
    (first = openBrace ∧ ∃ selections, (selectionSet fuel).Reads ts selections rest
        ∧ FirstField.operationOf d = some (.query, selections))
      ∨ (∃ type : OperationType, first = ⟨.name, type.keyword⟩
        ∧ ∃ found, (operationBody fuel).Reads next found rest
          ∧ FirstField.operationOf d = some (type, found.2.2.2))
      ∨ first = ⟨.name, "fragment"⟩ := by
  rcases (reads_named_explained_iff.mp h).of_orElse with hoperation | hfragment
  · rcases (reads_named_explained_iff.mp hoperation).of_orElse with h | hsubscription
    · rcases h.of_orElse with h | hmutation
      · rcases h.of_orElse with hunmarked | hquery
        · obtain ⟨selections, hselections, rfl⟩ := reads_map_iff.mp hunmarked
          exact .inl ⟨(of_selectionSet hnext hselections).1, selections, hselections, rfl⟩
        · exact .inr (.inl ⟨.query, of_marked hnext hquery⟩)
      · exact .inr (.inl ⟨.mutation, of_marked hnext hmutation⟩)
    · exact .inr (.inl ⟨.subscription, of_marked hnext hsubscription⟩)
  · exact .inr (.inr (of_fragment hnext hfragment))

/-! ## Documents -/

/-- **Whether a document starts with a field**: with the keyword of an operation, if it is
there, a brace, and a name. -/
inductive StartsWith (text : String) : Option OperationType → Tokens → Prop where
  /-- There is no keyword. -/
  | unmarked {ts inside rest : Tokens} (hbrace : ts.next? = some (openBrace, inside))
    (hname : inside.next? = some (⟨.name, text⟩, rest)) : StartsWith text none ts
  /-- There is one. -/
  | marked {type : OperationType} {ts behind inside rest : Tokens}
    (hword : ts.next? = some (⟨.name, type.keyword⟩, behind))
    (hbrace : behind.next? = some (openBrace, inside))
    (hname : inside.next? = some (⟨.name, text⟩, rest)) : StartsWith text (some type) ts

/-- **The first definition of a document that starts with a field** is an operation of the
type, and the field is its first selection. -/
theorem of_definition_of_startsWith {text : String} {type : Option OperationType} {d : Definition}
    (hstarts : StartsWith text type ts) (h : (definition fuel).Reads ts d rest) :
    ∃ label name arguments annotations inside more, FirstField.operationOf d
        = some (type.getD .query, .field label name arguments annotations inside :: more)
      ∧ (label = none → name = text) := by
  cases hstarts with
  | unmarked hbrace hname =>
    rcases of_definition hbrace h with ⟨-, selections, hselections, hd⟩ | ⟨_, hword, -⟩ | hword
    · obtain ⟨-, _, _, more, _, rfl, hselected⟩ := of_selectionSet hbrace hselections
      obtain ⟨label, name, arguments, annotations, inside, rfl, hlabel⟩ :=
        of_selection hname hselected
      exact ⟨label, name, arguments, annotations, inside, more, hd, hlabel⟩
    · cases congrArg Token.kind hword
    · cases congrArg Token.kind hword
  | @marked type _ _ _ _ hword hbrace hname =>
    rcases of_definition hword h with ⟨hopen, -⟩ | ⟨type', hsame, found, hbody, hd⟩ | hfragment
    · cases congrArg Token.kind hopen
    · obtain rfl := OperationType.eq_of_keyword (congrArg Token.text hsame)
      obtain ⟨-, _, _, more, _, hfound, hselected⟩ :=
        of_selectionSet hbrace (of_operationBody hbrace hbody)
      obtain ⟨label, name, arguments, annotations, inside, rfl, hlabel⟩ :=
        of_selection hname hselected
      exact ⟨label, name, arguments, annotations, inside, more, hfound ▸ hd, hlabel⟩
    · exact absurd (congrArg Token.text hfragment) type.keyword_ne_fragment

/-- A document that was read starts with a definition that was read. -/
theorem exists_definition_of_parse {text : String} {document : Document}
    (h : Document.parse text = .ok document) :
    ∃ fuel d more rest, document = d :: more ∧ (definition fuel).Reads (tokenize text) d rest := by
  unfold Document.parse at h
  dsimp only at h
  cases hread : explained (Grammar.document (4 * (tokenize text).list.length + 8)) (tokenize text)
  with
  | ok moved document' rest =>
    rw [hread] at h
    obtain rfl := Except.ok.inj h
    obtain ⟨_, _, hdefinitions, -⟩ :=
      Reads.of_keepThen ⟨moved, explained_eq_ok_iff.mp hread⟩
    obtain ⟨d, more, between, hdocument, hd⟩ := hdefinitions.of_oneOrMore
    exact ⟨_, d, more, between, hdocument, hd⟩
  | stuck => rw [hread] at h; cases h
  | refused => rw [hread] at h; cases h

/-- **The first operation of a document that starts with a field** is of the type, and the
field is its first selection. -/
theorem findSome?_of_parse {text first : String} {type : Option OperationType} {document : Document}
    (hstarts : StartsWith first type (tokenize text)) (h : Document.parse text = .ok document) :
    ∃ label name arguments annotations inside more, document.findSome? FirstField.operationOf
        = some (type.getD .query, .field label name arguments annotations inside :: more)
      ∧ (label = none → name = first) := by
  obtain ⟨fuel, d, more, rest, rfl, hd⟩ := exists_definition_of_parse h
  obtain ⟨label, name, arguments, annotations, inside, more', hoperation, hlabel⟩ :=
    of_definition_of_startsWith hstarts hd
  exact ⟨label, name, arguments, annotations, inside, more',
    (List.findSome?_cons_of_isSome (by rw [hoperation]; rfl)).trans hoperation, hlabel⟩

end GraphQL.Grammar

end GraphGateway
