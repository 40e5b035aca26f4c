import GraphGateway.Operation.Extractor
import GraphGateway.Proofs.GraphQL.Tokens
import GraphGateway.Proofs.Operation.Words

/-!
# Plain queries

The two ways to find the field of a query do not agree on all queries. They do on a
`PlainQuery`: one that starts with a brace and a field, perhaps with the keyword of an operation
before the brace, with blanks between them. What comes behind the field may be any text with
which the query is a document.

Both ways then find the field that is written there. By its words, the query is the keyword, the
brace, the field, and more words (`exists_keptWords`), and the keyword and the brace name no
field. As a document, the query starts with the tokens of the same three (`startsWith_tokenize`),
and a document that starts so has the field as its first selection, by what the grammar allows
behind a keyword and in a brace. Only a label in front of the field is seen by one way alone:
`extract_eq_of_parse` asks for a first selection that has none.
-/

namespace GraphGateway

open GraphQL (Document Selection IsSpace CutAt tokenize)
open GraphQL.Grammar (StartsWith)
open Heuristic (keptWords wordsFrom fieldOf)

/-! ## Keywords and blanks -/

/-- The keyword of an operation, as a name. -/
def OperationType.name : OperationType → GraphQL.Name
  | query => ⟨'q', "uery".toList, by decide, by decide⟩
  | mutation => ⟨'m', "utation".toList, by decide, by decide⟩
  | subscription => ⟨'s', "ubscription".toList, by decide, by decide⟩

/-- The text of the keyword as a name is the keyword. -/
theorem OperationType.name_text (type : OperationType) : type.name.text = type.keyword := by
  cases type <;> rfl

/-- The characters of the keyword as a name are those of the keyword. -/
theorem OperationType.name_chars (type : OperationType) :
    type.name.chars = type.keyword.toList := by
  cases type <;> rfl

/-- The keyword tells the type of its operation. -/
theorem OperationType.operationType_keyword (type : OperationType) :
    Heuristic.operationType type.keyword.toList = type := by
  cases type <;> decide

namespace GraphQL

/-- What may stand in a name is no blank. -/
theorem isBlank_of_isNamePart {c : Char} (hc : Token.isNamePart c = true) :
    Text.isBlank c = false := by
  have hrange : 48 ≤ c.toNat ∧ c.toNat ≤ 122 := by
    rcases Bool.or_eq_true_iff.mp hc with hc | hc
    · rcases Bool.or_eq_true_iff.mp hc with hletter | hdigit
      · rcases Bool.or_eq_true_iff.mp hletter with hupper | hlower
        · obtain ⟨hlow, hhigh⟩ : 65 ≤ c.toNat ∧ c.toNat ≤ 90 := of_decide_eq_true hupper
          omega
        · obtain ⟨hlow, hhigh⟩ := Bool.and_eq_true_iff.mp hlower
          exact ⟨Nat.le_trans (by decide) (of_decide_eq_true hlow), of_decide_eq_true hhigh⟩
      · obtain ⟨hlow, hhigh⟩ := Bool.and_eq_true_iff.mp hdigit
        exact ⟨of_decide_eq_true hlow, Nat.le_trans (of_decide_eq_true hhigh) (by decide)⟩
    · rw [eq_of_beq hc]
      decide
  simp only [Text.isBlank, Bool.or_eq_false_iff, Bool.and_eq_false_iff, decide_eq_false_iff_not,
    beq_eq_false_iff_ne]
  omega

/-- A blank is one for words too. -/
theorem IsSpace.isBlank {c : Char} (h : IsSpace c) : Text.isBlank c = true := by
  rcases h with rfl | rfl <;> rfl

end GraphQL

/-! ## Plain queries -/

/-- **Blanks**, at least one. -/
structure Spaces where
  /-- The first one. -/
  first : Char
  /-- The others. -/
  more : List Char
  /-- They are blanks. -/
  ok : ∀ c ∈ first :: more, IsSpace c

/-- The characters of blanks. -/
def Spaces.chars (s : Spaces) : List Char := s.first :: s.more

/-- **A plain query**: perhaps a keyword, a brace, a field, and any text behind it. -/
structure PlainQuery where
  /-- The type whose keyword comes first, with the blanks behind the keyword, if one does. -/
  mark : Option (OperationType × Spaces)
  /-- The blanks behind the brace. -/
  inside : Spaces
  /-- The field. -/
  field : GraphQL.Name
  /-- The field is not the keyword of the operation. -/
  field_ne : field.text ≠ ((mark.map Prod.fst).getD .query).keyword
  /-- Whether a brace is put right behind the field. -/
  glued : Bool
  /-- The blank behind the field, or behind the brace that is put there. -/
  last : Char
  /-- It is a blank. -/
  last_ok : IsSpace last
  /-- The text behind. -/
  rest : List Char

namespace PlainQuery

/-- The type of the operation. -/
def type (q : PlainQuery) : OperationType := (q.mark.map Prod.fst).getD .query

/-- The field with the brace behind it, which is one word. -/
def fieldWord (q : PlainQuery) : List Char := q.field.chars ++ if q.glued then ['{'] else []

/-- The characters of a query from its brace on. -/
def body (q : PlainQuery) : List Char :=
  '{' :: (q.inside.chars ++ (q.fieldWord ++ q.last :: q.rest))

/-- The characters of a query. -/
def chars (q : PlainQuery) : List Char :=
  match q.mark with
  | none => q.body
  | some (type, blanks) => type.keyword.toList ++ (blanks.chars ++ q.body)

/-- The text of a query. -/
def text (q : PlainQuery) : String := String.ofList q.chars

variable (q : PlainQuery)

/-- The word of the field has the characters of a name, and perhaps a brace. -/
theorem isNamePart_of_mem_fieldWord {c : Char} (hc : c ∈ q.fieldWord) :
    GraphQL.Token.isNamePart c = true ∨ c = '{' := by
  rcases List.mem_append.mp hc with hname | hbrace
  · exact .inl (q.field.isNamePart_of_mem c hname)
  · split at hbrace
    · exact .inr (List.mem_singleton.mp hbrace)
    · cases hbrace

/-! ## A plain query as words -/

/-- From the brace on, the words are the brace, the field, and others. -/
theorem exists_wordsFrom_body (opened : Bool) :
    ∃ more, wordsFrom opened q.body = ['{'] :: q.fieldWord :: more := by
  obtain ⟨opened', hbrace⟩ := Heuristic.exists_wordsFrom_word (List.cons_ne_nil '{' [])
    (List.forall_mem_singleton.mpr rfl) (by decide) (fun b hb => (q.inside.ok b hb).isBlank) opened
    (q.fieldWord ++ q.last :: q.rest)
  have hfree : ∀ c ∈ q.fieldWord, Text.isBlank c = false := fun c hc => by
    rcases q.isNamePart_of_mem_fieldWord hc with hname | rfl
    · exact GraphQL.isBlank_of_isNamePart hname
    · rfl
  have hsign : q.fieldWord.head? ≠ some '#' := fun h => by
    have hpart := q.field.first_ok
    rw [Option.some.inj (h : some q.field.first = some '#')] at hpart
    cases hpart
  exact ⟨_, hbrace.trans (congrArg _ (Heuristic.wordsFrom_append (List.cons_ne_nil _ _) hfree
    hsign q.last_ok.isBlank opened' q.rest))⟩

/-- **The words of a plain query** are the keyword, if it is there, the brace, the field, and
others. -/
theorem exists_keptWords : ∃ more, keptWords q.chars
    = (q.mark.map fun mark => mark.1.keyword.toList).toList ++ ['{'] :: q.fieldWord :: more := by
  rw [← Heuristic.wordsFrom_false, chars]
  split
  · next hmark =>
    rw [hmark]
    exact q.exists_wordsFrom_body false
  · next type blanks hmark =>
    obtain ⟨opened', hword⟩ := @Heuristic.exists_wordsFrom_word
      blanks.first type.keyword.toList blanks.more (by cases type <;> decide)
      Heuristic.isBlank_of_mem_keyword (by cases type <;> decide)
      (fun b hb => (blanks.ok b hb).isBlank) false q.body
    obtain ⟨more, hbody⟩ := q.exists_wordsFrom_body opened'
    rw [hmark]
    exact ⟨more, hword.trans (congrArg _ hbody)⟩

/-- The first word of a plain query tells the type of the operation. -/
theorem operationType_keptWords :
    Heuristic.operationType ((keptWords q.chars).headD []) = q.type := by
  obtain ⟨more, hwords⟩ := q.exists_keptWords
  rw [hwords, type]
  cases q.mark with
  | none => rfl
  | some mark => exact mark.1.operationType_keyword

/-- The word of the field is not the keyword: the keyword has no brace, and is not the field. -/
theorem fieldWord_ne_keyword : q.fieldWord ≠ q.type.keyword.toList := by
  intro h
  cases hglued : q.glued with
  | false =>
    have hchars : q.field.chars = q.type.keyword.toList := by
      rw [← h, fieldWord, hglued]
      exact (List.append_nil _).symm
    exact q.field_ne (by rw [GraphQL.Name.text, hchars, String.ofList_toList]; rfl)
  | true =>
    have hmem : '{' ∈ q.fieldWord := by
      rw [fieldWord, hglued]
      exact List.mem_append_right _ (List.mem_singleton_self _)
    rw [h, ← OperationType.name_chars] at hmem
    exact q.type.name.notMem rfl hmem

/-- The field is left of its word when the brace is dropped. -/
theorem dropEnd_fieldWord : Text.dropEnd Heuristic.isOpening q.fieldWord = q.field.chars := by
  refine Text.dropEnd_append_of_all (fun c hc => ?_) ?_
  · rw [Heuristic.isOpening, Bool.or_eq_false_iff]
    exact ⟨beq_eq_false_iff_ne.mpr fun h => q.field.notMem rfl (h ▸ hc),
      beq_eq_false_iff_ne.mpr fun h => q.field.notMem rfl (h ▸ hc)⟩
  · cases q.glued <;> rfl

/-- **The field with the brace behind it** names the field. -/
theorem fieldOf_fieldWord : fieldOf q.type.keyword.toList q.fieldWord = some q.field.chars := by
  have hbrace : q.fieldWord ≠ ['{'] := fun h => by
    have hpart := q.field.first_ok
    rw [(List.cons.inj h).1] at hpart
    cases hpart
  have hparen : '(' ∉ q.fieldWord := fun hmem => by
    rcases q.isNamePart_of_mem_fieldWord hmem with h | h <;> cases h
  rw [fieldOf, if_neg (by simp [hbrace, q.fieldWord_ne_keyword, hparen]), dropEnd_fieldWord]
  rfl

/-- **By its words**, a plain query has the type that is written, and the field. -/
theorem heuristic_extract_eq : Heuristic.extract q.text = some ⟨q.type, q.field.text⟩ := by
  obtain ⟨more, hwords⟩ := q.exists_keptWords
  rw [Heuristic.extract_eq, text, String.toList_ofList, operationType_keptWords, hwords]
  have hmark : (q.mark.map fun mark => mark.1.keyword.toList).toList.findSome?
      (fieldOf q.type.keyword.toList) = none := by
    rw [type]
    cases q.mark with
    | none => rfl
    | some mark => simp [fieldOf]
  rw [List.findSome?_append, hmark, Option.none_or, List.findSome?_cons_of_isNone rfl,
    List.findSome?_cons_of_isSome (by rw [fieldOf_fieldWord]; rfl), fieldOf_fieldWord]
  rfl

/-! ## A plain query as a document -/

/-- The field ends at the brace or the blank behind it. -/
theorem exists_behind_field : ∃ d behind, GraphQL.Token.isNamePart d = false
    ∧ q.body = '{' :: (q.inside.chars ++ (q.field.chars ++ d :: behind)) := by
  rw [body, fieldWord, List.append_assoc]
  cases q.glued with
  | false => exact ⟨q.last, q.rest, q.last_ok.isNamePart_eq, rfl⟩
  | true => exact ⟨'{', q.last :: q.rest, rfl, rfl⟩

/-- **The tokens of a plain query** are the keyword, if it is there, the brace, the field, and
others. -/
theorem startsWith_tokenize : StartsWith q.field.text (q.mark.map Prod.fst) (tokenize q.text) := by
  obtain ⟨d, behind, hd, hbody⟩ := q.exists_behind_field
  have hchars : q.text.toList = q.chars := String.toList_ofList
  rw [chars] at hchars
  split at hchars
  · next hmark =>
    have hcut := GraphQL.cutAt_tokenize (hchars.trans hbody) rfl
    obtain ⟨inside, next, hbrace, hname⟩ := hcut.next_brace_name (by decide) q.inside.ok hd
    rw [hmark]
    exact .unmarked hbrace hname
  · next type blanks hmark =>
    rw [← OperationType.name_chars, hbody] at hchars
    have hcut := GraphQL.cutAt_tokenize hchars
      (GraphQL.isIgnored_of_isNameStart type.name.first_ok)
    obtain ⟨next, depth, hword, hdepth, hcut⟩ := GraphQL.CutAt.next_name_blanks hcut (by decide)
      (blanks.ok _ List.mem_cons_self) (fun b hb => blanks.ok b (List.mem_cons_of_mem _ hb)) rfl
    obtain ⟨inside, next, hbrace, hname⟩ := hcut.next_brace_name (by omega) q.inside.ok hd
    rw [hmark]
    rw [OperationType.name_text] at hword
    exact .marked hword hbrace hname

end PlainQuery

/-- The first selection of the first operation of a document. -/
def GraphQL.Document.firstSelection (document : Document) : Option Selection :=
  (document.findSome? FirstField.operationOf).bind fun operation => operation.2.head?

/-- The label of a field. -/
def GraphQL.Selection.label? : Selection → Option String
  | .field label _ _ _ _ => label
  | .spread _ _ => none
  | .inline _ _ _ => none

namespace PlainQuery

variable (q : PlainQuery)

/-- **As a document**, a plain query has the type that is written, and the field. -/
theorem ofDocument_eq {document : Document} (h : Document.parse q.text = .ok document)
    (hlabel : document.firstSelection.bind Selection.label? = none) :
    FirstField.ofDocument document = .ok ⟨q.type, q.field.text⟩ := by
  obtain ⟨label, name, arguments, annotations, inside, more, hfirst, hname⟩ :=
    GraphQL.Grammar.findSome?_of_parse q.startsWith_tokenize h
  rw [Document.firstSelection, hfirst] at hlabel
  obtain rfl := hname hlabel
  rw [FirstField.ofDocument, hfirst]
  rfl

/-- **Both ways to find the field of a plain query** find the field that is written behind its
brace, and the type of its keyword, if the query is a document and the field has no label. -/
theorem extract_eq_of_parse {document : Document} (h : Document.parse q.text = .ok document)
    (hlabel : document.firstSelection.bind Selection.label? = none) (kind : ExtractorKind) :
    kind.extract q.text = .ok ⟨q.type, q.field.text⟩ := by
  cases kind with
  | heuristic => rw [ExtractorKind.extract, heuristic_extract_eq]
  | document =>
    have hextract : FirstField.extract q.text = .ok ⟨q.type, q.field.text⟩ := by
      unfold FirstField.extract
      rw [h]
      exact q.ofDocument_eq h hlabel
    exact congrArg (Except.mapError FirstField.Failure.error) hextract

/-- A mutation with its field on a line of its own, and a brace right behind the field. -/
def addition : PlainQuery where
  mark := some (.mutation, ⟨' ', [], by simp [IsSpace]⟩)
  inside := ⟨'\n', [' ', ' '], by simp [IsSpace]⟩
  field := ⟨'a', "dd".toList, by decide, by decide⟩
  field_ne := by decide
  glued := true
  last := ' '
  last_ok := .inl rfl
  rest := "id \x7d\n\x7d".toList

/-- Both ways find the field of the mutation. -/
theorem extract_eq_addition :
    addition.text = "mutation \x7b\n  add\x7b id \x7d\n\x7d"
      ∧ ExtractorKind.heuristic.extract addition.text = .ok ⟨.mutation, "add"⟩
      ∧ ExtractorKind.document.extract addition.text = .ok ⟨.mutation, "add"⟩ := by
  have hparse : Document.parse addition.text = .ok [.operation .mutation none [] []
      [.field none "add" [] [] [.field none "id" [] [] []]]] := rfl
  exact ⟨rfl, extract_eq_of_parse addition hparse rfl .heuristic,
    extract_eq_of_parse addition hparse rfl .document⟩

end PlainQuery

end GraphGateway
