import GraphGateway.Operation.Extractor
import GraphGateway.Proofs.Operation.Words
import GraphGateway.Proofs.Routing.Interleaving
import GraphGateway.Proofs.Text.Lowercase

/-!
# The word that names the field

Of the words that count in a query, some are **passed over**: those with a parenthesis, those that
are nothing but braces, and the keyword of the operation. The first of the others names the field,
without the braces at its end. That is all there is to the quick way of reading a query
(`extract_heuristic`): how the words stand on lines, what blanks are between them and which comments
are among the lines is of no account.

A field that is found in this way is never empty. So the look-up of a server, which goes by exact
names, never comes upon a type that has no name.
-/

namespace GraphGateway.Heuristic

open Text (isBlank)

variable {type : OperationType} {word : List Char} {words before after : List (List Char)}

/-! ## Words that are passed over -/

/-- **Whether a word names no field** of an operation of a type. -/
def IsPassedOver (type : OperationType) (word : List Char) : Prop :=
  '(' ∈ word ∨ (∀ c ∈ word, c = '{') ∨ word = type.keyword.toList

instance (type : OperationType) (word : List Char) : Decidable (IsPassedOver type word) :=
  -- the word is searched, and not all characters there are
  have : Decidable (∀ c ∈ word, c = '{') := List.decidableBAll _ word
  inferInstanceAs (Decidable (_ ∨ _ ∨ _))

/-- A word without the braces at its end. -/
def withoutBraces (word : List Char) : List Char := Text.dropEnd (· == '{') word

/-- A word is nothing but braces if nothing is left without those at its end. -/
theorem withoutBraces_eq_nil_iff : withoutBraces word = [] ↔ ∀ c ∈ word, c = '{' := by
  rw [withoutBraces, Text.dropEnd_eq_rdropWhile, List.rdropWhile_eq_nil_iff]
  simp only [beq_iff_eq]

/-- Without a parenthesis in a word, only braces are dropped at its end. -/
theorem dropEnd_isOpening (hword : '(' ∉ word) :
    Text.dropEnd isOpening word = withoutBraces word := by
  refine Text.dropEnd_congr fun c hc => ?_
  have hne : (c == '(') = false := beq_eq_false_iff_ne.mpr fun h => hword (h ▸ hc)
  rw [isOpening, hne, Bool.or_false]

/-- **A word names a field** unless it is passed over. -/
theorem fieldOf_eq_ite (type : OperationType) (word : List Char) :
    fieldOf type.keyword.toList word
      = if IsPassedOver type word then none else some (withoutBraces word) := by
  rw [fieldOf]
  by_cases hpassed : IsPassedOver type word
  · rw [if_pos hpassed]
    obtain hparen | hbraces | hkeyword := hpassed
    · exact if_pos (by simp [hparen])
    · have hparen : '(' ∉ word := fun h => absurd (hbraces _ h) (by decide)
      rw [dropEnd_isOpening hparen, withoutBraces_eq_nil_iff.mpr hbraces]
      exact ite_self none
    · exact if_pos (by simp [hkeyword])
  · rw [if_neg hpassed]
    obtain ⟨hparen, hbraces, hkeyword⟩ :
        '(' ∉ word ∧ ¬ (∀ c ∈ word, c = '{') ∧ word ≠ type.keyword.toList := by
      simpa only [IsPassedOver, not_or] using hpassed
    have hlone : word ≠ ['{'] := fun h => hbraces (h ▸ List.forall_mem_singleton.mpr rfl)
    rw [if_neg (by simp [hlone, hkeyword, hparen]), dropEnd_isOpening hparen]
    split
    · next hnone => exact absurd (withoutBraces_eq_nil_iff.mp hnone) hbraces
    · rfl

/-! ## The field that words name -/

/-- **The field that some words name**: the first of them that is not passed over, without the
braces at its end. -/
def named (type : OperationType) (words : List (List Char)) : Option (List Char) :=
  (words.find? fun word => !decide (IsPassedOver type word)).map withoutBraces

/-- The first word that names a field is the first that is not passed over. -/
theorem findSome?_fieldOf (type : OperationType) (words : List (List Char)) :
    words.findSome? (fieldOf type.keyword.toList) = named type words := by
  rw [named]
  induction words with
  | nil => rfl
  | cons word words ih =>
    rw [List.findSome?_cons, List.find?_cons, fieldOf_eq_ite, ih]
    by_cases h : IsPassedOver type word <;> simp [h]

/-- **No field is named** exactly if all words are passed over. -/
theorem named_eq_none_iff : named type words = none ↔ ∀ word ∈ words, IsPassedOver type word := by
  simp [named]

/-- Words that are passed over change nothing in front of others. -/
theorem named_append_of_forall (hbefore : ∀ word ∈ before, IsPassedOver type word)
    (words : List (List Char)) : named type (before ++ words) = named type words := by
  have hnone : (before.find? fun word => !decide (IsPassedOver type word)) = none := by
    simpa using hbefore
  rw [named, List.find?_append, hnone, Option.none_or, named]

/-- Behind a word that is not passed over, no word counts. -/
theorem named_append_of_exists (hbefore : ∃ word ∈ before, ¬ IsPassedOver type word)
    (words : List (List Char)) : named type (before ++ words) = named type before := by
  have hsome := List.find?_isSome (p := fun word => !decide (IsPassedOver type word)).mpr
    (by simpa using hbefore)
  obtain ⟨word, hword⟩ := Option.isSome_iff_exists.mp hsome
  rw [named, List.find?_append, hword, Option.some_or, named, hword]

/-- A word in front that is passed over changes nothing. -/
theorem named_cons_of_isPassedOver (hword : IsPassedOver type word) (words : List (List Char)) :
    named type (word :: words) = named type words :=
  named_append_of_forall (List.forall_mem_singleton.mpr hword) words

/-- A word in front that is not passed over names the field. -/
theorem named_cons_of_not_isPassedOver (hword : ¬ IsPassedOver type word)
    (words : List (List Char)) : named type (word :: words) = some (withoutBraces word) := by
  rw [named, List.find?_cons_of_pos (by simpa using hword), Option.map_some]

/-- **A field that words name** is one of them, without the braces at its end. -/
theorem exists_of_named {field : List Char} (h : named type words = some field) :
    ∃ word ∈ words, ¬ IsPassedOver type word ∧ withoutBraces word = field := by
  obtain ⟨word, hword, hfield⟩ := Option.map_eq_some_iff.mp h
  exact ⟨word, List.mem_of_find?_eq_some hword, by simpa using List.find?_some hword, hfield⟩

/-! ## Queries -/

/-- What comes of a field that was named, or of none. -/
def outcome (type : OperationType) : Option (List Char) → Except GatewayError Operation
  | none => .error (.unreadableQuery "could not extract field name from query")
  | some field => .ok ⟨type, String.ofList field⟩

/-- **A query is read by its words**: its operation has the type of the first of them, and the
field that they name. -/
theorem extract_heuristic (query : String) :
    ExtractorKind.heuristic.extract query
      = outcome (operationType ((keptWords query.toList).headD []))
        (named (operationType ((keptWords query.toList).headD [])) (keptWords query.toList)) := by
  rw [ExtractorKind.extract, extract_eq, findSome?_fieldOf]
  cases named (operationType ((keptWords query.toList).headD [])) (keptWords query.toList) <;> rfl

/-- The field of a query is one of its words, without the braces at its end. -/
theorem exists_word_of_extract {query : String} {operation : Operation}
    (h : ExtractorKind.heuristic.extract query = .ok operation) :
    ∃ word ∈ keptWords query.toList, ¬ IsPassedOver operation.type word
      ∧ withoutBraces word = operation.field.toList := by
  rw [extract_heuristic] at h
  cases hfield : named (operationType ((keptWords query.toList).headD []))
      (keptWords query.toList) with
  | none => rw [hfield] at h; cases h
  | some field =>
    rw [hfield] at h
    obtain ⟨word, hmem, hword, hbraces⟩ := exists_of_named hfield
    rw [← Except.ok.inj h, String.toList_ofList]
    exact ⟨word, hmem, hword, hbraces⟩

/-- A word that counts has no blank in it. -/
theorem isBlank_of_mem_keptWords {query : List Char} (h : word ∈ keptWords query) :
    ∀ c ∈ word, isBlank c = false := by
  obtain ⟨line, -, hword⟩ := List.mem_flatMap.mp h
  exact (Text.ne_nil_and_isBlank_of_mem_words hword).2

/-- What is left of a word is in it. -/
theorem mem_of_mem_withoutBraces {c : Char} (h : c ∈ withoutBraces word) : c ∈ word :=
  List.IsPrefix.subset (List.rdropWhile_prefix _ word) h

/-- What is left of a word does not end with a brace. -/
theorem getLast?_withoutBraces (word : List Char) : (withoutBraces word).getLast? ≠ some '{' := by
  intro h
  have hne : withoutBraces word ≠ [] := fun hnil => by rw [hnil] at h; cases h
  have hlast := List.rdropWhile_last_not (· == '{') word hne
  rw [List.getLast?_eq_some_getLast hne] at h
  exact hlast (beq_iff_eq.mpr (Option.some.inj h))

/-- **A field is well formed**: it is not empty, has neither blanks nor parentheses in it, and
does not end with a brace. -/
theorem field_of_extract {query : String} {operation : Operation}
    (h : ExtractorKind.heuristic.extract query = .ok operation) :
    operation.field ≠ "" ∧ (∀ c ∈ operation.field.toList, isBlank c = false ∧ c ≠ '(')
      ∧ operation.field.toList.getLast? ≠ some '{' := by
  obtain ⟨word, hmem, hword, hbraces⟩ := exists_word_of_extract h
  rw [← hbraces]
  refine ⟨fun hempty => ?_, fun c hc => ?_, getLast?_withoutBraces word⟩
  · rw [hempty] at hbraces
    exact hword (.inr (.inl (withoutBraces_eq_nil_iff.mp hbraces)))
  · have hin := mem_of_mem_withoutBraces hc
    exact ⟨isBlank_of_mem_keptWords hmem c hin, fun hparen => hword (.inl (hparen ▸ hin))⟩

/-- **Whether a query is read by its words alone**, as an operation of a type. -/
structure ReadsByWords (query : String) (type : OperationType) : Prop where
  /-- Reading it fails exactly if all of its words are passed over. -/
  failed : (∃ e, ExtractorKind.heuristic.extract query = .error e)
    ↔ ∀ word ∈ keptWords query.toList, IsPassedOver type word
  /-- It fails with one error only. -/
  error : ∀ e, ExtractorKind.heuristic.extract query = .error e →
    e = .unreadableQuery "could not extract field name from query"
  /-- Otherwise the field is named by the first word that is not passed over. -/
  found : ∀ (before : List (List Char)) (word : List Char) (after : List (List Char)),
    keptWords query.toList = before ++ word :: after →
    (∀ earlier ∈ before, IsPassedOver type earlier) → ¬ IsPassedOver type word →
    ExtractorKind.heuristic.extract query = .ok ⟨type, String.ofList (withoutBraces word)⟩
  /-- A query with the same words is read in the same way. -/
  same : ∀ other : String, keptWords other.toList = keptWords query.toList →
    ExtractorKind.heuristic.extract other = ExtractorKind.heuristic.extract query
  /-- A field is not empty, has neither blanks nor parentheses in it, and does not end with a
  brace. -/
  field : ∀ operation : Operation, ExtractorKind.heuristic.extract query = .ok operation →
    operation.field ≠ "" ∧ (∀ c ∈ operation.field.toList, isBlank c = false ∧ c ≠ '(')
      ∧ operation.field.toList.getLast? ≠ some '{'
  /-- Whatever other clients do, a server that the field is looked up at declares it, and not by
  a name that is empty. -/
  declared : ∀ (operation : Operation) (others : Registry → Registry → Prop) (r left : Registry)
    (events : List Flow.Event) (server : Server),
    ExtractorKind.heuristic.extract query = .ok operation →
    Flow.Among others (Router.resolve operation.field) r events (.ok server) left →
    ∃ schema ∈ server.schema,
      ∃ name ∈ schema.rootTypeNames ++ schema.typeNames ++ schema.fieldNames,
        name ≠ "" ∧ name = operation.field

/-- **A query is read by its words alone**, and the type of its operation is told by the first of
them in lower case. -/
theorem readsByWords_of_isLowerCase {query : String} {lowered : List Char}
    (h : Text.IsLowerCase ((keptWords query.toList).headD []) lowered) :
    ReadsByWords query (typeOfLowered lowered) := by
  have hextract := extract_heuristic query
  rw [operationType_eq_typeOfLowered h] at hextract
  constructor
  case failed =>
    rw [hextract, ← named_eq_none_iff]
    cases named (typeOfLowered lowered) (keptWords query.toList) <;> simp [outcome]
  case error =>
    intro e he
    rw [hextract] at he
    cases hfield : named (typeOfLowered lowered) (keptWords query.toList) with
    | none => rw [hfield] at he; exact (Except.error.inj he).symm
    | some field => rw [hfield] at he; cases he
  case found =>
    intro before word after hwords hbefore hword
    rw [hextract, hwords, named_append_of_forall hbefore, named_cons_of_not_isPassedOver hword,
      outcome]
  case same =>
    intro other hother
    rw [extract_heuristic, extract_heuristic, hother]
  case field => exact fun operation => field_of_extract
  case declared =>
    intro operation others r left events server hok hrun
    obtain ⟨-, -, -, -, -, -, schema, hschema, hname⟩ :=
      (Router.resolved_of_among hrun).found rfl
    exact ⟨schema, hschema, operation.field, by simpa [or_assoc] using hname,
      (field_of_extract hok).1, rfl⟩

/-- A mutation in capitals behind a comment, with a list of arguments right behind its keyword and
two braces behind its field. -/
def commentedAddition : String := "# adds one\r\n\u00a0MUTATION($n:Int) \x7b\n\n\tadd\x7b\x7b id"

/-- The mutation is read by its words. -/
theorem readsByWords_commentedAddition :
    Text.IsLowerCase ((keptWords commentedAddition.toList).headD []) "mutation($n:int)".toList
      ∧ ReadsByWords commentedAddition .mutation
      ∧ ExtractorKind.heuristic.extract commentedAddition = .ok ⟨.mutation, "add"⟩ := by
  have hlower : Text.IsLowerCase ((keptWords commentedAddition.toList).headD [])
      "mutation($n:int)".toList := Text.isLowerCase_of_ascii (by decide)
  have hwords : keptWords commentedAddition.toList
      = ["MUTATION($n:Int)".toList, ['{']] ++ "add\x7b\x7b".toList :: ["id".toList] := by
    decide
  have hread : ReadsByWords commentedAddition .mutation := readsByWords_of_isLowerCase hlower
  exact ⟨hlower, hread, hread.found _ _ _ hwords (by decide) (by decide)⟩

end GraphGateway.Heuristic
