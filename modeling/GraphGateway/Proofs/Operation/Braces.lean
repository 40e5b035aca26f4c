import GraphGateway.Proofs.Operation.Fields

/-!
# Braces that are put right behind a word

A query may have a brace right behind a letter, as in `users{ id }`, and then the letter and the
brace are in one word. A space between the two parts the word, and leaves all other words as
they are (`exists_parting`). So the space matters only where the parts are looked at, that is, where
all the words before them are passed over.

There it often changes nothing: where only braces are behind the letter, and the part before names
the field, it does so with and without the space. But a word is taken as a whole. The keyword of an
operation with a brace behind it is no keyword, and names the field; a parenthesis behind the brace
lets the part before be passed over too; and what is behind the brace belongs to the field if the
word is not parted. `Respaced` lists all that the space can do, and `extract_spaced` says that it
does just that.
-/

namespace GraphGateway.Heuristic

open Text (isBlank words splitOn)

/-! ## The place of a brace -/

/-- **A place where a brace is put right behind a word**: a query, taken apart there. -/
structure GluedBrace where
  /-- What is before the last character of the word. -/
  before : List Char
  /-- The last character of the word, such as a letter, a digit or an underscore. -/
  last : Char
  /-- It is neither a blank nor a brace. -/
  last_ok : isBlank last = false ∧ last ≠ '{'
  /-- What is behind the brace. -/
  behind : List Char

namespace GluedBrace

variable (g : GluedBrace)

/-- The query as it is. -/
def glued : String := String.ofList ((g.before ++ [g.last]) ++ '{' :: g.behind)

/-- The query with a space before the brace. -/
def spaced : String := String.ofList ((g.before ++ [g.last]) ++ ' ' :: '{' :: g.behind)

/-- The line of the brace, up to the brace. -/
def line : List Char := g.before.rtakeWhile (· != '\n') ++ [g.last]

/-- **Whether the line of the brace is a comment**: its first character that is not blank is the
sign of one. -/
def IsCommented : Prop := (g.line.dropWhile isBlank).head? = some '#'

/-- The type of the operation. -/
def type : OperationType := operationType ((keptWords g.glued.toList).headD [])

/-- **Where the space parts a word**: the words before it, its part before the brace and that
behind it, and the words behind. -/
structure Parting where
  /-- The words before. -/
  earlier : List (List Char)
  /-- The part of the word before the brace. -/
  stem : List Char
  /-- The part of the word behind the brace. -/
  more : List Char
  /-- The words behind. -/
  later : List (List Char)
  /-- These are the words of the query as it is. -/
  glued_eq : keptWords g.glued.toList = earlier ++ (stem ++ '{' :: more) :: later
  /-- These are the words of the query with the space. -/
  spaced_eq : keptWords g.spaced.toList = earlier ++ stem :: ('{' :: more) :: later
  /-- The first part ends before the brace. -/
  getLast?_stem : stem.getLast? = some g.last

end GluedBrace

/-! ## The words with the space -/

/-- Whether a line is a comment depends on how its first word starts. -/
theorem withoutComment_append {stem : List Char} (hstem : stem ≠ [])
    (earlier later : List (List Char)) (more : List Char) :
    withoutComment (earlier ++ (stem ++ more) :: later)
      = if (earlier ++ [stem]).head?.bind List.head? = some '#' then []
        else earlier ++ (stem ++ more) :: later := by
  obtain ⟨c, stem, rfl⟩ := List.exists_cons_of_ne_nil hstem
  cases earlier <;> rfl

/-- **A space before a brace parts a word of its line**, unless the line is a comment. -/
theorem exists_lineWords {c : Char} (hc : isBlank c = false) (line rest : List Char) :
    ((line ++ [c]).dropWhile isBlank).head? = some '#'
        ∧ lineWords ((line ++ [c]) ++ ' ' :: '{' :: rest) = lineWords ((line ++ [c]) ++ '{' :: rest)
      ∨ ((line ++ [c]).dropWhile isBlank).head? ≠ some '#' ∧ ∃ earlier stem more later,
        lineWords ((line ++ [c]) ++ '{' :: rest) = earlier ++ (stem ++ '{' :: more) :: later
          ∧ lineWords ((line ++ [c]) ++ ' ' :: '{' :: rest)
            = earlier ++ stem :: ('{' :: more) :: later
          ∧ stem.getLast? = some c := by
  obtain ⟨earlier, stem, more, later, hfirst, hsecond, hglued⟩ :=
    Text.exists_words_append hc (d := '{') rfl line rest
  have hspaced : words ((line ++ [c]) ++ ' ' :: '{' :: rest)
      = earlier ++ (stem ++ [c]) :: ('{' :: more) :: later := by
    rw [Text.words_append_cons rfl, hfirst, hsecond, List.append_assoc]
    rfl
  have hne : stem ++ [c] ≠ [] := by simp
  rw [lineWords, lineWords, hglued, hspaced, withoutComment_append hne]
  have hparted := withoutComment_append hne earlier (('{' :: more) :: later) []
  rw [List.append_nil] at hparted
  rw [hparted, ← Text.head?_words, hfirst]
  split
  · next hcomment => exact .inl ⟨hcomment, rfl⟩
  · next hcomment =>
    exact .inr ⟨hcomment, earlier, stem ++ [c], more, later, rfl, rfl, List.getLast?_concat⟩

/-- **What is added to a line** without a line feed is between what the line is before and what
it is behind, and other lines keep their words. -/
theorem exists_keptWords_append {c : Char} (hc : c ≠ '\n') (s t : List Char) :
    ∃ earlier rest later, ∀ added : List Char, '\n' ∉ added →
      keptWords ((s ++ [c]) ++ (added ++ t))
        = earlier ++ lineWords ((s.rtakeWhile (· != '\n') ++ [c]) ++ (added ++ rest))
          ++ later := by
  have hfree {l : List Char} (hl : '\n' ∉ l) : ∀ d ∈ l, (d == '\n') = false := fun d hd =>
    beq_eq_false_iff_ne.mpr fun h => hl (h ▸ hd)
  obtain ⟨lines, hline⟩ := Text.exists_splitOn_eq (· == '\n') (s ++ [c])
  have hlast : (s ++ [c]).rtakeWhile (· != '\n') = s.rtakeWhile (· != '\n') ++ [c] :=
    List.rtakeWhile_concat_pos _ _ _ (by simpa using hc)
  obtain ⟨rest, more, -, hrest⟩ := Text.exists_splitOn (· == '\n') t
  refine ⟨lines.flatMap lineWords, rest, more.flatMap lineWords, fun added hadded => ?_⟩
  obtain ⟨lines', line', rest', more', hs, ht, happend⟩ :=
    Text.exists_splitOn_append (· == '\n') (s ++ [c]) (added ++ t)
  -- the lines of both parts are those that were found before
  obtain ⟨rfl, hpiece⟩ := List.append_inj' (hs.symm.trans hline) rfl
  obtain rfl : line' = s.rtakeWhile (· != '\n') ++ [c] :=
    (List.singleton_inj.mp hpiece).trans hlast
  obtain ⟨rfl, rfl⟩ := List.cons.inj
    (ht.symm.trans (Text.splitOn_append_of_free (hfree hadded) hrest))
  rw [keptWords_eq, happend, List.flatMap_append, List.flatMap_cons]
  exact (List.append_assoc ..).symm

/-- **A space before a brace parts one word of the query**, or its line is a comment. -/
theorem GluedBrace.exists_parting (g : GluedBrace) :
    g.IsCommented ∧ keptWords g.spaced.toList = keptWords g.glued.toList
      ∨ ¬ g.IsCommented ∧ Nonempty g.Parting := by
  have hlast : g.last ≠ '\n' := fun h => by
    have hblank := g.last_ok.1
    rw [h] at hblank
    cases hblank
  obtain ⟨before, rest, behind, happend⟩ := exists_keptWords_append hlast g.before g.behind
  have hglued : keptWords g.glued.toList
      = before ++ lineWords (g.line ++ '{' :: rest) ++ behind := by
    rw [GluedBrace.glued, String.toList_ofList]
    exact happend ['{'] (by decide)
  have hspaced : keptWords g.spaced.toList
      = before ++ lineWords (g.line ++ ' ' :: '{' :: rest) ++ behind := by
    rw [GluedBrace.spaced, String.toList_ofList]
    exact happend [' ', '{'] (by decide)
  obtain ⟨hcomment, hsame⟩ | ⟨hcomment, earlier, stem, more, later, hone, htwo, hstem⟩ :=
    exists_lineWords g.last_ok.1 (g.before.rtakeWhile (· != '\n')) rest
  · exact .inl ⟨hcomment, by rw [hglued, hspaced, line, hsame]⟩
  · exact .inr ⟨hcomment, ⟨before ++ earlier, stem, more, later ++ behind,
      by rw [hglued, line, hone]; simp, by rw [hspaced, line, htwo]; simp, hstem⟩⟩

/-! ## The type with the space -/

/-- **The type of the operation** is the same with the space. -/
theorem GluedBrace.Parting.type_spaced {g : GluedBrace} (p : g.Parting) :
    operationType ((keptWords g.spaced.toList).headD []) = g.type := by
  have hbrace (type : OperationType) : '{'.toLower ∉ type.keyword.toList := by
    cases type <;> decide
  rw [GluedBrace.type, p.glued_eq, p.spaced_eq]
  cases p.earlier with
  | nil =>
    exact (operationType_append
      (fun c hc type => Option.some.inj hc ▸ hbrace type : ∀ c ∈ ('{' :: p.more).head?, _)
      p.stem).symm
  | cons => rfl

/-! ## The field with the space -/

section

variable {type : OperationType} {c : Char} {stem more : List Char}

/-- A part that ends with no brace is not braces only. -/
theorem not_forall_of_getLast? (hstem : stem.getLast? = some c) (hc : c ≠ '{') :
    ¬ ∀ d ∈ stem, d = '{' := fun h => hc (h c (List.mem_of_getLast? hstem))

/-- A keyword has neither braces nor parentheses in it. -/
theorem notMem_keyword (type : OperationType) :
    '{' ∉ type.keyword.toList ∧ '(' ∉ type.keyword.toList := by
  cases type <;> decide

/-- The part before the brace is passed over for a parenthesis, or as the keyword. -/
theorem isPassedOver_stem (hstem : stem.getLast? = some c) (hc : c ≠ '{') :
    IsPassedOver type stem ↔ '(' ∈ stem ∨ stem = type.keyword.toList := by
  simp only [IsPassedOver, not_forall_of_getLast? hstem hc, false_or]

/-- The brace and what is behind it are passed over for a parenthesis, or as braces. -/
theorem isPassedOver_brace :
    IsPassedOver type ('{' :: more) ↔ '(' ∈ more ∨ ∀ d ∈ more, d = '{' := by
  have hkeyword : '{' :: more ≠ type.keyword.toList := fun h =>
    (notMem_keyword type).1 (h ▸ List.mem_cons_self)
  simp [IsPassedOver, hkeyword]

/-- The whole word is passed over for a parenthesis only. -/
theorem isPassedOver_glued (hstem : stem.getLast? = some c) (hc : c ≠ '{') :
    IsPassedOver type (stem ++ '{' :: more) ↔ '(' ∈ stem ∨ '(' ∈ more := by
  have hkeyword : stem ++ '{' :: more ≠ type.keyword.toList := fun h =>
    (notMem_keyword type).1 (h ▸ List.mem_append_right stem List.mem_cons_self)
  have hbraces : ¬ ∀ d ∈ stem ++ '{' :: more, d = '{' := fun h =>
    not_forall_of_getLast? hstem hc fun d hd => h d (List.mem_append_left _ hd)
  simp only [IsPassedOver, hkeyword, hbraces, or_false]
  simp

/-- The braces at the end of the whole word are behind its first part. -/
theorem withoutBraces_append (hstem : stem.getLast? = some c) (hc : c ≠ '{') (more : List Char) :
    withoutBraces (stem ++ more) = stem ++ withoutBraces more :=
  Text.dropEnd_append (fun d hd => by
    rw [← Option.some.inj (hstem.symm.trans hd)]
    exact beq_eq_false_iff_ne.mpr hc) more

/-- Nothing is left of a brace with only braces behind it. -/
theorem withoutBraces_brace (hmore : ∀ d ∈ more, d = '{') : withoutBraces ('{' :: more) = [] :=
  withoutBraces_eq_nil_iff.mpr (List.forall_mem_cons.mpr ⟨rfl, hmore⟩)

/-- **The part before the brace names the field** if it has no parenthesis and is no keyword. -/
theorem named_stem (hstem : stem.getLast? = some c) (hc : c ≠ '{') (hparen : '(' ∉ stem)
    (hkeyword : stem ≠ type.keyword.toList) (later : List (List Char)) :
    named type (stem :: later) = some stem := by
  have hnil : withoutBraces [] = [] := rfl
  have hwhole : withoutBraces stem = stem := by
    simpa [hnil] using withoutBraces_append hstem hc []
  rw [named_cons_of_not_isPassedOver
    (mt (isPassedOver_stem hstem hc).mp (not_or.mpr ⟨hparen, hkeyword⟩)), hwhole]

/-- **The whole word names the field** if neither part has a parenthesis. -/
theorem named_glued (hstem : stem.getLast? = some c) (hc : c ≠ '{') (hparen : '(' ∉ stem)
    (hmore : '(' ∉ more) (later : List (List Char)) :
    named type ((stem ++ '{' :: more) :: later)
      = some (stem ++ withoutBraces ('{' :: more)) := by
  rw [named_cons_of_not_isPassedOver
    (mt (isPassedOver_glued hstem hc).mp (not_or.mpr ⟨hparen, hmore⟩)),
    withoutBraces_append hstem hc]

/-- **What a space before a brace does** to the field, where the words before are passed over: the
field without the space and the field with it, by the part of the word before the brace, what is
behind the brace, and the field that the words behind name. -/
inductive Respaced (type : OperationType) (stem more : List Char) (later : Option (List Char)) :
    Option (List Char) → Option (List Char) → Prop where
  /-- Only braces are behind a part that names the field, with or without them. -/
  | kept (hparen : '(' ∉ stem) (hkeyword : stem ≠ type.keyword.toList)
    (hmore : ∀ d ∈ more, d = '{') : Respaced type stem more later (some stem) (some stem)
  /-- Both parts are passed over, and so is the whole. -/
  | passed (hword : '(' ∈ stem ∧ ('(' ∈ more ∨ ∀ d ∈ more, d = '{')
      ∨ stem = type.keyword.toList ∧ '(' ∈ more) :
    Respaced type stem more later later later
  /-- What is behind the brace belongs to the field without the space. -/
  | cut (hparen : '(' ∉ stem) (hkeyword : stem ≠ type.keyword.toList) (hmore : '(' ∉ more)
    (hbraces : ¬ ∀ d ∈ more, d = '{') :
    Respaced type stem more later (some (stem ++ withoutBraces ('{' :: more))) (some stem)
  /-- A parenthesis behind the brace lets the whole word be passed over, and the part before names
  the field. -/
  | uncovered (hparen : '(' ∉ stem) (hkeyword : stem ≠ type.keyword.toList) (hmore : '(' ∈ more) :
    Respaced type stem more later later (some stem)
  /-- A parenthesis before the brace lets the whole word be passed over, and the part behind names
  the field. -/
  | freed (hparen : '(' ∈ stem) (hmore : '(' ∉ more) (hbraces : ¬ ∀ d ∈ more, d = '{') :
    Respaced type stem more later later (some (withoutBraces ('{' :: more)))
  /-- The keyword names the field with braces behind it, and is passed over without them. -/
  | keyword (hkeyword : stem = type.keyword.toList) (hmore : ∀ d ∈ more, d = '{') :
    Respaced type stem more later (some stem) later
  /-- The keyword is a part of the field, and is passed over by itself. -/
  | keywordCut (hkeyword : stem = type.keyword.toList) (hmore : '(' ∉ more)
    (hbraces : ¬ ∀ d ∈ more, d = '{') :
    Respaced type stem more later (some (stem ++ withoutBraces ('{' :: more)))
      (some (withoutBraces ('{' :: more)))

/-- **A space before a brace does one of these.** -/
theorem respaced (type : OperationType) (hstem : stem.getLast? = some c) (hc : c ≠ '{')
    (more : List Char) (later : List (List Char)) :
    Respaced type stem more (named type later) (named type ((stem ++ '{' :: more) :: later))
      (named type (stem :: ('{' :: more) :: later)) := by
  -- what the first part is says which words count, and then what is behind the brace
  by_cases hparen : '(' ∈ stem
  · rw [named_cons_of_isPassedOver ((isPassedOver_glued hstem hc).mpr (.inl hparen)),
      named_cons_of_isPassedOver ((isPassedOver_stem hstem hc).mpr (.inl hparen))]
    by_cases hbrace : '(' ∈ more ∨ ∀ d ∈ more, d = '{'
    · rw [named_cons_of_isPassedOver (isPassedOver_brace.mpr hbrace)]
      exact .passed (.inl ⟨hparen, hbrace⟩)
    · rw [named_cons_of_not_isPassedOver (mt isPassedOver_brace.mp hbrace)]
      exact .freed hparen (not_or.mp hbrace).1 (not_or.mp hbrace).2
  by_cases hkeyword : stem = type.keyword.toList
  · rw [named_cons_of_isPassedOver ((isPassedOver_stem hstem hc).mpr (.inr hkeyword))]
    by_cases hmore : '(' ∈ more
    · rw [named_cons_of_isPassedOver ((isPassedOver_glued hstem hc).mpr (.inr hmore)),
        named_cons_of_isPassedOver (isPassedOver_brace.mpr (.inl hmore))]
      exact .passed (.inr ⟨hkeyword, hmore⟩)
    rw [named_glued hstem hc hparen hmore]
    by_cases hbraces : ∀ d ∈ more, d = '{'
    · rw [named_cons_of_isPassedOver (isPassedOver_brace.mpr (.inr hbraces)),
        withoutBraces_brace hbraces, List.append_nil]
      exact .keyword hkeyword hbraces
    · rw [named_cons_of_not_isPassedOver
        (mt isPassedOver_brace.mp (not_or.mpr ⟨hmore, hbraces⟩))]
      exact .keywordCut hkeyword hmore hbraces
  · rw [named_stem hstem hc hparen hkeyword]
    by_cases hmore : '(' ∈ more
    · rw [named_cons_of_isPassedOver ((isPassedOver_glued hstem hc).mpr (.inr hmore))]
      exact .uncovered hparen hkeyword hmore
    rw [named_glued hstem hc hparen hmore]
    by_cases hbraces : ∀ d ∈ more, d = '{'
    · rw [withoutBraces_brace hbraces, List.append_nil]
      exact .kept hparen hkeyword hbraces
    · exact .cut hparen hkeyword hmore hbraces

end

/-! ## The query with the space -/

/-- **What a space before a brace does to a query.** In a comment it does nothing. Elsewhere it
parts a word and leaves the type of the operation as it is. If a word before names the field, it
still does, and if not, the field with the space comes of the field without it in one of the ways
of `Respaced`. -/
theorem GluedBrace.extract_spaced (g : GluedBrace) :
    (g.IsCommented ∧ keptWords g.spaced.toList = keptWords g.glued.toList
        ∧ ExtractorKind.heuristic.extract g.spaced = ExtractorKind.heuristic.extract g.glued)
      ∨ ¬ g.IsCommented ∧ ∃ p : g.Parting,
        ((∃ word ∈ p.earlier, ¬ IsPassedOver g.type word) →
          ExtractorKind.heuristic.extract g.spaced = ExtractorKind.heuristic.extract g.glued)
        ∧ ((∀ word ∈ p.earlier, IsPassedOver g.type word) →
          ∃ gluedField spacedField,
            Respaced g.type p.stem p.more (named g.type p.later) gluedField spacedField
              ∧ ExtractorKind.heuristic.extract g.glued = outcome g.type gluedField
              ∧ ExtractorKind.heuristic.extract g.spaced = outcome g.type spacedField) := by
  obtain ⟨hcomment, hsame⟩ | ⟨hcomment, ⟨p⟩⟩ := g.exists_parting
  · exact .inl ⟨hcomment, hsame, by rw [extract_heuristic, extract_heuristic, hsame]⟩
  have hglued : ExtractorKind.heuristic.extract g.glued
      = outcome g.type (named g.type (p.earlier ++ (p.stem ++ '{' :: p.more) :: p.later)) := by
    rw [extract_heuristic, ← GluedBrace.type, p.glued_eq]
  have hspaced : ExtractorKind.heuristic.extract g.spaced
      = outcome g.type (named g.type (p.earlier ++ p.stem :: ('{' :: p.more) :: p.later)) := by
    rw [extract_heuristic, p.type_spaced, p.spaced_eq]
  refine .inr ⟨hcomment, p, fun hearlier => ?_, fun hearlier => ⟨_, _,
    respaced g.type p.getLast?_stem g.last_ok.2 p.more p.later, ?_, ?_⟩⟩
  · rw [hglued, hspaced, named_append_of_exists hearlier, named_append_of_exists hearlier]
  · rw [hglued, named_append_of_forall hearlier]
  · rw [hspaced, named_append_of_forall hearlier]

/-- A query with a brace right behind its keyword. -/
def gluedKeyword : GluedBrace where
  before := "quer".toList
  last := 'y'
  last_ok := by decide
  behind := " users \x7d".toList

/-- **A space before a brace matters** behind a keyword, also where there is neither a comment nor
a string: with it the field of this query is `users`, and without it the keyword. -/
theorem not_extract_spaced_eq :
    ¬ ∀ g : GluedBrace, GraphQL.Token.isNamePart g.last = true →
      '#' ∉ g.glued.toList → '"' ∉ g.glued.toList →
      ExtractorKind.heuristic.extract g.spaced = ExtractorKind.heuristic.extract g.glued := by
  intro h
  have hspaced : ExtractorKind.heuristic.extract gluedKeyword.spaced = .ok ⟨.query, "users"⟩ := by
    decide
  have hglued : ExtractorKind.heuristic.extract gluedKeyword.glued = .ok ⟨.query, "query"⟩ := by
    decide
  have hsame := h gluedKeyword (by decide) (by decide) (by decide)
  rw [hspaced, hglued] at hsame
  exact absurd hsame (by decide)

end GraphGateway.Heuristic
