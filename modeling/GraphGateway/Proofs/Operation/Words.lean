import GraphGateway.Operation.Heuristic
import GraphGateway.Proofs.Text.Words

/-!
# The words that the field of a query is looked for in

The quick way to find a field puts the lines that count together again, and then cuts them into
words and looks at the letters in front. All that it sees are the words of the lines that
count, `keptWords`: they are the words of what was put together (`words_normalize`), and the type
of the operation is that of the first of them (`operationType_normalize`).

A query can be followed word by word, then. What is left of a query behind a place on one of its
lines has the words `wordsFrom`, and whether something stands before on the line decides if the
line may still be a comment.
-/

namespace GraphGateway.Heuristic

open Text (isBlank words splitOn)

/-- **The words that count** in a query: those of its lines that count. -/
def keptWords (query : List Char) : List (List Char) :=
  ((Text.lines query).filter fun line => counts (Text.trim line)).flatMap words

/-- **The lines that count, put together,** have the words that count. -/
theorem words_normalize (query : List Char) : words (normalize query) = keptWords query := by
  rw [normalize, Text.words_joinWithSpaces, List.filter_map, List.flatMap_map]
  exact congrArg (List.flatMap · _) (funext Text.words_trim)

/-! ## The type of the operation -/

/-- A blank has no other case. -/
theorem toLower_of_isBlank {c : Char} (hc : isBlank c = true) : c.toLower = c := by
  refine dif_neg fun hupper => ?_
  obtain ⟨hlow, hhigh⟩ : 65 ≤ c.toNat ∧ c.toNat ≤ 90 := hupper
  simp only [isBlank, Bool.or_eq_true, Bool.and_eq_true, decide_eq_true_eq, beq_iff_eq] at hc
  omega

/-- Letters in front of a text stand before the first character that is none of them. -/
theorem isPrefixOf_map_append {letters rest : List Char}
    (hrest : ∀ c ∈ rest.head?, c.toLower ∉ letters) (s : List Char) :
    letters.isPrefixOf ((s ++ rest).map Char.toLower)
      = letters.isPrefixOf (s.map Char.toLower) := by
  induction s generalizing letters with
  | nil =>
    cases letters with
    | nil => rfl
    | cons c letters =>
      cases rest with
      | nil => rfl
      | cons d rest =>
        have hne : (c == d.toLower) = false :=
          beq_eq_false_iff_ne.mpr fun h => hrest d rfl (h ▸ List.mem_cons_self)
        rw [List.nil_append, List.map_cons, List.isPrefixOf, hne]
        rfl
  | cons d s ih =>
    cases letters with
    | nil => rfl
    | cons c letters =>
      simp only [List.cons_append, List.map_cons, List.isPrefixOf,
        ih fun c hc hmem => hrest c hc (List.mem_cons_of_mem _ hmem)]

/-- The keyword of an operation has no blanks. -/
theorem isBlank_of_mem_keyword {type : OperationType} :
    ∀ c ∈ type.keyword.toList, isBlank c = false := by
  have hnone : type.keyword.toList.any isBlank = false := by cases type <;> decide
  exact fun c hc => Bool.eq_false_iff.mpr (List.any_eq_false.mp hnone c hc)

/-- **The type of an operation** is told by what stands before the first character that is in no
keyword. -/
theorem operationType_append {rest : List Char}
    (hrest : ∀ c ∈ rest.head?, ∀ type : OperationType, c.toLower ∉ type.keyword.toList)
    (s : List Char) : operationType (s ++ rest) = operationType s := by
  have hstart (type : OperationType) :
      startsWith type.keyword (s ++ rest) = startsWith type.keyword s :=
    isPrefixOf_map_append (fun c hc => hrest c hc type) s
  rw [operationType, operationType, hstart, hstart]

/-- The type of an operation is that of its first word. -/
theorem operationType_eq_of_words {s : List Char} (hs : ∀ c ∈ s.head?, isBlank c = false) :
    operationType s = operationType ((words s).headD []) := by
  by_cases hne : s = []
  · rw [hne]; rfl
  have hbehind : ∀ c ∈ (s.dropWhile (!isBlank ·)).head?, ∀ type : OperationType,
      c.toLower ∉ type.keyword.toList := fun c hc type hmem => by
    have hblank := Text.isBlank_of_head?_dropWhile s c hc
    rw [toLower_of_isBlank hblank] at hmem
    exact Bool.false_ne_true ((isBlank_of_mem_keyword c hmem).symm.trans hblank)
  have hfirst := operationType_append hbehind (s.takeWhile (!isBlank ·))
  rw [List.takeWhile_append_dropWhile] at hfirst
  rw [Text.words_eq_cons hne hs, List.headD_cons, hfirst]

/-- Pieces that do not start with a blank do not do so together. -/
theorem isBlank_of_head?_joinWithSpaces {pieces : List (List Char)}
    (hpieces : ∀ piece ∈ pieces, piece ≠ [] ∧ ∀ c ∈ piece.head?, isBlank c = false) :
    ∀ c ∈ (Text.joinWithSpaces pieces).head?, isBlank c = false := by
  match pieces with
  | [] => exact fun c hc => by cases hc
  | [piece] => exact (hpieces piece (List.mem_singleton_self piece)).2
  | piece :: next :: rest =>
    obtain ⟨hne, hpiece⟩ := hpieces piece List.mem_cons_self
    obtain ⟨c, more, rfl⟩ := List.exists_cons_of_ne_nil hne
    exact hpiece

/-- A line that counts holds something. -/
theorem ne_nil_of_counts {line : List Char} (h : counts line = true) : line ≠ [] := by
  rintro rfl
  cases h

/-- **The type of an operation** is that of the first word that counts. -/
theorem operationType_normalize (query : List Char) :
    operationType (normalize query) = operationType ((keptWords query).headD []) := by
  rw [← words_normalize]
  refine operationType_eq_of_words (isBlank_of_head?_joinWithSpaces fun piece hpiece => ?_)
  obtain ⟨hmem, hcounts⟩ := List.mem_filter.mp hpiece
  obtain ⟨line, -, rfl⟩ := List.mem_map.mp hmem
  exact ⟨ne_nil_of_counts hcounts, Text.isBlank_of_head?_trim⟩

/-- **What is found in a query** depends only on the words that count: the type of the operation
is that of the first of them, and the field is the first of them that names one. -/
theorem extract_eq (query : String) :
    extract query = ((keptWords query.toList).findSome? (fieldOf
        (operationType ((keptWords query.toList).headD [])).keyword.toList)).map fun field =>
      ⟨operationType ((keptWords query.toList).headD []), String.ofList field⟩ := by
  rw [extract]
  simp only [words_normalize, operationType_normalize]

/-! ## Lines and words -/

/-- The words of a line, without those of a comment. -/
def withoutComment (line : List (List Char)) : List (List Char) :=
  if line.head?.bind List.head? = some '#' then [] else line

/-- The words of a line that counts are those of the line without a comment. -/
theorem words_of_counts (line : List Char) :
    (if counts (Text.trim line) then words line else []) = withoutComment (words line) := by
  rw [← Text.words_trim line]
  by_cases hne : Text.trim line = []
  · rw [hne]; rfl
  rw [Text.words_eq_cons hne Text.isBlank_of_head?_trim]
  obtain ⟨c, rest, hc⟩ := List.exists_cons_of_ne_nil hne
  have hfree : isBlank c = false := Text.isBlank_of_head?_trim c (by rw [hc]; rfl)
  simp [counts, withoutComment, hc, hfree]

/-- A carriage return at the end of a line is in none of its words. -/
theorem words_dropCarriageReturn (line : List Char) :
    words (Text.dropCarriageReturn line) = words line := by
  unfold Text.dropCarriageReturn
  split
  · next rest hrest =>
    have hline : line = rest.reverse ++ ['\r'] := by
      rw [← List.reverse_reverse line, hrest, List.reverse_cons]
    rw [hline, Text.words_append_of_isAllBlank rfl]
  · rfl

/-- The words of a line that count. -/
def lineWords (line : List Char) : List (List Char) := withoutComment (words line)

/-- The lines of a text have the words that the pieces between line feeds have. -/
theorem flatMap_linesOfPieces : (pieces : List (List Char)) →
    (Text.linesOfPieces pieces).flatMap lineWords = pieces.flatMap lineWords
  | [] => rfl
  | [last] => by
    rw [Text.linesOfPieces]
    split
    · next hempty => rw [List.isEmpty_iff.mp hempty]; rfl
    · rfl
  | piece :: next :: rest => by
    rw [Text.linesOfPieces, List.flatMap_cons, flatMap_linesOfPieces (next :: rest), lineWords,
      words_dropCarriageReturn]
    · rfl
    · exact List.cons_ne_nil _ _

/-- **The words that count** are those of the pieces between line feeds, without comments. -/
theorem keptWords_eq (query : List Char) :
    keptWords query = (splitOn (· == '\n') query).flatMap lineWords := by
  have hfilter (lines : List (List Char)) :
      (lines.filter fun line => counts (Text.trim line)).flatMap words
        = lines.flatMap lineWords := by
    induction lines with
    | nil => rfl
    | cons line lines ih =>
      rw [List.filter_cons, List.flatMap_cons, ← ih, lineWords, ← words_of_counts]
      split <;> rfl
  exact (hfilter _).trans (flatMap_linesOfPieces _)

/-! ## What is left of a query -/

/-- The words that count in what is left of a query behind a place. `opened` says that
something stands before on the line, which is no comment then. -/
def wordsFrom (opened : Bool) (rest : List Char) : List (List Char) :=
  match splitOn (· == '\n') rest with
  | [] => []
  | line :: lines =>
    (if opened then words line else lineWords line) ++ lines.flatMap lineWords

variable {c : Char}

/-- All of a query is left at its start. -/
theorem wordsFrom_false (query : List Char) : wordsFrom false query = keptWords query := by
  obtain ⟨line, lines, -, hlines⟩ := Text.exists_splitOn (· == '\n') query
  rw [keptWords_eq, wordsFrom, hlines]
  rfl

/-- Behind a line feed, a line starts. -/
theorem wordsFrom_newline (opened : Bool) (rest : List Char) :
    wordsFrom opened ('\n' :: rest) = keptWords rest := by
  rw [keptWords_eq, wordsFrom, splitOn, Text.splitOnAux]
  cases opened <;> rfl

/-- Another blank on a line adds nothing. -/
theorem wordsFrom_blank (hc : isBlank c = true) (hline : c ≠ '\n') (opened : Bool)
    (rest : List Char) : wordsFrom opened (c :: rest) = wordsFrom opened rest := by
  obtain ⟨line, lines, -, hlines⟩ := Text.exists_splitOn (· == '\n') rest
  have hmore := Text.splitOn_append_of_free (p := (· == '\n')) (s := [c])
    (List.forall_mem_singleton.mpr (beq_eq_false_iff_ne.mpr hline)) hlines
  rw [List.singleton_append] at hmore
  rw [wordsFrom, wordsFrom, hlines, hmore]
  simp only [lineWords, List.singleton_append, Text.words_cons_of_isBlank hc]

/-- **Blanks add nothing**, but the place behind them may be on another line. -/
theorem exists_wordsFrom_append {blanks : List Char} (hblanks : ∀ b ∈ blanks, isBlank b = true)
    (opened : Bool) (rest : List Char) :
    ∃ opened', wordsFrom opened (blanks ++ rest) = wordsFrom opened' rest := by
  induction blanks generalizing opened with
  | nil => exact ⟨opened, rfl⟩
  | cons b blanks ih =>
    obtain ⟨hb, hblanks⟩ := List.forall_mem_cons.mp hblanks
    by_cases hline : b = '\n'
    · obtain ⟨opened', h⟩ := ih hblanks false
      exact ⟨opened', by rw [hline, List.cons_append, wordsFrom_newline, ← wordsFrom_false, h]⟩
    · obtain ⟨opened', h⟩ := ih hblanks opened
      exact ⟨opened', by rw [List.cons_append, wordsFrom_blank hb hline, h]⟩

/-- **A word that ends at a blank** comes first, if it is none of a comment. -/
theorem wordsFrom_append {word : List Char} (hne : word ≠ [])
    (hword : ∀ c ∈ word, isBlank c = false) (hsign : word.head? ≠ some '#')
    (hc : isBlank c = true) (opened : Bool) (rest : List Char) :
    wordsFrom opened (word ++ c :: rest) = word :: wordsFrom true (c :: rest) := by
  obtain ⟨line, lines, hprefix, hlines⟩ := Text.exists_splitOn (· == '\n') (c :: rest)
  have hfree : ∀ d ∈ word, (d == '\n') = false := fun d hd =>
    beq_eq_false_iff_ne.mpr fun h => by cases (h ▸ hword d hd : isBlank '\n' = false)
  have hline : ∀ d ∈ line.head?, isBlank d = true := by
    cases line with
    | nil => exact fun d hd => by cases hd
    | cons d line =>
      obtain ⟨rfl, -⟩ := List.cons_prefix_cons.mp hprefix
      exact fun d hd => Option.some.inj hd ▸ hc
  have hwords : words (word ++ line) = word :: words line :=
    Text.words_append_of_free hne hword hline
  rw [wordsFrom, wordsFrom, Text.splitOn_append_of_free hfree hlines, hlines]
  have hcounts : lineWords (word ++ line) = word :: words line := by
    rw [lineWords, hwords]
    exact if_neg hsign
  simp only [hwords, hcounts]
  cases opened <;> rfl

/-- A word with blanks behind it comes first, and what is behind the blanks is left. -/
theorem exists_wordsFrom_word {word blanks : List Char} (hne : word ≠ [])
    (hword : ∀ c ∈ word, isBlank c = false) (hsign : word.head? ≠ some '#')
    (hblanks : ∀ b ∈ c :: blanks, isBlank b = true) (opened : Bool) (rest : List Char) :
    ∃ opened', wordsFrom opened (word ++ (c :: blanks ++ rest))
      = word :: wordsFrom opened' rest := by
  obtain ⟨opened', h⟩ := exists_wordsFrom_append hblanks true rest
  refine ⟨opened', ?_⟩
  rw [← h]
  exact wordsFrom_append hne hword hsign (hblanks c List.mem_cons_self) opened (blanks ++ rest)

end GraphGateway.Heuristic
