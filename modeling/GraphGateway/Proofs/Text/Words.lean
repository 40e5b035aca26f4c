import GraphGateway.Text.Blank
import Mathlib.Data.List.DropRight

/-!
# Pieces and words of texts

A text that is cut in two at a place where it is cut anyway has the pieces of both
parts (`splitOn_append_cons`), and so it is with its words. So blanks in front of a text, behind
it, or between two parts add no words (`words_trim`, `words_joinWithSpaces`), and the first
word of a text that does not start with a blank is all up to its first blank
(`words_append_of_free`).
-/

namespace GraphGateway.Text

variable {p : Char → Bool} {c : Char} {s t : List Char}

/-! ## Pieces -/

/-- Characters that are no cuts belong to the piece that is being read. -/
theorem splitOnAux_append_of_free (hs : ∀ c ∈ s, p c = false) (current t : List Char) :
    splitOnAux p current (s ++ t) = splitOnAux p (s.reverse ++ current) t := by
  induction s generalizing current with
  | nil => rfl
  | cons c s ih =>
    obtain ⟨hc, hs⟩ := List.forall_mem_cons.mp hs
    rw [List.cons_append, splitOnAux, if_neg (by simp [hc]), ih hs, List.reverse_cons,
      List.append_assoc]
    rfl

/-- A text without a cut is a single piece. -/
theorem splitOnAux_of_free (hs : ∀ c ∈ s, p c = false) (current : List Char) :
    splitOnAux p current s = [current.reverse ++ s] := by
  have h := splitOnAux_append_of_free hs current []
  rwa [List.append_nil, splitOnAux, List.reverse_append, List.reverse_reverse] at h

/-- What was read of a piece comes before the first piece of the rest, which the rest starts
with. -/
theorem exists_splitOnAux (p : Char → Bool) (s : List Char) :
    ∃ first pieces, first <+: s
      ∧ ∀ current, splitOnAux p current s = (current.reverse ++ first) :: pieces := by
  induction s with
  | nil => exact ⟨[], [], List.prefix_refl _, fun current => by rw [splitOnAux, List.append_nil]⟩
  | cons c s ih =>
    obtain ⟨first, pieces, hprefix, h⟩ := ih
    by_cases hc : p c = true
    · refine ⟨[], splitOnAux p [] s, List.nil_prefix, fun current => ?_⟩
      rw [splitOnAux, if_pos hc, List.append_nil]
    · refine ⟨c :: first, pieces, List.cons_prefix_cons.mpr ⟨rfl, hprefix⟩, fun current => ?_⟩
      rw [splitOnAux, if_neg hc, h, List.reverse_cons, List.append_assoc]
      rfl

/-- A text starts with its first piece. -/
theorem exists_splitOn (p : Char → Bool) (s : List Char) :
    ∃ first pieces, first <+: s ∧ splitOn p s = first :: pieces := by
  obtain ⟨first, pieces, hprefix, h⟩ := exists_splitOnAux p s
  exact ⟨first, pieces, hprefix, h []⟩

/-- **Characters in front of a text** that are no cuts belong to its first piece. -/
theorem splitOn_append_of_free {first : List Char} {pieces : List (List Char)}
    (hs : ∀ c ∈ s, p c = false) (ht : splitOn p t = first :: pieces) :
    splitOn p (s ++ t) = (s ++ first) :: pieces := by
  obtain ⟨first', pieces', -, h⟩ := exists_splitOnAux p t
  obtain ⟨rfl, rfl⟩ := List.cons.inj ((h []).symm.trans ht)
  rw [splitOn, splitOnAux_append_of_free hs, h, List.append_nil, List.reverse_reverse]
  rfl

/-- **A text with a cut in it** has the pieces before the cut and those behind it. -/
theorem splitOn_append_cons (hc : p c = true) (s t : List Char) :
    splitOn p (s ++ c :: t) = splitOn p s ++ splitOn p t := by
  suffices haux : ∀ current, splitOnAux p current (s ++ c :: t)
      = splitOnAux p current s ++ splitOn p t from haux []
  induction s with
  | nil => exact fun current => if_pos hc
  | cons d s ih =>
    intro current
    rw [List.cons_append, splitOnAux, splitOnAux]
    split
    · rw [ih, List.cons_append]
    · exact ih (d :: current)

/-- **Two texts put together** have the pieces of both, and the last of the first text is put
together with the first of the second. -/
theorem exists_splitOn_append (p : Char → Bool) (s t : List Char) :
    ∃ before last first behind, splitOn p s = before ++ [last] ∧ splitOn p t = first :: behind
      ∧ splitOn p (s ++ t) = before ++ (last ++ first) :: behind := by
  obtain ⟨first, behind, -, ht⟩ := exists_splitOnAux p t
  suffices haux : ∀ current, ∃ before last, splitOnAux p current s = before ++ [last]
      ∧ splitOnAux p current (s ++ t) = before ++ (last ++ first) :: behind by
    obtain ⟨before, last, hs, happend⟩ := haux []
    exact ⟨before, last, first, behind, hs, ht [], happend⟩
  induction s with
  | nil => exact fun current => ⟨[], current.reverse, rfl, ht current⟩
  | cons c rest ih =>
    intro current
    rw [List.cons_append, splitOnAux, splitOnAux]
    split
    · obtain ⟨before, last, hrest, happend⟩ := ih []
      exact ⟨current.reverse :: before, last, by rw [hrest]; rfl, by rw [happend]; rfl⟩
    · exact ih (c :: current)

/-- **What is added at the end of a text** without a cut belongs to its last piece. -/
theorem splitOn_append {more : List Char} (h : ∀ c ∈ more, p c = false) (s : List Char) :
    ∃ before last, splitOn p s = before ++ [last]
      ∧ splitOn p (s ++ more) = before ++ [last ++ more] := by
  obtain ⟨before, last, first, behind, hs, hmore, happend⟩ := exists_splitOn_append p s more
  obtain ⟨rfl, rfl⟩ := List.cons.inj ((splitOnAux_of_free h []).symm.trans hmore)
  exact ⟨before, last, hs, happend⟩

/-- No piece has a cut in it. -/
theorem eq_false_of_mem_splitOn {piece : List Char} (h : piece ∈ splitOn p s) :
    ∀ c ∈ piece, p c = false := by
  suffices haux : ∀ current : List Char, (∀ c ∈ current, p c = false) →
      ∀ piece ∈ splitOnAux p current s, ∀ c ∈ piece, p c = false from
    haux [] (List.forall_mem_nil _) piece h
  clear h
  induction s with
  | nil =>
    intro current hcurrent
    rw [splitOnAux, List.forall_mem_singleton]
    exact fun c hc => hcurrent c (List.mem_reverse.mp hc)
  | cons d rest ih =>
    intro current hcurrent
    rw [splitOnAux]
    split
    · rw [List.forall_mem_cons]
      exact ⟨fun c hc => hcurrent c (List.mem_reverse.mp hc), ih [] (List.forall_mem_nil _)⟩
    · next hd =>
      exact ih (d :: current) (List.forall_mem_cons.mpr ⟨by simpa using hd, hcurrent⟩)

/-- **The last piece of a text** is what is behind its last cut. -/
theorem exists_splitOn_eq (p : Char → Bool) (s : List Char) :
    ∃ before, splitOn p s = before ++ [s.rtakeWhile (!p ·)] := by
  have hfree : ∀ c ∈ s.rtakeWhile (!p ·), p c = false := fun c hc => by
    simpa using List.mem_rtakeWhile_imp hc
  obtain ⟨before, last, hbefore, happend⟩ := splitOn_append hfree (s.rdropWhile (!p ·))
  rw [List.rdropWhile_append_rtakeWhile] at happend
  -- what is before ends with a cut, or is empty, so that nothing of it is in the last piece
  suffices hlast : last = [] from ⟨before, by rw [happend, hlast, List.nil_append]⟩
  by_cases hnil : s.rdropWhile (!p ·) = []
  · rw [hnil] at hbefore
    have hpieces : [] ++ [[]] = before ++ [last] := hbefore
    exact (List.singleton_inj.mp (List.append_inj' hpieces rfl).2).symm
  · have hcut : p ((s.rdropWhile (!p ·)).getLast hnil) = true := by
      simpa using List.rdropWhile_last_not (!p ·) s hnil
    have hpieces := splitOn_append_cons hcut (s.rdropWhile (!p ·)).dropLast []
    rw [List.dropLast_append_getLast, hbefore] at hpieces
    exact List.singleton_inj.mp (List.append_inj' hpieces rfl).2

/-! ## Words -/

/-- A word is not empty, and has no blank in it. -/
theorem ne_nil_and_isBlank_of_mem_words {word : List Char} (h : word ∈ words s) :
    word ≠ [] ∧ ∀ c ∈ word, isBlank c = false := by
  obtain ⟨hmem, hne⟩ := List.mem_filter.mp h
  exact ⟨by simpa using hne, eq_false_of_mem_splitOn hmem⟩

/-- **A text with a blank in it** has the words before the blank and those behind it. -/
theorem words_append_cons (hc : isBlank c = true) (s t : List Char) :
    words (s ++ c :: t) = words s ++ words t := by
  rw [words, splitOn_append_cons hc, List.filter_append]
  rfl

/-- A blank in front of a text adds no words. -/
theorem words_cons_of_isBlank (hc : isBlank c = true) (s : List Char) :
    words (c :: s) = words s :=
  words_append_cons hc [] s

/-- **Two texts put together inside a word** have the words of both, and the last of the first
text is put together with the first of the second. -/
theorem exists_words_append {d : Char} (hc : isBlank c = false) (hd : isBlank d = false)
    (s t : List Char) :
    ∃ earlier stem more later, words (s ++ [c]) = earlier ++ [stem ++ [c]]
      ∧ words (d :: t) = (d :: more) :: later
      ∧ words ((s ++ [c]) ++ d :: t) = earlier ++ ((stem ++ [c]) ++ d :: more) :: later := by
  obtain ⟨before, stem, -, hs⟩ := splitOn_append (List.forall_mem_singleton.mpr hc) s
  obtain ⟨more, behind, -, ht⟩ := exists_splitOn isBlank t
  replace ht := splitOn_append_of_free (List.forall_mem_singleton.mpr hd) ht
  obtain ⟨before', last, first, behind', hs', ht', happend⟩ :=
    exists_splitOn_append isBlank (s ++ [c]) (d :: t)
  obtain ⟨rfl, hlast⟩ := List.append_inj' (hs'.symm.trans hs) rfl
  obtain ⟨rfl, rfl⟩ := List.cons.inj (ht'.symm.trans ht)
  obtain rfl := List.singleton_inj.mp hlast
  refine ⟨before'.filter (!·.isEmpty), stem, more, behind'.filter (!·.isEmpty), ?_, ?_, ?_⟩
  · rw [words, hs, List.filter_append]
    simp
  · rw [words, ht']
    rfl
  · rw [words, happend, List.filter_append]
    simp

/-- Blanks in front of a text add no words. -/
theorem words_trimStart (s : List Char) : words (trimStart s) = words s := by
  induction s with
  | nil => rfl
  | cons c s ih =>
    rw [trimStart, List.dropWhile_cons]
    split
    · next hc => exact ih.trans (words_cons_of_isBlank hc s).symm
    · rfl

/-- Blanks behind a text add no words. -/
theorem words_append_of_isAllBlank (ht : isAllBlank t = true) (s : List Char) :
    words (s ++ t) = words s := by
  induction t generalizing s with
  | nil => rw [List.append_nil]
  | cons c t ih =>
    obtain ⟨hc, ht⟩ := List.forall_mem_cons.mp (List.all_eq_true.mp ht)
    have hnone : words t = [] := ih (List.all_eq_true.mpr ht) []
    rw [words_append_cons hc, hnone, List.append_nil]

/-- What is dropped at the end of a text satisfies the test. -/
theorem exists_eq_dropEnd_append (p : Char → Bool) (s : List Char) :
    ∃ dropped, s = dropEnd p s ++ dropped ∧ dropped.all p = true := by
  refine ⟨(s.reverse.takeWhile p).reverse, ?_, ?_⟩
  · rw [dropEnd, ← List.reverse_append, List.takeWhile_append_dropWhile, List.reverse_reverse]
  · rw [List.all_reverse]
    exact List.all_takeWhile

/-- What is dropped at the end of a text is what the list library drops there. -/
theorem dropEnd_eq_rdropWhile (p : Char → Bool) (s : List Char) : dropEnd p s = s.rdropWhile p :=
  rfl

/-- Two tests that agree on a text leave the same of it. -/
theorem dropEnd_congr {q : Char → Bool} (h : ∀ c ∈ s, p c = q c) : dropEnd p s = dropEnd q s := by
  have hdrop (l : List Char) (hl : ∀ c ∈ l, p c = q c) : l.dropWhile p = l.dropWhile q := by
    induction l with
    | nil => rfl
    | cons c l ih =>
      obtain ⟨hc, hl⟩ := List.forall_mem_cons.mp hl
      rw [List.dropWhile_cons, List.dropWhile_cons, hc, ih hl]
  rw [dropEnd, dropEnd, hdrop s.reverse fun c hc => h c (List.mem_reverse.mp hc)]

/-- **Nothing is dropped at the end of a text** before what does not satisfy the test. -/
theorem dropEnd_append (hs : ∀ c ∈ s.getLast?, p c = false) (t : List Char) :
    dropEnd p (s ++ t) = s ++ dropEnd p t := by
  have hkeep : s.reverse.dropWhile p = s.reverse := by
    cases h : s.reverse with
    | nil => rfl
    | cons c rest =>
      have hc := hs c (by rw [List.getLast?_eq_head?_reverse, h]; rfl)
      exact List.dropWhile_cons_of_neg (by rw [hc]; exact Bool.false_ne_true)
  rw [dropEnd, dropEnd, List.reverse_append, List.dropWhile_append, hkeep]
  split
  · next hnone => rw [List.isEmpty_iff.mp hnone, List.reverse_reverse]; simp
  · rw [List.reverse_append, List.reverse_reverse]

/-- What satisfies the test is dropped at the end of a text, up to what does not. -/
theorem dropEnd_append_of_all (hs : ∀ c ∈ s, p c = false) (ht : t.all p = true) :
    dropEnd p (s ++ t) = s := by
  rw [dropEnd_append (fun c hc => hs c (List.mem_of_getLast? hc)), dropEnd_eq_rdropWhile p t,
    List.rdropWhile_eq_nil_iff.mpr (List.all_eq_true.mp ht), List.append_nil]

/-- **Blanks around a text** add no words. -/
theorem words_trim (s : List Char) : words (trim s) = words s := by
  obtain ⟨dropped, hdropped, hblank⟩ := exists_eq_dropEnd_append isBlank (trimStart s)
  calc words (trim s)
      = words (dropEnd isBlank (trimStart s) ++ dropped) :=
        (words_append_of_isAllBlank hblank _).symm
    _ = words (trimStart s) := congrArg words hdropped.symm
    _ = words s := words_trimStart s

/-- **Texts joined with spaces** have the words of all of them. -/
theorem words_joinWithSpaces : (pieces : List (List Char)) →
    words (joinWithSpaces pieces) = pieces.flatMap words
  | [] => rfl
  | [piece] => (List.flatMap_singleton ..).symm
  | piece :: next :: rest => by
    rw [List.flatMap_cons, ← words_joinWithSpaces (next :: rest)]
    exact words_append_cons rfl piece _

/-- **The first word of a text** that does not start with a blank is all up to its first
blank. -/
theorem words_append_of_free (hne : s ≠ []) (hs : ∀ c ∈ s, isBlank c = false)
    (ht : ∀ c ∈ t.head?, isBlank c = true) : words (s ++ t) = s :: words t := by
  have hword : words s = [s] := by
    rw [words, splitOn, splitOnAux_of_free hs]
    simp [hne]
  cases t with
  | nil => rw [List.append_nil, hword]; rfl
  | cons c t =>
    have hc := ht c rfl
    rw [words_append_cons hc, hword, words_cons_of_isBlank hc]
    rfl

/-- What is behind the first word of a text starts with a blank. -/
theorem isBlank_of_head?_dropWhile (s : List Char) :
    ∀ c ∈ (s.dropWhile (!isBlank ·)).head?, isBlank c = true := by
  intro c hc
  have hstop := List.head?_dropWhile_not (!isBlank ·) s
  rw [Option.mem_def.mp hc] at hstop
  simpa using hstop

/-- A text that does not start with a blank starts with its first word. -/
theorem words_eq_cons (hne : s ≠ []) (hs : ∀ c ∈ s.head?, isBlank c = false) :
    words s = s.takeWhile (!isBlank ·) :: words (s.dropWhile (!isBlank ·)) := by
  have hfree : ∀ c ∈ s.takeWhile (!isBlank ·), isBlank c = false := fun c hc => by
    simpa using List.all_eq_true.mp List.all_takeWhile c hc
  have hfirst : s.takeWhile (!isBlank ·) ≠ [] := by
    cases s with
    | nil => exact absurd rfl hne
    | cons c rest => simp [hs c rfl]
  rw [← words_append_of_free hfirst hfree (isBlank_of_head?_dropWhile s),
    List.takeWhile_append_dropWhile]

/-- The first word of a text starts with its first character that is not blank. -/
theorem head?_words (s : List Char) :
    (words s).head?.bind List.head? = (s.dropWhile isBlank).head? := by
  rw [← words_trimStart s, trimStart]
  by_cases hne : s.dropWhile isBlank = []
  · rw [hne]
    rfl
  · have hhead : ∀ c ∈ (s.dropWhile isBlank).head?, isBlank c = false := fun c hc => by
      have hstop := List.head?_dropWhile_not isBlank s
      rwa [Option.mem_def.mp hc] at hstop
    obtain ⟨c, rest, hc⟩ := List.exists_cons_of_ne_nil hne
    rw [words_eq_cons hne hhead, hc]
    simp [hhead c (by rw [hc]; rfl)]

/-- A text without the blanks around it does not start with a blank. -/
theorem isBlank_of_head?_trim : ∀ c ∈ (trim s).head?, isBlank c = false := by
  intro c hc
  obtain ⟨dropped, hdropped, -⟩ := exists_eq_dropEnd_append isBlank (trimStart s)
  have hstop := List.head?_dropWhile_not isBlank s
  rw [show s.dropWhile isBlank = trim s ++ dropped from hdropped, List.head?_append,
    Option.mem_def.mp hc] at hstop
  exact hstop

end GraphGateway.Text
