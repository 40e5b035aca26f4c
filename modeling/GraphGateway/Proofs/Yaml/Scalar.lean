import GraphGateway.Proofs.Yaml.Gap
import GraphGateway.Yaml.PlainScalar
import GraphGateway.Yaml.QuotedScalar

/-!
# Scalars are read as they were written

A text of printable ASCII characters is written without quotes or in single
quotes, on one line. What it takes to read it back differs.

Without quotes the text is read word by word, and each word has to end where it
was meant to: no word begins with a number sign, none ends with a colon, and
nothing but spaces stands between two of them (`IsPhrase`). That is just what
the writer looks for before it leaves the quotes out. The scalar ends at the
end of its line, because the line that follows is not indented
(`PlainScalar.readFrom_append`). Of letters, digits and underscores nothing has
to be looked for (`IsName`), and such a name may also be a key: then the colon
behind it ends it (`IsName.read_eq`).

In single quotes every character stands for itself but the quote, which is
written twice, so nothing is asked of the text
(`QuotedScalar.readFrom_append`).
-/

namespace GraphGateway.Yaml

/-! ## Scalars without quotes -/

/-- **Whether a text ends a word that stands before it**: with a blank, with a
break, or with a colon before one of these. -/
def EndsWord : List Char → Prop
  | [] => True
  | c :: rest => isBlank c = true ∨ isBreak c = true ∨ c = ':' ∧ isBlankOrEnd rest.head? = true

/-- A word is read up to its end. -/
theorem PlainScalar.wordFrom_append {word rest : List Char} (hword : ∀ c ∈ word,
    isBlank c = false ∧ isBreak c = false) (hlast : word.getLast? ≠ some ':')
    (hrest : EndsWord rest) (p : Place) :
    wordFrom false p (word ++ rest) = .ok (word, ⟨rest, p.forward word.length⟩) := by
  induction word generalizing p with
  | nil =>
    cases rest with
    | nil => rfl
    | cons c rest =>
      rw [List.nil_append, wordFrom]
      obtain hblank | hbreak | ⟨rfl, hends⟩ := hrest
      · simp [hblank]
      · simp [hbreak]
      · simp [isBlank, isBreak, hends]
  | cons c word ih =>
    obtain ⟨hblank, hbreak⟩ := hword c (List.mem_cons_self ..)
    -- a colon inside a word has no blank behind it
    have hcolon : (c == ':' && isBlankOrEnd (word ++ rest).head?) = false := by
      cases word with
      | nil =>
        have hne : (c == ':') = false := by simpa using hlast
        rw [hne, Bool.false_and]
      | cons d word =>
        obtain ⟨hblank, hbreak⟩ := hword d (by simp)
        simp [isBlankOrEnd, hblank, hbreak]
    have hword' : ∀ c ∈ word, isBlank c = false ∧ isBreak c = false := fun x hx =>
      hword x (List.mem_cons_of_mem _ hx)
    have hlast' : word.getLast? ≠ some ':' := by
      cases word with
      | nil => simp
      | cons d word => simpa using hlast
    rw [List.cons_append, wordFrom]
    simp only [hblank, hbreak, hcolon, Bool.or_self, Bool.false_and, Bool.false_eq_true, if_false,
      ih hword' hlast' p.next]
    rw [Place.next_forward]
    rfl

/-- **Whether a text can be read back as words**, with one or more spaces
between two of them. -/
structure IsPhrase (s : List Char) : Prop where
  /-- There is a word. -/
  ne_nil : s ≠ []
  /-- The characters are printable. -/
  isPrintable : ∀ c ∈ s, IsPrintableAscii c
  /-- No space stands before the first word. -/
  head_ne : s.head? ≠ some ' '
  /-- No space stands behind the last word. -/
  last_ne : s.getLast? ≠ some ' '
  /-- No word begins with a number sign, and none ends with a colon. -/
  noSign : Printer.hasSignBehind ' ' s = false

namespace Printer

/-- Where no sign is found in a text, none is found in its later part. -/
theorem hasSignBehind_append {previous : Char} {first second : List Char}
    (h : hasSignBehind previous (first ++ second) = false) :
    hasSignBehind (first.getLastD previous) second = false := by
  induction first generalizing previous with
  | nil => exact h
  | cons c first ih =>
    rw [List.cons_append, hasSignBehind, Bool.or_eq_false_iff] at h
    rw [List.getLastD_cons]
    exact ih h.2

/-- Where no sign is found in a text, no word of it ends with a colon. -/
theorem getLast?_ne_of_hasSignBehind {previous : Char} {word rest : List Char}
    (h : hasSignBehind previous (word ++ rest) = false) (hrest : isBlankOrEnd rest.head? = true) :
    word.getLast? ≠ some ':' := by
  intro hlast
  obtain ⟨before, rfl⟩ := List.getLast?_eq_some_iff.mp hlast
  rw [List.append_assoc] at h
  have hcolon := hasSignBehind_append h
  simp [hasSignBehind, hrest] at hcolon

end Printer

/-- A text is cut behind its first characters that satisfy `p`. -/
theorem exists_run (p : Char → Bool) (s : List Char) :
    ∃ run rest, s = run ++ rest ∧ (∀ c ∈ run, p c = true) ∧ ∀ c ∈ rest.head?, p c = false := by
  induction s with
  | nil => exact ⟨[], [], rfl, nofun, nofun⟩
  | cons c s ih =>
    by_cases hc : p c = true
    · obtain ⟨run, rest, rfl, hrun, hrest⟩ := ih
      exact ⟨c :: run, rest, rfl, List.forall_mem_cons.mpr ⟨hc, hrun⟩, hrest⟩
    · exact ⟨[], c :: s, rfl, nofun, by simpa using hc⟩

/-- The spaces before a text. -/
theorem exists_spaces (s : List Char) :
    ∃ n rest, s = List.replicate n ' ' ++ rest ∧ rest.head? ≠ some ' ' := by
  obtain ⟨run, rest, rfl, hrun, hrest⟩ := exists_run (· == ' ') s
  refine ⟨run.length, rest, ?_, fun h => ?_⟩
  · congr 1
    exact List.eq_replicate_of_mem fun c hc => by simpa using hrun c hc
  · simpa using hrest ' ' h

/-- **A text of words is a word**, and, if there are more words, spaces and a
text of these. -/
theorem IsPhrase.exists_word {s : List Char} (h : IsPhrase s) :
    ∃ word, word ≠ [] ∧ (∀ c ∈ word, isBlank c = false ∧ isBreak c = false)
      ∧ word.getLast? ≠ some ':'
      ∧ (s = word
        ∨ ∃ n rest, 0 < n ∧ IsPhrase rest ∧ s = word ++ (List.replicate n ' ' ++ rest)) := by
  obtain ⟨hne, hprintable, hhead, hlast, hsign⟩ := h
  obtain ⟨word, behind, rfl, hword, hbehind⟩ := exists_run (· != ' ') s
  have hsolid : ∀ c ∈ word, isBlank c = false ∧ isBreak c = false := fun c hc => by
    have hmem := hprintable c (List.mem_append_left _ hc)
    exact ⟨hmem.isBlank_eq.trans (by simpa using hword c hc), hmem.isBreak_eq⟩
  have hnil : word ≠ [] := by
    rintro rfl
    cases behind with
    | nil => exact hne rfl
    | cons c behind => exact hhead (by simpa using hbehind c rfl)
  have hends : isBlankOrEnd behind.head? = true := by
    cases behind with
    | nil => rfl
    | cons c behind =>
      obtain rfl : c = ' ' := by simpa using hbehind c rfl
      rfl
  refine ⟨word, hnil, hsolid, Printer.getLast?_ne_of_hasSignBehind hsign hends, ?_⟩
  cases behind with
  | nil => exact .inl (List.append_nil word)
  | cons c behind =>
    obtain rfl : c = ' ' := by simpa using hbehind c rfl
    obtain ⟨n, rest, rfl, hrest⟩ := exists_spaces behind
    refine .inr ⟨n + 1, rest, Nat.succ_pos n, ⟨?_, ?_, hrest, ?_, ?_⟩, rfl⟩
    · -- the text would end with a space
      rintro rfl
      refine hlast ?_
      rw [List.append_nil, ← List.replicate_succ, List.getLast?_append, List.getLast?_replicate]
      rfl
    · exact fun c hc => hprintable c (by simp [hc])
    · intro hspace
      refine hlast ?_
      rw [← List.cons_append, ← List.append_assoc, List.getLast?_append, hspace]
      rfl
    · -- a space stands before the words that are left
      have hsign := Printer.hasSignBehind_append hsign
      rw [← List.cons_append, ← List.replicate_succ] at hsign
      have hsign := Printer.hasSignBehind_append hsign
      rwa [List.getLastD_eq_getLast?, List.getLast?_replicate] at hsign

/-- The first character of a word. -/
theorem IsPhrase.beginsSolid {s : List Char} (h : IsPhrase s) (text : List Char) :
    BeginsSolid (s ++ text) := by
  obtain ⟨word, hne, hsolid, -, hs⟩ := h.exists_word
  obtain ⟨c, word, rfl⟩ := List.exists_cons_of_ne_nil hne
  have hhead : s.head? = some c := by
    obtain rfl | ⟨n, rest, -, -, rfl⟩ := hs <;> rfl
  intro d hd
  rw [List.head?_append, hhead] at hd
  obtain rfl := Option.some.inj hd
  exact hsolid c (List.mem_cons_self ..)

/-- No number sign begins a text of words. -/
theorem IsPhrase.head?_ne {s : List Char} (h : IsPhrase s) (text : List Char) :
    (s ++ text).head? ≠ some '#' := by
  obtain ⟨c, s, rfl⟩ := List.exists_cons_of_ne_nil h.ne_nil
  have hsign := h.noSign
  rw [Printer.hasSignBehind] at hsign
  rintro ⟨⟩
  simp [isBlankOrEnd, isBlank] at hsign

namespace PlainScalar

/-- **A text without quotes is read to the end of its line**, if no space
begins the next one. -/
theorem readFrom_append {s text : List Char} (h : IsPhrase s) (htext : BeginsSolid text)
    {start stop p : Place} (hp : 0 < p.column) {fuel : Nat} (hfuel : s.length < fuel)
    (before : List Char) (gap : Gap) :
    readFrom false 1 start fuel before stop gap ⟨s ++ '\n' :: text, p⟩
      = .ok ⟨before ++ gap.text ++ s, p.forward s.length, true,
          ⟨text, (p.forward s.length).nextLine 1⟩⟩ := by
  obtain ⟨fuel, rfl⟩ : ∃ n, fuel = n + 1 := ⟨fuel - 1, by omega⟩
  obtain ⟨word, hne, hsolid, hlast, hs⟩ := h.exists_word
  have hmark : (Cursor.mk (s ++ '\n' :: text) p).atDocumentMark = false :=
    Cursor.atDocumentMark_of_column_pos hp
  have hsign : ((Cursor.mk (s ++ '\n' :: text) p).peek? == some '#') = false := by
    simpa [Cursor.peek?] using h.head?_ne ('\n' :: text)
  rw [readFrom, hmark, hsign]
  obtain ⟨c, word, rfl⟩ := List.exists_cons_of_ne_nil hne
  obtain rfl | ⟨n, rest, hn, hrest, rfl⟩ := hs
  · have hends : EndsWord ('\n' :: text) := .inr (.inl rfl)
    have hread := wordFrom_append hsolid hlast hends p
    simp only [Bool.or_self, Bool.false_eq_true, if_false, hread, Gap.read_newline htext]
    rfl
  · obtain ⟨m, rfl⟩ : ∃ m, n = m + 1 := ⟨n - 1, by omega⟩
    have hends : EndsWord (List.replicate (m + 1) ' ' ++ (rest ++ '\n' :: text)) := .inl rfl
    have hread := wordFrom_append hsolid hlast hends p
    have hgap := Gap.read_spaces (hrest.beginsSolid ('\n' :: text)) 1 (m + 1)
      (p.forward (c :: word).length)
    have hcolumn : ¬ ((p.forward (c :: word).length).forward (m + 1)).column < 1 := by simp
    rw [List.replicate_succ] at hread hgap ⊢
    simp only [Bool.or_self, Bool.not_false, Bool.true_and, decide_eq_true_eq, Bool.false_eq_true,
      if_false, List.append_assoc, hread, hgap, hcolumn]
    have hcolumn : 0 < ((p.forward (c :: word).length).forward (m + 1)).column :=
      Nat.pos_of_ne_zero fun h => by simp at h
    have hfuel : rest.length < fuel := by
      simp only [List.length_append, List.length_cons, List.length_replicate] at hfuel
      omega
    have hplace : ((p.forward (c :: word).length).forward (m + 1)).forward rest.length
        = p.forward (c :: word ++ (' ' :: List.replicate m ' ' ++ rest)).length := by
      rw [Place.forward_forward, Place.forward_forward]
      congr 1
      simp only [List.length_append, List.length_cons, List.length_replicate]
    rw [readFrom_append hrest htext hcolumn hfuel, hplace]
    simp [Gap.text]
termination_by s.length

end PlainScalar

/-! ## Names -/

/-- **A name**: letters, digits and underscores. -/
structure IsName (s : List Char) : Prop where
  /-- There is a character. -/
  ne_nil : s ≠ []
  /-- Each of them is one of these. -/
  isLetter : ∀ c ∈ s, c.isAlphanum = true ∨ c = '_'

/-- No sign is among characters that are neither colons nor number signs. -/
theorem Printer.hasSignBehind_eq_false {s : List Char}
    (h : ∀ c ∈ s, (c == ':') = false ∧ (c == '#') = false) (previous : Char) :
    hasSignBehind previous s = false := by
  induction s generalizing previous with
  | nil => rfl
  | cons c s ih =>
    obtain ⟨⟨hcolon, hnumber⟩, hs⟩ := List.forall_mem_cons.mp h
    rw [hasSignBehind, hcolon, hnumber, ih hs]
    rfl

namespace IsName

variable {s : List Char}

/-- No other character is in a name. -/
theorem ne (h : IsName s) {c d : Char} (hc : c ∈ s) (hd : d.isAlphanum = false ∧ d ≠ '_') :
    c ≠ d := by
  rintro rfl
  obtain hletter | hunderscore := h.isLetter c hc
  · cases hletter.symm.trans hd.1
  · exact hd.2 hunderscore

/-- The characters of a name are printable. -/
theorem isPrintable (h : IsName s) : ∀ c ∈ s, IsPrintableAscii c := by
  intro c hc
  obtain hletter | rfl := h.isLetter c hc
  · -- each kind of letter is a range of printable characters
    have hrange (low high : UInt32) (hlow : 0x20 ≤ low.toNat) (hhigh : high.toNat ≤ 0x7E)
        (h : low ≤ c.val ∧ c.val ≤ high) : IsPrintableAscii c :=
      ⟨Nat.le_trans hlow (UInt32.le_iff_toNat_le.mp h.1),
        Nat.le_trans (UInt32.le_iff_toNat_le.mp h.2) hhigh⟩
    obtain hletter | hdigit := Bool.or_eq_true_iff.mp hletter
    · obtain hupper | hlower := Bool.or_eq_true_iff.mp hletter
      · exact hrange 'A'.val 'Z'.val (by decide) (by decide) (of_decide_eq_true hupper)
      · exact hrange 'a'.val 'z'.val (by decide) (by decide)
          ((Bool.and_eq_true_iff.mp hlower).imp of_decide_eq_true of_decide_eq_true)
    · exact hrange '0'.val '9'.val (by decide) (by decide) (Char.isDigit_iff_toNat.mp hdigit)
  · exact ⟨by decide, by decide⟩

/-- The characters of a name are solid. -/
theorem isSolid (h : IsName s) : ∀ c ∈ s, isBlank c = false ∧ isBreak c = false := by
  intro c hc
  have hprintable := h.isPrintable c hc
  have hspace : (c == ' ') = false := beq_eq_false_iff_ne.mpr (h.ne hc (by decide))
  exact ⟨hprintable.isBlank_eq.trans hspace, hprintable.isBreak_eq⟩

/-- No sign begins with a name. -/
theorem beginsWithSign_eq (h : IsName s) (text : List Char) :
    Printer.beginsWithSign (s ++ text) = false := by
  obtain ⟨c, rest, rfl⟩ := List.exists_cons_of_ne_nil h.ne_nil
  have hne (d : Char) (hd : d.isAlphanum = false ∧ d ≠ '_') : (c == d) = false :=
    beq_eq_false_iff_ne.mpr (h.ne (List.mem_cons_self ..) hd)
  have hlist : "#,[]\x7b\x7d&*!|>'\"%@\x60".toList.contains c = false := by
    rw [List.contains_eq_mem, decide_eq_false_iff_not]
    intro hmem
    have hall : "#,[]\x7b\x7d&*!|>'\"%@\x60".toList.all
        (fun d => !d.isAlphanum && d != '_') = true := rfl
    have hsign := List.all_eq_true.mp hall c hmem
    exact h.ne (List.mem_cons_self ..) (by simpa using hsign) rfl
  rw [List.cons_append, Printer.beginsWithSign, hlist, hne '?' (by decide), hne ':' (by decide),
    hne '-' (by decide)]
  rfl

/-- A name is a text of one word. -/
theorem isPhrase (h : IsName s) : IsPhrase s := by
  refine ⟨h.ne_nil, h.isPrintable, fun hspace => ?_, fun hspace => ?_, ?_⟩
  · exact h.ne (List.mem_of_head? hspace) (d := ' ') (by decide) rfl
  · exact h.ne (List.mem_of_getLast? hspace) (d := ' ') (by decide) rfl
  · have hsign : ∀ c ∈ s, (c == ':') = false ∧ (c == '#') = false := fun c hc =>
      ⟨beq_eq_false_iff_ne.mpr (h.ne hc (by decide)), beq_eq_false_iff_ne.mpr (h.ne hc (by decide))⟩
    exact Printer.hasSignBehind_eq_false hsign ' '

/-- No mark between documents begins with a name. -/
theorem atDocumentMark_eq (h : IsName s) (text : List Char) (p : Place) :
    (Cursor.mk (s ++ text) p).atDocumentMark = false := by
  obtain ⟨c, rest, rfl⟩ := List.exists_cons_of_ne_nil h.ne_nil
  have hdash := (h.ne (d := '-') (List.mem_cons_self ..) (by decide)).symm
  have hdot := (h.ne (d := '.') (List.mem_cons_self ..) (by decide)).symm
  simp [Cursor.atDocumentMark, Cursor.atMark, hdash, hdot]

/-- **A name is read up to the colon behind it.** -/
theorem read_eq (h : IsName s) (indent : Nat) (text : List Char) (p : Place) :
    PlainScalar.read false indent ⟨s ++ ':' :: ' ' :: text, p⟩
      = .ok ⟨s, p.forward s.length, false, ⟨':' :: ' ' :: text, p.forward s.length⟩⟩ := by
  have hmark := h.atDocumentMark_eq (':' :: ' ' :: text) p
  have hlast : s.getLast? ≠ some ':' := fun hlast =>
    h.ne (List.mem_of_getLast? hlast) (d := ':') (by decide) rfl
  have hends : EndsWord (':' :: ' ' :: text) := .inr (.inr ⟨rfl, rfl⟩)
  have hsolid : BeginsSolid (':' :: ' ' :: text) := by rintro c ⟨⟩; decide
  have hword := PlainScalar.wordFrom_append h.isSolid hlast hends p
  have hgap := Gap.read_spaces hsolid indent 0 (p.forward s.length)
  obtain ⟨c, rest, rfl⟩ := List.exists_cons_of_ne_nil h.ne_nil
  have hsign : ((Cursor.mk (c :: rest ++ ':' :: ' ' :: text) p).peek? == some '#') = false := by
    simpa [Cursor.peek?] using h.ne (d := '#') (List.mem_cons_self ..) (by decide)
  rw [PlainScalar.read, PlainScalar.readFrom, hmark, hsign]
  simp only [Bool.or_self, Bool.false_eq_true, if_false, hword]
  rw [← List.nil_append (':' :: ' ' :: text), ← List.replicate_zero, hgap]
  rfl

end IsName

/-! ## Scalars in single quotes -/

namespace QuotedScalar

/-- A text between single quotes: a quote is written twice. -/
def quoteTwice (s : List Char) : List Char :=
  s.flatMap fun c => if c == '\'' then ['\'', '\''] else [c]

/-- Between single quotes are the characters of the text, and quotes. -/
theorem mem_or_eq_of_mem_quoteTwice {s : List Char} {c : Char} (h : c ∈ quoteTwice s) :
    c ∈ s ∨ c = '\'' := by
  obtain ⟨d, hd, hc⟩ := List.mem_flatMap.mp h
  split at hc
  · exact .inr (by simpa using hc)
  · obtain rfl : c = d := by simpa using hc
    exact .inl hd

/-- Between single quotes, a text without spaces before it begins with
something solid. -/
theorem beginsSolid_quoteTwice {s : List Char} (h : ∀ c ∈ s, IsPrintableAscii c)
    (hhead : s.head? ≠ some ' ') (text : List Char) :
    BeginsSolid (quoteTwice s ++ '\'' :: text) := by
  have hquote : isBlank '\'' = false ∧ isBreak '\'' = false := ⟨rfl, rfl⟩
  intro d hd
  cases s with
  | nil =>
    obtain rfl := Option.some.inj hd
    exact hquote
  | cons c s =>
    rw [quoteTwice, List.flatMap_cons] at hd
    by_cases hc : c = '\''
    · obtain rfl : '\'' = d := by simpa [hc] using hd
      exact hquote
    · obtain rfl : c = d := by simpa [hc] using hd
      have hprintable := h c (List.mem_cons_self ..)
      exact ⟨hprintable.isBlank_eq.trans (by simpa using hhead), hprintable.isBreak_eq⟩

/-- Spaces are written as themselves. -/
theorem quoteTwice_spaces (n : Nat) (s : List Char) :
    quoteTwice (List.replicate n ' ' ++ s) = List.replicate n ' ' ++ quoteTwice s := by
  induction n with
  | zero => rfl
  | succ n ih => exact congrArg (' ' :: ·) ih

/-- Spaces inside quotes are read as themselves. -/
theorem readGap_spaces {text : List Char} (h : BeginsSolid text) {start p : Place}
    (hp : 0 < p.column) (n : Nat) :
    readGap start .none ⟨List.replicate n ' ' ++ text, p⟩
      = .ok (List.replicate n ' ', ⟨text, p.forward n⟩) := by
  have hmark : (Cursor.mk text (p.forward n)).atDocumentMark = false :=
    Cursor.atDocumentMark_of_column_pos (Nat.add_pos_left hp n)
  rw [readGap, Gap.read_spaces h]
  simp [hmark, Gap.text]

variable {start p : Place} {fuel : Nat} {before text : List Char}

/-- A quote without another one behind it closes the scalar. -/
theorem readFrom_close (h : text.head? ≠ some '\'') :
    readFrom true start (fuel + 1) before ⟨'\'' :: text, p⟩ = .ok (before, ⟨text, p.next⟩) := by
  have hquote : (text.head? == some '\'') = false := by simpa using h
  rw [readFrom]
  simp only [hquote, Bool.not_true, Bool.false_eq_true, if_false]
  rfl

/-- Two quotes stand for one. -/
theorem readFrom_quote :
    readFrom true start (fuel + 1) before ⟨'\'' :: '\'' :: text, p⟩
      = readFrom true start fuel (before ++ ['\'']) ⟨text, p.forward 2⟩ := by
  rw [readFrom]
  rfl

/-- Any other solid character stands for itself. -/
theorem readFrom_solid {c : Char} (hquote : c ≠ '\'') (hblank : isBlank c = false)
    (hbreak : isBreak c = false) :
    readFrom true start (fuel + 1) before ⟨c :: text, p⟩
      = readFrom true start fuel (before ++ [c]) ⟨text, p.next⟩ := by
  rw [readFrom]
  simp [hblank, hbreak, Cursor.skip]

/-- Spaces are read as what they are. -/
theorem readFrom_spaces (h : BeginsSolid text) (hp : 0 < p.column) (n : Nat) :
    readFrom true start (fuel + 1) before ⟨List.replicate (n + 1) ' ' ++ text, p⟩
      = readFrom true start fuel (before ++ List.replicate (n + 1) ' ')
          ⟨text, p.forward (n + 1)⟩ := by
  have hgap : readGap start .none ⟨List.replicate (n + 1) ' ' ++ text, p⟩ = _ :=
    readGap_spaces h hp (n + 1)
  rw [List.replicate_succ] at hgap ⊢
  rw [List.cons_append, readFrom, ← List.cons_append]
  · simp only [hgap]
    rfl

/-- **A text in single quotes is read up to the quote that closes it.** -/
theorem readFrom_append {s text : List Char} (h : ∀ c ∈ s, IsPrintableAscii c)
    (htext : text.head? ≠ some '\'') {start p : Place} (hp : 0 < p.column) {fuel : Nat}
    (hfuel : (quoteTwice s).length < fuel) (before : List Char) :
    readFrom true start fuel before ⟨quoteTwice s ++ '\'' :: text, p⟩
      = .ok (before ++ s, ⟨text, p.forward ((quoteTwice s).length + 1)⟩) := by
  obtain ⟨fuel, rfl⟩ : ∃ n, fuel = n + 1 := ⟨fuel - 1, by omega⟩
  obtain ⟨n, rest, rfl, hhead⟩ := exists_spaces s
  cases n with
  | succ n =>
    have hrest : ∀ c ∈ rest, IsPrintableAscii c := fun c hc => h c (List.mem_append_right _ hc)
    rw [quoteTwice_spaces, List.length_append, List.length_replicate] at hfuel
    rw [quoteTwice_spaces, List.append_assoc,
      readFrom_spaces (beginsSolid_quoteTwice hrest hhead text) hp,
      readFrom_append hrest htext (Nat.add_pos_left hp _) (by omega)]
    simp [Nat.add_assoc]
  | zero =>
    rw [List.replicate_zero, List.nil_append] at h hfuel ⊢
    cases rest with
    | nil =>
      rw [List.append_nil]
      exact readFrom_close htext
    | cons c rest =>
      obtain ⟨hc, hrest⟩ := List.forall_mem_cons.mp h
      by_cases hquote : c = '\''
      · subst hquote
        have hwritten : quoteTwice ('\'' :: rest) = '\'' :: '\'' :: quoteTwice rest := rfl
        rw [hwritten, List.length_cons, List.length_cons] at hfuel
        rw [hwritten, List.cons_append, List.cons_append, readFrom_quote,
          readFrom_append hrest htext (Nat.add_pos_left hp _) (by omega)]
        simp [Nat.add_comm 2, Nat.add_assoc]
      · have hwritten : quoteTwice (c :: rest) = c :: quoteTwice rest := by
          simp [quoteTwice, hquote]
        have hblank : isBlank c = false := hc.isBlank_eq.trans (by simpa using hhead)
        rw [hwritten, List.length_cons] at hfuel
        rw [hwritten, List.cons_append, readFrom_solid hquote hblank hc.isBreak_eq,
          readFrom_append hrest htext (Nat.add_pos_left hp 1) (by omega)]
        simp [Nat.add_assoc]
termination_by s.length

end QuotedScalar

/-! ## The form that a text is written in -/

namespace Printer

variable {s : List Char}

/-- Between two printable characters no line ends. -/
theorem hasNeighbours_isBreak (h : ∀ c ∈ s, IsPrintableAscii c) (p : Char → Bool) :
    hasNeighbours p isBreak s = false ∧ hasNeighbours isBreak p s = false := by
  induction s with
  | nil => exact ⟨rfl, rfl⟩
  | cons a s ih =>
    obtain ⟨ha, hs⟩ := List.forall_mem_cons.mp h
    cases s with
    | nil => exact ⟨rfl, rfl⟩
    | cons b s =>
      obtain ⟨hafter, hbefore⟩ := ih hs
      have hb := (hs b (List.mem_cons_self ..)).isBreak_eq
      exact ⟨by simp [hasNeighbours, hb, hafter], by simp [hasNeighbours, ha.isBreak_eq, hbefore]⟩

/-- Printable characters need no escapes. -/
theorem needsEscapes_eq (h : ∀ c ∈ s, IsPrintableAscii c) : needsEscapes s = false := by
  have hall : s.all isPrintable = true := List.all_eq_true.mpr fun c hc => (h c hc).isPrintable
  rw [needsEscapes, hall, (hasNeighbours_isBreak h _).1]
  rfl

/-- A text that may stand without quotes can be read back as words. -/
theorem isPhrase_of_mayBePlain (h : ∀ c ∈ s, IsPrintableAscii c) (hne : s ≠ [])
    (hplain : mayBePlain s = true) : IsPhrase s ∧ beginsWithSign s = false := by
  simp only [mayBePlain, Bool.and_eq_true, Bool.not_eq_true'] at hplain
  obtain ⟨⟨⟨⟨-, -⟩, hhead⟩, hlast⟩, hsigns⟩ := hplain
  obtain ⟨c, rest, rfl⟩ := List.exists_cons_of_ne_nil hne
  simp only [hasSigns, Bool.or_eq_false_iff] at hsigns
  obtain ⟨⟨-, hbegins⟩, hbehind⟩ := hsigns
  refine ⟨⟨hne, h, fun hspace => ?_, fun hspace => ?_, ?_⟩, hbegins⟩
  · simp [hspace] at hhead
  · simp [hspace] at hlast
  · -- the first character is a sign itself if it is a number sign, or a colon at an end
    rw [beginsWithSign, Bool.or_eq_false_iff] at hbegins
    obtain ⟨hlist, hends⟩ := hbegins
    have hnumber : (c == '#') = false := by
      rw [beq_eq_false_iff_ne]
      rintro rfl
      simp at hlist
    have hcolon : (c == ':' && isBlankOrEnd rest.head?) = false := by
      rw [Bool.and_eq_false_iff] at hends ⊢
      refine hends.imp_left fun h => ?_
      simp only [Bool.or_eq_false_iff] at h
      exact h.1.2
    rw [hasSignBehind, hcolon, hnumber, hbehind]
    rfl

/-- **A text of printable characters is written without quotes or in single
quotes**, and without quotes only if it can be read back as words. -/
theorem styleOf_of_isPrintable (h : ∀ c ∈ s, IsPrintableAscii c) :
    styleOf s = .plain ∧ IsPhrase s ∧ beginsWithSign s = false ∨ styleOf s = .singleQuoted := by
  have hline : s.contains '\n' = false := by
    rw [List.contains_eq_mem, decide_eq_false_iff_not]
    intro hmem
    exact (h _ hmem).ne (d := '\n') (by decide) rfl
  have hsingle : mayBeSingleQuoted s = true := by
    rw [mayBeSingleQuoted, needsEscapes_eq h, (hasNeighbours_isBreak h _).2]
    rfl
  rw [styleOf, hline, hsingle]
  simp only [Bool.false_eq_true, if_false, if_true]
  split
  · next hplain =>
    obtain ⟨hself, hplain⟩ := Bool.and_eq_true_iff.mp hplain
    have hne : s ≠ [] := by
      rintro rfl
      cases hself
    exact .inl ⟨rfl, isPhrase_of_mayBePlain h hne hplain⟩
  · exact .inr rfl

/-- Printable characters make one line, without a margin. -/
theorem indented_eq (f : Char → List Char) (h : ∀ c ∈ s, IsPrintableAscii c) :
    indented f false s = s.flatMap f := by
  induction s with
  | nil => rfl
  | cons c s ih =>
    obtain ⟨hc, hs⟩ := List.forall_mem_cons.mp h
    simp [indented, hc.isBreak_eq, ih hs]

/-- A text of printable characters in single quotes. -/
theorem singleQuoted_eq (h : ∀ c ∈ s, IsPrintableAscii c) :
    singleQuoted s = '\'' :: QuotedScalar.quoteTwice s ++ ['\''] := by
  have hends : endsLine s = false := by
    rw [endsLine]
    cases hlast : s.getLast? with
    | none => rfl
    | some c => exact (h c (List.mem_of_getLast? hlast)).isBreak_eq
  rw [singleQuoted, indented_eq _ h, hends]
  simp [QuotedScalar.quoteTwice]

end Printer

end GraphGateway.Yaml
