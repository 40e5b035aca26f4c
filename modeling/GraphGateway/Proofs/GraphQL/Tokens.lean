import GraphGateway.Proofs.GraphQL.Grammar

/-!
# How texts are cut into tokens

The first token of a text is found without the rest of it: a name ends where something
stands that cannot belong to it, and a brace is a token by itself. What stands between the token
and the next one is passed over, so that the text behind is cut as if it stood alone
(`CutAt.next`). Such steps lead from the keyword of an operation to its brace
(`CutAt.next_name_blanks`), and from the brace to its first field (`CutAt.next_brace_name`).
-/

namespace GraphGateway.GraphQL

open Grammar (openBrace StartsWith)

/-! ## Blanks -/

/-- A blank on a line, or the end of the line. -/
def IsSpace (c : Char) : Prop := c = ' ' ∨ c = '\n'

/-- Whether a character is passed over between tokens. -/
def isIgnored (c : Char) : Bool :=
  c == '\uFEFF' || c == '\r' || c == '\t' || c == '\n' || c == ' ' || c == ',' || c == '#'

/-- A character that is not passed over stays. -/
theorem Token.skipIgnored_cons {c : Char} (hc : isIgnored c = false) (fuel : Nat) (place : Place)
    (rest : List Char) : skipIgnored fuel place (c :: rest) = (place, c :: rest) := by
  cases fuel with
  | zero => rfl
  | succ fuel =>
    simp only [isIgnored, Bool.or_eq_false_iff] at hc
    simp [skipIgnored, hc]

/-- Blanks before a token are passed over. -/
theorem Token.skipIgnored_append {blanks rest : List Char} {c : Char} {fuel : Nat}
    (hblanks : ∀ b ∈ blanks, IsSpace b) (hc : isIgnored c = false) (hfuel : blanks.length ≤ fuel)
    (place : Place) :
    ∃ place', skipIgnored fuel place (blanks ++ c :: rest) = (place', c :: rest) := by
  induction blanks generalizing fuel place with
  | nil => exact ⟨place, skipIgnored_cons hc fuel place rest⟩
  | cons b blanks ih =>
    obtain ⟨hb, hmore⟩ := List.forall_mem_cons.mp hblanks
    cases fuel with
    | zero => cases hfuel
    | succ fuel =>
      have hleft := Nat.le_of_succ_le_succ hfuel
      rcases hb with rfl | rfl
      · exact ih hmore hleft (place.shift 1)
      · exact ih hmore hleft place.nextLine

/-! ## First tokens -/

/-- A character that starts a name is no sign, and is not passed over. -/
theorem Token.notMem_of_isNameStart {c : Char} (hc : isNameStart c = true) :
    c ∉ "()[]\x7b\x7d!$:=@|&.\uFEFF\r\t\n ,#".toList := by
  have hnone : "()[]\x7b\x7d!$:=@|&.\uFEFF\r\t\n ,#".toList.any isNameStart = false := by decide
  intro hmem
  rw [List.any_eq_true.mpr ⟨c, hmem, hc⟩] at hnone
  cases hnone

/-- A character that starts a name is not passed over. -/
theorem isIgnored_of_isNameStart {c : Char} (hc : Token.isNameStart c = true) :
    isIgnored c = false := by
  have hnone := Token.notMem_of_isNameStart hc
  simp only [String.reduceToList, List.mem_cons, not_or] at hnone
  simp [isIgnored, hnone]

/-- A brace is a token by itself. -/
theorem Token.first_brace (rest : List Char) : first '\x7b' rest = .ok openBrace := rfl

/-- A name is a token with all that can belong to it. -/
theorem Token.first_name {c : Char} (hc : isNameStart c = true) (rest : List Char) :
    first c rest = .ok ⟨.name, String.ofList (c :: rest.takeWhile isNamePart)⟩ := by
  have hnone := notMem_of_isNameStart hc
  simp only [String.reduceToList, List.mem_cons, not_or] at hnone
  simp [first, hnone, hc]

/-- **A name.** -/
structure Name where
  /-- Its first character. -/
  first : Char
  /-- The characters behind the first one. -/
  more : List Char
  /-- The first may start a name. -/
  first_ok : Token.isNameStart first = true
  /-- The others may stand in a name. -/
  more_ok : more.all Token.isNamePart = true

namespace Name

/-- The characters of a name. -/
def chars (n : Name) : List Char := n.first :: n.more

/-- All characters of a name may stand in a name. -/
theorem isNamePart_of_mem (n : Name) : ∀ c ∈ n.chars, Token.isNamePart c = true := by
  refine List.forall_mem_cons.mpr ⟨?_, List.all_eq_true.mp n.more_ok⟩
  have hfirst := n.first_ok
  rw [Token.isNameStart, Bool.or_eq_true] at hfirst
  rw [Token.isNamePart, Char.isAlphanum, Bool.or_eq_true, Bool.or_eq_true]
  exact hfirst.imp_left .inl

/-- A name does not have a character that may not stand in one. -/
theorem notMem (n : Name) {c : Char} (hc : Token.isNamePart c = false) : c ∉ n.chars :=
  fun hmem => by
    rw [n.isNamePart_of_mem c hmem] at hc
    cases hc

/-- The text of a name. -/
def text (n : Name) : String := String.ofList n.chars

/-- A name is a token where it ends. -/
theorem first_append (n : Name) {d : Char} (hd : Token.isNamePart d = false) (rest : List Char) :
    Token.first n.first (n.more ++ d :: rest) = .ok ⟨.name, n.text⟩ := by
  rw [Token.first_name n.first_ok, List.takeWhile_append_of_pos (List.all_eq_true.mp n.more_ok),
    List.takeWhile_cons_of_neg (by simp [hd]), List.append_nil]
  rfl

/-- Behind a name is what follows it. -/
theorem drop_append (n : Name) (rest : List Char) :
    (n.chars ++ rest).drop n.text.length = rest := by
  rw [text, String.length_ofList, List.drop_left]

end Name

/-! ## Texts that are cut -/

/-- **Whether tokens are those of a text** in which a number of brackets may still be opened. -/
def CutAt (depth : Nat) (s : List Char) (ts : Tokens) : Prop :=
  ∃ fuel place, s.length ≤ fuel ∧ ts = tokenizeFrom fuel depth place s

variable {depth : Nat} {ts : Tokens} {c : Char} {rest : List Char} {t : Token}

/-- The first token of a text comes first, and the others are those of what is left behind
it when the text between is passed over. -/
theorem CutAt.exists_next (h : CutAt depth (c :: rest) ts) (hdepth : 0 < depth)
    (hfirst : Token.first c rest = .ok t) :
    ∃ fuel depth' place, rest.length ≤ fuel ∧ depth ≤ depth' + 1
      ∧ ∀ skipped, Token.skipIgnored ((c :: rest).drop t.text.length).length place
          ((c :: rest).drop t.text.length) = skipped →
        ts.next? = some (t, tokenizeFrom fuel depth' skipped.1 skipped.2) := by
  obtain ⟨fuel, place, hfuel, rfl⟩ := h
  cases fuel with
  | zero => cases hfuel
  | succ fuel =>
    have hroom : (depth == 0) = false := beq_eq_false_iff_ne.mpr (Nat.ne_of_gt hdepth)
    refine ⟨fuel, if c == '(' || c == '[' || c == '\x7b' then depth - 1
      else if c == ')' || c == ']' || c == '\x7d' then depth + 1 else depth, t.behind place,
      Nat.le_of_succ_le_succ hfuel, ?_, ?_⟩
    · split
      · omega
      · split <;> omega
    · rintro skipped rfl
      simp only [tokenizeFrom, hroom, Bool.and_false, Bool.false_eq_true, if_false, hfirst]
      rfl

/-- **What is behind the first token of a text** is cut from its first token on. -/
theorem CutAt.next (h : CutAt depth (c :: rest) ts) (hdepth : 0 < depth)
    (hfirst : Token.first c rest = .ok t) {blanks more : List Char} {d : Char}
    (hbehind : (c :: rest).drop t.text.length = blanks ++ d :: more)
    (hpos : 0 < t.text.length) (hblanks : ∀ b ∈ blanks, IsSpace b) (hd : isIgnored d = false) :
    ∃ next depth', ts.next? = some (t, next) ∧ depth ≤ depth' + 1
      ∧ CutAt depth' (d :: more) next := by
  obtain ⟨fuel, depth', place, hfuel, hle, hnext⟩ := h.exists_next hdepth hfirst
  have hlength := congrArg List.length hbehind
  rw [List.length_drop, List.length_append, List.length_cons, List.length_cons] at hlength
  obtain ⟨place', hskipped⟩ := @Token.skipIgnored_append blanks more d _ hblanks hd
    (hbehind ▸ List.length_append ▸ Nat.le_add_right ..) place
  rw [← hbehind] at hskipped
  refine ⟨_, depth', hnext _ hskipped, hle, fuel, place', ?_, rfl⟩
  rw [List.length_cons]
  omega

/-- The tokens of a document are those of its text from its first token on. -/
theorem cutAt_tokenize {document : String} (hdocument : document.toList = c :: rest)
    (hc : isIgnored c = false) : CutAt 50 (c :: rest) (tokenize document) := by
  unfold tokenize
  dsimp only
  rw [hdocument, Token.skipIgnored_cons hc]
  exact ⟨_, _, Nat.le_refl _, rfl⟩

/-! ## A keyword, a brace, and a name -/

/-- A name comes first where it ends. -/
theorem CutAt.next_name {n : Name} {d : Char} (h : CutAt depth (n.chars ++ d :: rest) ts)
    (hdepth : 0 < depth) (hd : Token.isNamePart d = false) :
    ∃ next, ts.next? = some (⟨.name, n.text⟩, next) := by
  obtain ⟨_, _, _, -, -, hnext⟩ := CutAt.exists_next h hdepth (n.first_append hd rest)
  exact ⟨_, hnext _ rfl⟩

/-- A brace and a name come first, one after the other. -/
theorem CutAt.next_brace_name {n : Name} {d : Char} {blanks : List Char}
    (h : CutAt depth ('\x7b' :: (blanks ++ (n.chars ++ d :: rest))) ts) (hdepth : 1 < depth)
    (hblanks : ∀ b ∈ blanks, IsSpace b) (hd : Token.isNamePart d = false) :
    ∃ inside next, ts.next? = some (openBrace, inside)
      ∧ inside.next? = some (⟨.name, n.text⟩, next) := by
  obtain ⟨inside, depth', hbrace, hle, hinside⟩ := h.next (Nat.lt_trans Nat.zero_lt_one hdepth)
    (Token.first_brace _) rfl Nat.zero_lt_one hblanks (isIgnored_of_isNameStart n.first_ok)
  obtain ⟨next, hname⟩ := CutAt.next_name hinside (by omega) hd
  exact ⟨inside, next, hbrace, hname⟩

/-- A blank ends a name. -/
theorem IsSpace.isNamePart_eq {c : Char} (h : IsSpace c) : Token.isNamePart c = false := by
  rcases h with rfl | rfl <;> decide

/-- A name with blanks behind it comes first, and what is behind the blanks is cut on its own. -/
theorem CutAt.next_name_blanks {n : Name} {d e : Char} {blanks : List Char}
    (h : CutAt depth (n.chars ++ d :: (blanks ++ e :: rest)) ts) (hdepth : 0 < depth)
    (hd : IsSpace d) (hblanks : ∀ b ∈ blanks, IsSpace b) (he : isIgnored e = false) :
    ∃ next depth', ts.next? = some (⟨.name, n.text⟩, next) ∧ depth ≤ depth' + 1
      ∧ CutAt depth' (e :: rest) next :=
  CutAt.next h hdepth (n.first_append hd.isNamePart_eq _) (n.drop_append (d :: blanks ++ e :: rest))
    (by rw [Name.text, String.length_ofList]; exact Nat.succ_pos _)
    (List.forall_mem_cons.mpr ⟨hd, hblanks⟩) he

end GraphGateway.GraphQL
