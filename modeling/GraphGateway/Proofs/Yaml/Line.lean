import GraphGateway.Proofs.Except
import GraphGateway.Proofs.Yaml.Scalar
import GraphGateway.Yaml.TokenStream

/-!
# The tokens of a line

A line of a mapping is a key, a colon, a space and a value. It is read in
three steps, each of which ends in a scan that is known whole: behind the key
(`Scan.next_key`), where nothing shows yet that it is one; behind the colon
(`Scan.next_colon`), which puts the sign of a key before it, and the start of
the mapping if this is the first; and behind the value. For the value it
matters only that one step reads it and that the next line follows
(`ReadsAs`), which holds of words without quotes and of any printable
characters in single ones.

A scalar without quotes looks for its next word behind the end of its line, so
the blanks before the next line are skipped already when it has been read,
and behind a quote they are not. So scans are compared by where their blanks
end.
-/

namespace GraphGateway.Yaml

/-! ## What begins a token -/

/-- **Whether a text begins with what begins a token**, if with anything:
neither a blank nor a break nor a comment is skipped before it. -/
def BeginsToken (text : List Char) : Prop :=
  ∀ c ∈ text.head?, (isBlank c = false ∧ isBreak c = false) ∧ c ≠ '#' ∧ c ≠ '\uFEFF'

/-- What begins a token is solid. -/
theorem BeginsToken.beginsSolid {text : List Char} (h : BeginsToken text) : BeginsSolid text :=
  fun c hc => (h c hc).1

/-- The characters up to the first that fails `p` are taken. -/
theorem Cursor.takeFrom_append {p : Char → Bool} {run rest : List Char}
    (hrun : ∀ c ∈ run, p c = true) (hrest : ∀ c ∈ rest.head?, p c = false) (place : Place) :
    takeFrom p place (run ++ rest) = (run, ⟨rest, place.forward run.length⟩) := by
  induction run generalizing place with
  | nil =>
    cases rest with
    | nil => rfl
    | cons c rest =>
      show takeFrom p place (c :: rest) = _
      rw [takeFrom, if_neg (by simp [hrest c rfl])]
      rfl
  | cons c run ih =>
    rw [List.cons_append, takeFrom, if_pos (hrun c (List.mem_cons_self ..)),
      ih fun x hx => hrun x (List.mem_cons_of_mem _ hx), Place.next_forward]
    rfl

namespace Scan

variable {s : Scan} {text : List Char} {p : Place}

/-- Spaces are skipped, and then the break behind them, if there is one. -/
theorem skipBlanksFrom_succ (htext : ∀ c ∈ text.head?, isBlank c = false ∧ c ≠ '#' ∧ c ≠ '\uFEFF')
    (n fuel : Nat) (hs : s.cursor = ⟨List.replicate n ' ' ++ text, p⟩) :
    s.skipBlanksFrom (fuel + 1)
      = if text.head?.any isBreak then
          skipBlanksFrom fuel { s with
            cursor := (Cursor.mk text (p.forward n)).skipBreak
            keyAllowed := s.keyAllowed || !s.inFlow }
        else { s with cursor := ⟨text, p.forward n⟩ } := by
  have hfirst : (if s.place.index == 0 && s.cursor.peek? == some '\uFEFF' then s.cursor.skip
      else s.cursor) = s.cursor := by
    refine if_neg fun h => ?_
    rw [hs, Bool.and_eq_true, Cursor.peek?] at h
    cases n with
    | zero => exact (htext _ (by simpa using h.2)).2.2 rfl
    | succ n => exact absurd h.2 (by simp [List.replicate_succ])
  have hstops : ∀ c ∈ text.head?,
      (c == ' ' || ((s.inFlow || !s.keyAllowed) && c == '\t')) = false := by
    intro c hc
    have hblank := (htext c hc).1
    rw [isBlank, Bool.or_eq_false_iff] at hblank
    rw [hblank.1, hblank.2, Bool.and_false, Bool.or_self]
  have hskip : (Cursor.mk (List.replicate n ' ' ++ text) p).skipWhile
      (fun c => c == ' ' || ((s.inFlow || !s.keyAllowed) && c == '\t'))
        = ⟨text, p.forward n⟩ := by
    rw [Cursor.skipWhile, Cursor.takeWhile, Cursor.takeFrom_append (by simp) hstops]
    simp
  have hcomment : (text.head? == some '#') = false := by
    rw [beq_eq_false_iff_ne]
    exact fun h => (htext _ h).2.1 rfl
  rw [skipBlanksFrom]
  simp only [hfirst]
  simp only [hs, hskip, Cursor.skipComment, Cursor.peek?, hcomment, Bool.false_eq_true, if_false]

/-- **Spaces before a token are skipped.** -/
theorem skipBlanks_spaces (htext : BeginsToken text) (n : Nat)
    (hs : s.cursor = ⟨List.replicate n ' ' ++ text, p⟩) :
    s.skipBlanks = { s with cursor := ⟨text, p.forward n⟩ } := by
  have hbreak : text.head?.any isBreak = false := by
    cases hhead : text.head? with
    | none => rfl
    | some c => exact (htext c hhead).1.2
  rw [skipBlanks,
    skipBlanksFrom_succ (fun c hc => ⟨(htext c hc).1.1, (htext c hc).2⟩) n _ hs, hbreak]
  rfl

/-- **The end of a line is skipped**, and a key may begin on the next one. -/
theorem skipBlanks_newline (htext : BeginsToken text) (hflow : s.outerPending = [])
    (hs : s.cursor = ⟨'\n' :: text, p⟩) :
    s.skipBlanks = { s with cursor := ⟨text, p.nextLine 1⟩, keyAllowed := true } := by
  have hfirst : s.skipBlanks = skipBlanksFrom (text.length + 1)
      { s with cursor := ⟨text, p.nextLine 1⟩, keyAllowed := s.keyAllowed || !s.inFlow } := by
    have hline : ∀ c ∈ ('\n' :: text).head?, isBlank c = false ∧ c ≠ '#' ∧ c ≠ '\uFEFF' := by
      rintro c ⟨⟩
      decide
    rw [skipBlanks, hs, List.length_cons]
    exact skipBlanksFrom_succ hline 0 (text.length + 1) hs
  have hallowed : (s.keyAllowed || !s.inFlow) = true := by simp [inFlow, hflow]
  rw [hfirst, hallowed]
  exact skipBlanks_spaces (s := { s with cursor := ⟨text, p.nextLine 1⟩, keyAllowed := true })
    htext 0 rfl

/-! ## What a token is -/

/-- The signs that are no scalar, whatever stands behind them. -/
theorem ne_of_not_beginsWithSign {c : Char} {rest : List Char}
    (h : Printer.beginsWithSign (c :: rest) = false) :
    ∀ d ∈ "#,[]\x7b\x7d&*!|>'\"%@\x60".toList, (c == d) = false := by
  intro d hd
  rw [Printer.beginsWithSign, Bool.or_eq_false_iff] at h
  rw [beq_eq_false_iff_ne]
  rintro rfl
  cases (List.contains_iff_mem.mpr hd).symm.trans h.1

/-- The signs that begin a scalar unless a blank or an end stands behind
them. -/
theorem isBlankOrEnd_of_not_beginsWithSign {c : Char} {rest : List Char}
    (h : Printer.beginsWithSign (c :: rest) = false) (hc : c = '-' ∨ c = '?' ∨ c = ':') :
    isBlankOrEnd rest.head? = false := by
  rw [Printer.beginsWithSign, Bool.or_eq_false_iff] at h
  obtain rfl | rfl | rfl := hc <;> exact h.2

/-- A scalar without quotes begins where no sign does. -/
theorem beginsPlain_of_not_beginsWithSign {c : Char} {rest : List Char}
    (h : Printer.beginsWithSign (c :: rest) = false)
    (hsolid : isBlank c = false ∧ isBreak c = false) :
    beginsPlain false c rest.head? = true := by
  by_cases hc : c = '-' ∨ c = '?' ∨ c = ':'
  · have hends := isBlankOrEnd_of_not_beginsWithSign h hc
    have hblank : rest.head?.any isBlank = false := by
      cases hhead : rest.head? with
      | none => rfl
      | some d =>
        rw [hhead, isBlankOrEnd, Bool.or_eq_false_iff] at hends
        exact hends.1
    obtain rfl | rfl | rfl := hc <;> simp [beginsPlain, hends, hblank]
  · obtain ⟨hdash, hquestion, hcolon⟩ : c ≠ '-' ∧ c ≠ '?' ∧ c ≠ ':' := by simpa using hc
    have hother := ne_of_not_beginsWithSign h
    have hlist : "-?:,[]\x7b\x7d#&*!|>'\"%@\x60".toList.contains c = false := by
      simp_all
    rw [beginsPlain, hsolid.1, hsolid.2, hlist]
    rfl

/-- **A text is a scalar without quotes** if no sign begins it. -/
theorem token_plain {c : Char} {rest : List Char} (hs : s.cursor.rest = c :: rest)
    (hflow : s.outerPending = []) (hmark : s.cursor.atDocumentMark = false)
    (hsolid : isBlank c = false ∧ isBreak c = false)
    (hbegins : Printer.beginsWithSign (c :: rest) = false) : s.token c = s.plainScalar := by
  have hfollowing : s.cursor.at? 1 = rest.head? := by
    rw [Cursor.at?, hs, List.head?_eq_getElem?]
    rfl
  have hinFlow : s.inFlow = false := by simp [inFlow, hflow]
  obtain ⟨hdash, hdot⟩ := Bool.or_eq_false_iff.mp hmark
  have hplain := beginsPlain_of_not_beginsWithSign hbegins hsolid
  have hne := ne_of_not_beginsWithSign hbegins
  have hends (d : Char) (hd : d = '-' ∨ d = '?' ∨ d = ':') :
      (c == d && isBlankOrEnd rest.head?) = false := by
    cases h : c == d with
    | false => rfl
    | true =>
      obtain rfl : c = d := by simpa using h
      exact isBlankOrEnd_of_not_beginsWithSign hbegins hd
  rw [token]
  simp only [hfollowing, hinFlow, hdash, hdot, hplain, hends '-' (by decide), hends '?' (by decide),
    hends ':' (by decide), hne '%' (by decide), hne '[' (by decide), hne ']' (by decide),
    hne '\x7b' (by decide), hne '\x7d' (by decide), hne ',' (by decide), hne '*' (by decide),
    hne '&' (by decide), hne '!' (by decide), hne '|' (by decide), hne '>' (by decide),
    hne '\'' (by decide), hne '"' (by decide), Bool.false_or, Bool.false_and, Bool.false_eq_true,
    if_false, if_true]

/-- **A quote is a scalar in single quotes.** -/
theorem token_quote (hflow : s.outerPending = [])
    (hmark : s.cursor.atDocumentMark = false) : s.token '\'' = s.quotedScalar true := by
  have hinFlow : s.inFlow = false := by simp [inFlow, hflow]
  obtain ⟨hdash, hdot⟩ := Bool.or_eq_false_iff.mp hmark
  rw [token]
  simp only [hinFlow, hdash, hdot]
  rfl

/-- **A colon before a blank is the sign of a value.** -/
theorem token_colon {rest : List Char} (hs : s.cursor.rest = ':' :: ' ' :: rest)
    (hmark : s.cursor.atDocumentMark = false) : s.token ':' = s.value := by
  have hfollowing : s.cursor.at? 1 = some ' ' := by rw [Cursor.at?, hs]; rfl
  obtain ⟨hdash, hdot⟩ := Bool.or_eq_false_iff.mp hmark
  have hends : (s.inFlow || isBlankOrEnd (some ' ')) = true := Bool.or_true _
  rw [token]
  simp only [hfollowing, hdash, hdot, hends]
  rfl

/-! ## Steps -/

/-- A pending key on the same line, not too far back, is kept. -/
theorem dropStale_eq (hflow : s.outerPending = []) (hpending : ∀ key ∈ s.pending,
    key.place.line = s.place.line ∧ s.place.index ≤ key.place.index + 1024) :
    s.dropStale = .ok s := by
  have hkept : s.unlessStale s.pending = .ok s.pending := by
    cases hkey : s.pending with
    | none => rfl
    | some key =>
      obtain ⟨hline, hindex⟩ := hpending key hkey
      rw [unlessStale, if_neg]
      simp [hline, hindex]
  have houter : s.outerPending.mapM s.unlessStale = .ok s.outerPending := by
    rw [hflow]
    rfl
  rw [dropStale, houter, hkept]
  rfl

/-- Nothing ends that is not indented further than a column. -/
theorem unrollTo_eq {column : Int} (h : s.indent ≤ column) : s.unrollTo column = s := by
  rw [unrollTo]
  cases s.outerIndents with
  | nil => exact ite_self s
  | cons outer outers =>
    rw [unrollFrom, if_neg (Int.not_lt.mpr h)]
    exact ite_self s

/-- **A step reads the token behind the blanks.** -/
theorem next_eq_ok {t t' : Scan} {c : Char} (hskip : s.skipBlanks = t) (hdrop : t.dropStale = .ok t)
    (hindent : t.indent ≤ t.place.column) (hpeek : t.cursor.peek? = some c)
    (htoken : t.token c = .ok t') (hdrop' : t'.dropStale = .ok t') : s.next = .ok (t', false) := by
  rw [next, hskip, hdrop, ok_bind]
  simp only [unrollTo_eq hindent, hpeek, htoken, ok_bind, hdrop']
  rfl

/-- Where no key may begin, none is remembered. -/
theorem savePending_eq (h : s.keyAllowed = false) : s.savePending = .ok s := by
  rw [savePending, h]
  rfl

/-- A scalar without quotes becomes a token. -/
theorem plainScalar_eq {t : Scan} {r : PlainScalar.Result} (hsave : s.savePending = .ok t)
    (hread : PlainScalar.read t.inFlow (t.indent + 1).toNat t.cursor = .ok r) :
    s.plainScalar = .ok { t.add (.scalar (String.ofList r.text) .plain) t.place r.stop with
      cursor := r.cursor, keyAllowed := r.onLaterLine } := by
  rw [plainScalar, hsave, ok_bind, hread]
  rfl

/-- A scalar in single quotes becomes a token. -/
theorem quotedScalar_eq {t : Scan} {text : List Char} {behind : Cursor}
    (hsave : s.savePending = .ok t) (hread : QuotedScalar.read true t.cursor = .ok (text, behind)) :
    s.quotedScalar true
      = .ok { t.add (.scalar (String.ofList text) .singleQuoted) t.place behind.place with
          cursor := behind, keyAllowed := false } := by
  rw [quotedScalar, hsave, ok_bind, hread]
  rfl

/-! ## The key of a line -/

/-- **A scan at the start of a line**, where a mapping has begun before or
not. -/
def lineStart (begun : Bool) (tokens : List Placed) (text : List Char) (p : Place) : Scan where
  cursor := ⟨text, p⟩
  tokens := tokens
  pending := none
  outerPending := []
  indent := if begun then 0 else -1
  outerIndents := if begun then [-1] else []
  keyAllowed := true

/-- A scan behind the scalar that begins a line, which may be a key. -/
def behindKey (begun : Bool) (tokens : List Placed) (key : Placed) (text : List Char) : Scan :=
  { lineStart begun (tokens ++ [key]) text key.stop with
    pending := some ⟨begun, tokens.length, key.start⟩, keyAllowed := false }

/-- A scan behind the colon of a line. -/
def behindColon (tokens : List Placed) (text : List Char) (p : Place) : Scan :=
  { lineStart true tokens text p with keyAllowed := false }

variable {key : List Char} {begun : Bool} {tokens : List Placed}

/-- No blank stands before the token that begins a line. -/
theorem skipBlanks_lineStart (h : BeginsToken text) :
    (lineStart begun tokens text p).skipBlanks = lineStart begun tokens text p :=
  skipBlanks_spaces h 0 rfl

/-- At the start of a line a key may begin. -/
theorem savePending_lineStart (hp : p.column = 0) :
    (lineStart begun tokens text p).savePending
      = .ok { lineStart begun tokens text p with pending := some ⟨begun, tokens.length, p⟩ } := by
  have hrequired : (!(lineStart begun tokens text p).inFlow
      && (lineStart begun tokens text p).indent == (p.column : Int)) = begun := by
    cases begun <;> simp [lineStart, inFlow, hp]
  have hallowed : (lineStart begun tokens text p).keyAllowed = true := rfl
  rw [savePending, if_pos hallowed]
  exact congrArg (fun required => Except.ok { lineStart begun tokens text p with
    pending := some ⟨required, tokens.length, p⟩ }) hrequired

/-- **The name that begins a line is read**, and may be a key if it is no longer
than a key may be. -/
theorem next_key (hkey : IsName key) (hlength : key.length ≤ 1024) (hp : p.column = 0)
    (hskip : s.skipBlanks = lineStart begun tokens (key ++ ':' :: ' ' :: text) p) :
    s.next = .ok (behindKey begun tokens
      ⟨.scalar (String.ofList key) .plain, p, p.forward key.length⟩
      (':' :: ' ' :: text), false) := by
  obtain ⟨c, rest, hcons⟩ := List.exists_cons_of_ne_nil hkey.ne_nil
  have hrest : key ++ ':' :: ' ' :: text = c :: (rest ++ ':' :: ' ' :: text) := by
    rw [hcons, List.cons_append]
  have htoken := token_plain (s := lineStart begun tokens (key ++ ':' :: ' ' :: text) p) hrest rfl
    (hkey.atDocumentMark_eq _ _) (hkey.isSolid c (hcons ▸ List.mem_cons_self ..))
    (hrest ▸ hkey.beginsWithSign_eq _)
  have hindent : (lineStart begun tokens (key ++ ':' :: ' ' :: text) p).indent
      ≤ (p.column : Int) := by
    cases begun <;> simp [lineStart, hp]
  refine next_eq_ok hskip (dropStale_eq rfl nofun) hindent (congrArg List.head? hrest)
    (htoken.trans (plainScalar_eq (savePending_lineStart hp) (hkey.read_eq _ _ _))) ?_
  refine dropStale_eq rfl fun pending hpending => ?_
  obtain rfl := Option.some.inj hpending
  exact ⟨rfl, Nat.add_le_add_left hlength _⟩

/-- **The colon makes a key of the scalar before it**, and the first one of a
mapping begins that. -/
theorem next_colon (begun : Bool) (tokens : List Placed) (key : Placed) (text : List Char)
    (hstart : key.start.column = 0) (hstop : 0 < key.stop.column)
    (hline : key.start.line = key.stop.line) (hindex : key.stop.index ≤ key.start.index + 1024) :
    (behindKey begun tokens key (':' :: ' ' :: text)).next
      = .ok (behindColon
          (tokens ++ (if begun then [] else [⟨.blockMappingStart, key.start, key.start⟩])
            ++ [⟨.key, key.start, key.start⟩, key, ⟨.value, key.stop, key.stop.next⟩])
          (' ' :: text) key.stop.next, false) := by
  have hcolon : BeginsToken (':' :: ' ' :: text) := by rintro c ⟨⟩; decide
  have hskip : (behindKey begun tokens key (':' :: ' ' :: text)).skipBlanks
      = behindKey begun tokens key (':' :: ' ' :: text) := skipBlanks_spaces hcolon 0 rfl
  have hpending : ∀ pending ∈ (behindKey begun tokens key (':' :: ' ' :: text)).pending,
      pending.place.line = key.stop.line ∧ key.stop.index ≤ pending.place.index + 1024 := by
    intro pending hpending
    obtain rfl := Option.some.inj hpending
    exact ⟨hline, hindex⟩
  have hindent : (behindKey begun tokens key (':' :: ' ' :: text)).indent
      ≤ (key.stop.column : Int) := by
    cases begun <;> simp [behindKey, lineStart]
  refine next_eq_ok hskip (dropStale_eq rfl hpending) hindent (c := ':') rfl
    ((token_colon rfl (Cursor.atDocumentMark_of_column_pos hstop)).trans ?_)
    (dropStale_eq rfl nofun)
  cases begun <;>
    simp [value, behindKey, lineStart, addBefore, rollTo, inFlow, hstart, addNext, add, behindColon,
      place, Cursor.skipMany, Cursor.skip]

end Scan

/-! ## The value of a line -/

/-- **Whether a text is read as the value of a line**: behind a colon and a
space it is one token, and what follows is the next line. -/
def ReadsAs (written text : List Char) (style : Style) : Prop :=
  ∀ (tokens : List Placed) (behind : List Char) (p : Place), BeginsToken behind →
    ∃ (start stop q : Place) (s : Scan), q.column = 0
      ∧ (Scan.behindColon tokens (' ' :: (written ++ '\n' :: behind)) p).next = .ok (s, false)
      ∧ s.skipBlanks = Scan.lineStart true
          (tokens ++ [⟨.scalar (String.ofList text) style, start, stop⟩]) behind q

/-- The end of a line makes no sign of what begins it. -/
theorem Printer.beginsWithSign_append (s rest : List Char) :
    beginsWithSign (s ++ '\n' :: rest) = beginsWithSign s := by
  cases s with
  | nil => rfl
  | cons c s => cases s <;> rfl

/-- A text of words begins a token. -/
theorem IsPhrase.beginsToken {s : List Char} (h : IsPhrase s) (text : List Char) :
    BeginsToken (s ++ text) := by
  intro c hc
  refine ⟨h.beginsSolid text c hc, ?_, ?_⟩
  · rintro rfl
    exact h.head?_ne text hc
  · obtain ⟨d, s, rfl⟩ := List.exists_cons_of_ne_nil h.ne_nil
    obtain rfl := Option.some.inj hc
    exact (h.isPrintable _ (List.mem_cons_self ..)).ne (by decide)

/-- **Words are read as themselves** if no sign begins them. -/
theorem readsAs_plain {s : List Char} (h : IsPhrase s) (hsign : Printer.beginsWithSign s = false) :
    ReadsAs s s .plain := by
  intro tokens behind p hbehind
  obtain ⟨c, rest, hcons⟩ := List.exists_cons_of_ne_nil h.ne_nil
  have hrest : s ++ '\n' :: behind = c :: (rest ++ '\n' :: behind) := by
    rw [hcons, List.cons_append]
  have hcolumn : 0 < p.next.column := Nat.succ_pos _
  have hskip := Scan.skipBlanks_spaces
    (s := Scan.behindColon tokens (' ' :: (s ++ '\n' :: behind)) p)
    (h.beginsToken ('\n' :: behind)) 1 rfl
  have htoken := Scan.token_plain (s := Scan.behindColon tokens (s ++ '\n' :: behind) p.next)
    hrest rfl (Cursor.atDocumentMark_of_column_pos hcolumn)
    (h.beginsSolid ('\n' :: behind) c (congrArg List.head? hrest))
    (by rw [← hrest, Printer.beginsWithSign_append, hsign])
  have hread : PlainScalar.read false 1 ⟨s ++ '\n' :: behind, p.next⟩
      = .ok ⟨s, p.next.forward s.length, true, ⟨behind, (p.next.forward s.length).nextLine 1⟩⟩ :=
    PlainScalar.readFrom_append h hbehind.beginsSolid hcolumn
      (Nat.lt_succ_of_le (List.prefix_append ..).length_le) [] .none
  have hscalar := Scan.plainScalar_eq (s := Scan.behindColon tokens (s ++ '\n' :: behind) p.next)
    (Scan.savePending_eq rfl) hread
  have hnext : (Scan.behindColon tokens (' ' :: (s ++ '\n' :: behind)) p).next
      = .ok (Scan.lineStart true
          (tokens ++ [⟨.scalar (String.ofList s) .plain, p.next, p.next.forward s.length⟩]) behind
          ((p.next.forward s.length).nextLine 1), false) :=
    Scan.next_eq_ok hskip (Scan.dropStale_eq rfl nofun) (Int.natCast_nonneg _)
      (congrArg List.head? hrest) (htoken.trans hscalar) (Scan.dropStale_eq rfl nofun)
  -- the gap behind the last word has been read with it
  exact ⟨_, _, _, _, rfl, hnext, Scan.skipBlanks_lineStart hbehind⟩

/-- **Printable characters in single quotes are read as themselves.** -/
theorem readsAs_singleQuoted {s : List Char} (h : ∀ c ∈ s, IsPrintableAscii c) :
    ReadsAs ('\'' :: QuotedScalar.quoteTwice s ++ ['\'']) s .singleQuoted := by
  intro tokens behind p hbehind
  have hwritten : '\'' :: QuotedScalar.quoteTwice s ++ ['\''] ++ '\n' :: behind
      = '\'' :: (QuotedScalar.quoteTwice s ++ '\'' :: '\n' :: behind) := by
    simp
  rw [hwritten]
  have hquote : BeginsToken ('\'' :: (QuotedScalar.quoteTwice s ++ '\'' :: '\n' :: behind)) := by
    rintro c ⟨⟩
    decide
  have hskip := Scan.skipBlanks_spaces
    (s := Scan.behindColon tokens
      (' ' :: '\'' :: (QuotedScalar.quoteTwice s ++ '\'' :: '\n' :: behind)) p)
    hquote 1 rfl
  have htoken := Scan.token_quote
    (s := Scan.behindColon tokens ('\'' :: (QuotedScalar.quoteTwice s ++ '\'' :: '\n' :: behind))
      p.next)
    rfl (Cursor.atDocumentMark_of_column_pos (Nat.succ_pos _))
  have hread : QuotedScalar.read true
      ⟨'\'' :: (QuotedScalar.quoteTwice s ++ '\'' :: '\n' :: behind), p.next⟩
      = .ok (s, ⟨'\n' :: behind, p.next.next.forward ((QuotedScalar.quoteTwice s).length + 1)⟩) :=
    QuotedScalar.readFrom_append h (by simp) (Nat.succ_pos _) (by simp; omega) []
  have hscalar := Scan.quotedScalar_eq
    (s := Scan.behindColon tokens ('\'' :: (QuotedScalar.quoteTwice s ++ '\'' :: '\n' :: behind))
      p.next)
    (Scan.savePending_eq rfl) hread
  have hnext := Scan.next_eq_ok hskip (Scan.dropStale_eq rfl nofun) (Int.natCast_nonneg _) rfl
    (htoken.trans hscalar) (Scan.dropStale_eq rfl nofun)
  exact ⟨_, _, _, _, rfl, hnext, Scan.skipBlanks_newline hbehind rfl rfl⟩

end GraphGateway.Yaml
