import GraphGateway.Proofs.Yaml.Line
import GraphGateway.Yaml.Document

/-!
# Mappings are read as they were written

A mapping is written as lines, each a key with a scalar. From a text of such
lines the tokens are read line by line (`Scan.run_line`, `Scan.run_lines`), then
the events of the keys and values (`Walk.from_lines`), and these are a document
of their own (`Document.first_lines`).

Where the tokens and the events stand in the text does not matter to whoever
reads a mapping, and so the statements only say which they are: tokens are
compared by their `kinds`, and the places of events are only said to exist. No
event is an alias or has a name, which an `Event Empty` shows by its type.
-/

namespace GraphGateway.Yaml

/-- **A line of a mapping**: its key, and its value as it is written and as it
is read. -/
structure Line where
  /-- The key. -/
  key : List Char
  /-- The value as it is written. -/
  written : List Char
  /-- The text of the value. -/
  text : List Char
  /-- How the value is written. -/
  style : Style

namespace Line

/-- The characters of a line. -/
def chars (l : Line) : List Char := l.key ++ ':' :: ' ' :: l.written ++ ['\n']

/-- The key and the value of a line. -/
def scalars (l : Line) : List Scalar :=
  [⟨none, String.ofList l.key, .plain⟩, ⟨none, String.ofList l.text, l.style⟩]

/-- The tokens of a line. -/
def tokens (l : Line) : List Token :=
  [.key, .scalar (String.ofList l.key) .plain, .value, .scalar (String.ofList l.text) l.style]

/-- **Whether a line is read as what it says.** -/
structure IsReadable (l : Line) : Prop where
  /-- The key is a name. -/
  isName : IsName l.key
  /-- It is no longer than a key may be. -/
  length_le : l.key.length ≤ 1024
  /-- The characters of the value are printable. -/
  isPrintable : ∀ c ∈ l.written, IsPrintableAscii c
  /-- The value is read as its text. -/
  readsAs : ReadsAs l.written l.text l.style

end Line

/-! ## Tokens -/

/-- What tokens there are, wherever they stand. -/
def kinds (tokens : List Placed) : List Token := tokens.map (·.token)

/-- A line begins a token. -/
theorem Line.IsReadable.beginsToken {l : Line} (h : l.IsReadable) (text : List Char) :
    BeginsToken (l.chars ++ text) := by
  rw [chars, List.append_assoc, List.append_assoc]
  exact h.isName.isPhrase.beginsToken _

/-- The lines of a mapping begin a token, if they are not the last. -/
theorem beginsToken_lines {lines : List Line} (h : ∀ l ∈ lines, l.IsReadable) :
    BeginsToken (lines.flatMap Line.chars) := by
  cases lines with
  | nil => exact nofun
  | cons l lines => exact (h l (List.mem_cons_self ..)).beginsToken _

namespace Scan

variable {s s' : Scan} {p : Place} {begun : Bool} {tokens : List Placed}

/-- A step that reads a token is one of a run. -/
theorem run_succ (h : s.next = .ok (s', false)) (fuel : Nat) : run (fuel + 1) s = run fuel s' := by
  rw [run, h]

/-- **A line is read in three steps.** -/
theorem run_line {l : Line} (hl : l.IsReadable) {behind : List Char} (hbehind : BeginsToken behind)
    (hp : p.column = 0) (hskip : s.skipBlanks = lineStart begun tokens (l.chars ++ behind) p)
    (fuel : Nat) :
    ∃ (tokens' : List Placed) (q : Place) (s' : Scan), q.column = 0
      ∧ run (fuel + 3) s = run fuel s'
      ∧ s'.skipBlanks = lineStart true tokens' behind q
      ∧ kinds tokens'
        = kinds tokens ++ (if begun then [] else [.blockMappingStart]) ++ l.tokens := by
  have htext : l.chars ++ behind = l.key ++ ':' :: ' ' :: (l.written ++ '\n' :: behind) := by
    simp [Line.chars]
  rw [htext] at hskip
  have hkey := next_key hl.isName hl.length_le hp hskip
  have hcolon := next_colon begun tokens
    ⟨.scalar (String.ofList l.key) .plain, p, p.forward l.key.length⟩
    (l.written ++ '\n' :: behind) hp
    (Nat.add_pos_right _ (List.length_pos_iff.mpr hl.isName.ne_nil)) rfl
    (Nat.add_le_add_left hl.length_le _)
  obtain ⟨start, stop, q, s', hq, hvalue, hskip'⟩ := hl.readsAs _ behind
    (p.forward l.key.length).next hbehind
  refine ⟨_, q, s', hq, ?_, hskip', ?_⟩
  · exact (run_succ hkey _).trans ((run_succ hcolon _).trans (run_succ hvalue _))
  · cases begun <;> simp [kinds, Line.tokens]

/-- **The mapping ends with the text.** -/
theorem next_end (hp : p.column = 0) (hskip : s.skipBlanks = lineStart true tokens [] p) :
    s.next = .ok (lineStart false (tokens ++ [⟨.blockEnd, p, p⟩]) [] p, true) := by
  have hdrop : (lineStart true tokens [] p).dropStale = .ok (lineStart true tokens [] p) :=
    dropStale_eq rfl nofun
  have hunroll : (lineStart true tokens [] p).unrollTo (lineStart true tokens [] p).place.column
      = lineStart true tokens [] p := unrollTo_eq (Int.natCast_nonneg _)
  have hfinish : (lineStart true tokens [] p).finish
      = .ok (lineStart false (tokens ++ [⟨.blockEnd, p, p⟩]) [] p) := by
    have hplace :
        (if (lineStart true tokens [] p).place.column == 0 then p else p.nextLine 0) = p :=
      if_pos (beq_iff_eq.mpr hp)
    rw [finish]
    exact congrArg (fun q => (({ lineStart true tokens [] p with cursor := ⟨[], q⟩ }).unrollTo
      (-1)).dropPending) hplace
  rw [next, hskip, hdrop, ok_bind]
  simp only [hunroll]
  exact congrArg (· >>= fun t => Except.ok (t, true)) hfinish

/-- **The lines of a mapping that has begun are read** to the end of the
text. -/
theorem run_lines {lines : List Line} (h : ∀ l ∈ lines, l.IsReadable) (hp : p.column = 0)
    (hskip : s.skipBlanks = lineStart true tokens (lines.flatMap Line.chars) p) (fuel : Nat) :
    ∃ (tokens' : List Placed) (q : Place),
      run (3 * lines.length + fuel + 1) s = ⟨tokens', .ok q⟩
        ∧ kinds tokens' = kinds tokens ++ lines.flatMap Line.tokens ++ [.blockEnd] := by
  induction lines generalizing s p tokens with
  | nil =>
    have hend := next_end hp hskip
    refine ⟨tokens ++ [⟨.blockEnd, p, p⟩], p, ?_, by simp [kinds]⟩
    rw [run, hend]
    rfl
  | cons l lines ih =>
    obtain ⟨hl, hlines⟩ := List.forall_mem_cons.mp h
    obtain ⟨tokens', q, s', hq, hrun, hskip', htokens⟩ :=
      run_line hl (beginsToken_lines hlines) hp hskip (3 * lines.length + fuel + 1)
    obtain ⟨tokens'', q', hrun', htokens'⟩ := ih hlines hq hskip'
    refine ⟨tokens'', q', ?_, ?_⟩
    · rw [← hrun', ← hrun]
      congr 1
      rw [List.length_cons]
      omega
    · rw [htokens', htokens]
      simp

/-- **A mapping is read from the start of a text**, if there is a line. -/
theorem run_start {lines : List Line} (h : ∀ l ∈ lines, l.IsReadable) (hne : lines ≠ [])
    (fuel : Nat) :
    ∃ (tokens : List Placed) (q : Place),
      run (3 * lines.length + fuel + 1) (start (lines.flatMap Line.chars)) = ⟨tokens, .ok q⟩
        ∧ kinds tokens = .blockMappingStart :: lines.flatMap Line.tokens ++ [.blockEnd] := by
  obtain ⟨l, lines, rfl⟩ := List.exists_cons_of_ne_nil hne
  obtain ⟨hl, hlines⟩ := List.forall_mem_cons.mp h
  have hskip : (lineStart false [] ((l :: lines).flatMap Line.chars) .start).skipBlanks
      = lineStart false [] ((l :: lines).flatMap Line.chars) .start :=
    skipBlanks_lineStart (beginsToken_lines h)
  obtain ⟨tokens, q, s, hq, hrun, hskip', htokens⟩ :=
    run_line hl (beginsToken_lines hlines) rfl hskip (3 * lines.length + fuel + 1)
  obtain ⟨tokens', q', hrun', htokens'⟩ := run_lines hlines hq hskip' fuel
  refine ⟨tokens', q', ?_, by rw [htokens', htokens]; simp [kinds]⟩
  have hfuel : 3 * (l :: lines).length + fuel + 1 = 3 * lines.length + fuel + 1 + 3 := by
    rw [List.length_cons]
    omega
  rw [hfuel]
  exact hrun.trans hrun'

end Scan

/-- Nothing is refused in a text of characters that are allowed. -/
theorem forbiddenFrom?_eq_none {text : List Char} (h : ∀ c ∈ text, isAllowed c = true)
    (offset : Nat) : forbiddenFrom? offset text = none := by
  induction text generalizing offset with
  | nil => rfl
  | cons c text ih =>
    obtain ⟨hc, htext⟩ := List.forall_mem_cons.mp h
    rw [forbiddenFrom?, if_pos hc, ih htext]

/-- A text of characters that are allowed is read from its start, if no mark
of the octet order stands there. -/
theorem TokenStream.ofText_eq {text : List Char} (h : ∀ c ∈ text, isAllowed c = true)
    (hmark : text.head? ≠ some '\uFEFF') :
    ofText text = Scan.run (text.length + 1) (Scan.start text) := by
  unfold ofText
  simp only [forbiddenFrom?_eq_none h]
  split
  · exact absurd rfl hmark
  · rfl

/-- A printable character is allowed. -/
theorem IsPrintableAscii.isAllowed {c : Char} (h : IsPrintableAscii c) : isAllowed c = true := by
  obtain ⟨hlow, hhigh⟩ := h
  simp [Yaml.isAllowed, hlow, hhigh]

/-- The characters of a line are allowed. -/
theorem Line.IsReadable.isAllowed {l : Line} (h : l.IsReadable) :
    ∀ c ∈ l.chars, isAllowed c = true := by
  intro c hc
  simp only [chars, List.mem_append, List.mem_cons, List.not_mem_nil, or_false] at hc
  obtain (hc | rfl | rfl | hc) | rfl := hc
  · exact (h.isName.isPrintable c hc).isAllowed
  · rfl
  · rfl
  · exact (h.isPrintable c hc).isAllowed
  · rfl

/-- A line is no shorter than the steps that it is read in. -/
theorem three_mul_length_le (lines : List Line) :
    3 * lines.length ≤ (lines.flatMap Line.chars).length := by
  induction lines with
  | nil => exact Nat.le_refl 0
  | cons l lines ih =>
    rw [List.flatMap_cons, List.length_append, List.length_cons]
    have hline : 3 ≤ l.chars.length := by simp [Line.chars]; omega
    omega

/-- **The tokens of a mapping** are those of its lines, between its start and
its end. -/
theorem TokenStream.ofText_lines {lines : List Line} (h : ∀ l ∈ lines, l.IsReadable)
    (hne : lines ≠ []) :
    ∃ (tokens : List Placed) (q : Place),
      ofText (lines.flatMap Line.chars) = ⟨tokens, .ok q⟩
        ∧ kinds tokens = .blockMappingStart :: lines.flatMap Line.tokens ++ [.blockEnd] := by
  have hallowed : ∀ c ∈ lines.flatMap Line.chars, isAllowed c = true := by
    intro c hc
    obtain ⟨l, hl, hc⟩ := List.mem_flatMap.mp hc
    exact (h l hl).isAllowed c hc
  have hmark : (lines.flatMap Line.chars).head? ≠ some '\uFEFF' := fun hhead =>
    (beginsToken_lines h '\uFEFF' hhead).2.2 rfl
  obtain ⟨fuel, hfuel⟩ := Nat.exists_eq_add_of_le (three_mul_length_le lines)
  obtain ⟨tokens, q, hrun, htokens⟩ := Scan.run_start h hne fuel
  refine ⟨tokens, q, ?_, htokens⟩
  rw [ofText_eq hallowed hmark, hfuel, hrun]

/-! ## Events -/

/-- An event that is no alias, among events that may be. -/
def Event.lift {ref : Type} : Event Empty → Event ref
  | scalar s => .scalar s
  | sequenceStart tag => .sequenceStart tag
  | sequenceEnd => .sequenceEnd
  | mappingStart tag => .mappingStart tag
  | mappingEnd => .mappingEnd

/-- A part without a name that is no alias. -/
def Part.plain {ref : Type} (p : Event Empty × Place) : Part ref := ⟨p.1.lift, p.2, none⟩

/-- The events of the lines of a mapping, to its end. -/
def Line.events (lines : List Line) : List (Event Empty) :=
  lines.flatMap (fun l => l.scalars.map .scalar) ++ [.mappingEnd]

section Walk

variable {t : Placed} {rest : List Placed} {ending : Except Fault Place}
  {handles : List (String × List UInt8)}

/-- A scalar is a node. -/
theorem nodeThen_scalar {text : String} {style : Style} (ht : t.token = .scalar text style)
    (isBlock indentless : Bool) (goal : Goal) :
    nodeThen isBlock indentless goal ⟨⟨t :: rest, ending⟩, handles⟩
      = .ok (Part.plain (.scalar ⟨none, text, style⟩, t.start), [goal],
          ⟨⟨rest, ending⟩, handles⟩) := by
  obtain ⟨_, start, stop⟩ := t
  obtain rfl := ht
  rfl

/-- A key that is a scalar is read with its sign. -/
theorem Goal.step_blockKey {key : Placed} {text : String} {style : Style} (hkey : key.token = .key)
    (ht : t.token = .scalar text style) (opened : Place) :
    step ⟨⟨key :: t :: rest, ending⟩, handles⟩ (.blockKey opened)
      = .ok (Part.plain (.scalar ⟨none, text, style⟩, t.start), [.blockValue opened],
          ⟨⟨rest, ending⟩, handles⟩) := by
  rw [← nodeThen_scalar ht true true (.blockValue opened)]
  obtain ⟨_, start, stop⟩ := key
  obtain ⟨_, start', stop'⟩ := t
  obtain rfl := hkey
  obtain rfl := ht
  rfl

/-- A value that is a scalar is read with its sign. -/
theorem Goal.step_blockValue {value : Placed} {text : String} {style : Style}
    (hvalue : value.token = .value) (ht : t.token = .scalar text style) (opened : Place) :
    step ⟨⟨value :: t :: rest, ending⟩, handles⟩ (.blockValue opened)
      = .ok (Part.plain (.scalar ⟨none, text, style⟩, t.start), [.blockKey opened],
          ⟨⟨rest, ending⟩, handles⟩) := by
  rw [← nodeThen_scalar ht true true (.blockKey opened)]
  obtain ⟨_, start, stop⟩ := value
  obtain ⟨_, start', stop'⟩ := t
  obtain rfl := hvalue
  obtain rfl := ht
  rfl

/-- The end of what is indented ends a mapping. -/
theorem Goal.step_blockKey_end (ht : t.token = .blockEnd) (opened : Place) :
    step ⟨⟨t :: rest, ending⟩, handles⟩ (.blockKey opened)
      = .ok (Part.plain (.mappingEnd, t.start), [], ⟨⟨rest, ending⟩, handles⟩) := by
  obtain ⟨_, start, stop⟩ := t
  obtain rfl := ht
  rfl

/-- A step that reads an event is one of a walk. -/
theorem Walk.from_succ {goal : Goal} {s s' : Source} {part : Part String} {goals : List Goal}
    (h : goal.step s = .ok (part, goals, s')) (fuel : Nat) :
    Walk.from (fuel + 1) [goal] s
      = { Walk.from fuel goals s' with parts := part :: (Walk.from fuel goals s').parts } := by
  rw [Walk.from, h]
  simp only [List.append_nil]

/-- A walk ends where no goal is left. -/
theorem Walk.from_nil (fuel : Nat) (s : Source) : Walk.from fuel [] s = ⟨[], .ok s⟩ := by
  cases fuel <;> rfl

end Walk

/-- **The lines of a mapping are read** as their keys and values. -/
theorem Walk.from_lines {lines : List Line} {tokens : List Placed}
    (h : kinds tokens = lines.flatMap Line.tokens ++ [.blockEnd]) (ending : Except Fault Place)
    (handles : List (String × List UInt8)) (opened : Place) (fuel : Nat) :
    ∃ placed : List (Event Empty × Place), placed.map Prod.fst = Line.events lines
      ∧ Walk.from (2 * lines.length + fuel + 1) [.blockKey opened] ⟨⟨tokens, ending⟩, handles⟩
        = ⟨placed.map Part.plain, .ok ⟨⟨[], ending⟩, handles⟩⟩ := by
  induction lines generalizing tokens with
  | nil =>
    obtain ⟨t, rfl, ht⟩ := List.map_eq_singleton_iff.mp h
    refine ⟨[(.mappingEnd, t.start)], rfl, ?_⟩
    rw [from_succ (Goal.step_blockKey_end ht opened), from_nil]
    rfl
  | cons l lines ih =>
    obtain ⟨key, _, rfl, hkey, h⟩ := List.map_eq_cons_iff.mp h
    obtain ⟨name, _, rfl, hname, h⟩ := List.map_eq_cons_iff.mp h
    obtain ⟨value, _, rfl, hvalue, h⟩ := List.map_eq_cons_iff.mp h
    obtain ⟨text, tokens, rfl, htext, h⟩ := List.map_eq_cons_iff.mp h
    obtain ⟨placed, hplaced, hwalk⟩ := ih h
    refine ⟨(.scalar ⟨none, String.ofList l.key, .plain⟩, name.start)
      :: (.scalar ⟨none, String.ofList l.text, l.style⟩, text.start) :: placed, ?_, ?_⟩
    · rw [List.map_cons, List.map_cons, hplaced]
      rfl
    · have hfuel : 2 * (l :: lines).length + fuel + 1 = 2 * lines.length + fuel + 1 + 1 + 1 := by
        rw [List.length_cons]
        omega
      rw [hfuel, from_succ (Goal.step_blockKey hkey hname opened),
        from_succ (Goal.step_blockValue hvalue htext opened), hwalk]
      rfl

/-! ## Documents -/

namespace Document

/-- Parts without names that are no aliases are kept as they are. -/
theorem Resolved.add_plain {r : Resolved} (h : r.fault = none) (p : Event Empty × Place) :
    r.add (Part.plain p) = { r with parts := Part.plain p :: r.parts } := by
  obtain ⟨event, place⟩ := p
  have hfault : r.fault.isSome = false := by rw [h]; rfl
  cases event with
  | reference target => exact target.elim
  | _ => simp [add, give, Part.plain, Event.lift, hfault]

/-- **Parts without names that are no aliases are resolved** by leaving them as
they are. -/
theorem resolve_plain (placed : List (Event Empty × Place)) :
    resolve (placed.map Part.plain) = ⟨[], [], (placed.map Part.plain).reverse, none⟩ := by
  suffices hfold : ∀ parts, (placed.map Part.plain).foldl Resolved.add ⟨[], [], parts, none⟩
      = ⟨[], [], (placed.map Part.plain).reverse ++ parts, none⟩ by
    rw [resolve, hfold, List.append_nil]
  induction placed with
  | nil => exact fun parts => rfl
  | cons p placed ih =>
    intro parts
    rw [List.map_cons, List.foldl_cons, Resolved.add_plain rfl, ih]
    simp

/-- What is no alias stands for itself. -/
theorem target_plain (d : Document) (p : Event Empty × Place) :
    d.target (Part.plain p) = Part.plain p := by
  obtain ⟨event, place⟩ := p
  cases event with
  | reference target => exact target.elim
  | _ => rfl

/-- A walk that ends with the text makes a document that nothing follows. -/
theorem ofStart_eq {goal : Goal} {s : Source} {placed : List (Event Empty × Place)} {q : Place}
    {handles : List (String × List UInt8)}
    (h : Walk.from (16 * (s.stream.tokens.length + 1)) [goal] s
      = ⟨placed.map Part.plain, .ok ⟨⟨[], .ok q⟩, handles⟩⟩) :
    ofStart goal s = ⟨placed.map Part.plain, [], none, false⟩ := by
  rw [ofStart, h]
  simp only [resolve_plain, List.reverse_reverse]
  rfl

/-- **A text of lines is the document of one mapping.** -/
theorem first_lines {lines : List Line} (h : ∀ l ∈ lines, l.IsReadable) (hne : lines ≠ []) :
    ∃ (start : Place) (placed : List (Event Empty × Place)),
      placed.map Prod.fst = Line.events lines
        ∧ first (String.ofList (lines.flatMap Line.chars))
          = some ⟨Part.plain (.mappingStart none, start) :: placed.map Part.plain,
              [], none, false⟩ := by
  obtain ⟨tokens, q, hstream, htokens⟩ := TokenStream.ofText_lines h hne
  obtain ⟨⟨_, start, stop⟩, tokens, rfl, rfl, hbehind⟩ := List.map_eq_cons_iff.mp htokens
  have hlength : tokens.length = lines.length * 4 + 1 := by
    rw [← List.length_map (·.token), hbehind]
    simp [Line.tokens, List.map_const']
  obtain ⟨fuel, hfuel⟩ : ∃ fuel, 16 * (tokens.length + 1 + 1) = 2 * lines.length + fuel + 1 + 1 :=
    ⟨16 * (tokens.length + 1 + 1) - 2 * lines.length - 2, by omega⟩
  obtain ⟨placed, hplaced, hwalk⟩ := Walk.from_lines hbehind (.ok q) commonHandles start fuel
  have hroot : Goal.step ⟨⟨⟨.blockMappingStart, start, stop⟩ :: tokens, .ok q⟩, commonHandles⟩
      .bareRoot = .ok (Part.plain (.mappingStart none, start), [.blockKey start],
          ⟨⟨tokens, .ok q⟩, commonHandles⟩) := rfl
  refine ⟨start, placed, hplaced, ?_⟩
  rw [first, String.toList_ofList, hstream]
  have hdocument : Walk.from (16 * (tokens.length + 1 + 1)) [.bareRoot]
      ⟨⟨⟨.blockMappingStart, start, stop⟩ :: tokens, .ok q⟩, commonHandles⟩
        = ⟨((.mappingStart none, start) :: placed).map Part.plain,
          .ok ⟨⟨[], .ok q⟩, commonHandles⟩⟩ := by
    rw [hfuel, Walk.from_succ hroot, hwalk]
    rfl
  exact congrArg some (ofStart_eq
    (s := ⟨⟨⟨.blockMappingStart, start, stop⟩ :: tokens, .ok q⟩, commonHandles⟩) hdocument)

end Document

/-! ## Lines that are written -/

namespace Line

variable {key value : List Char}

/-- The line of a key with a text, which is written in the form for it. -/
def ofText (key value : List Char) : Line :=
  ⟨key, Printer.scalar value, value, Printer.styleOf value⟩

/-- The line of a key with a name. -/
def ofName (key value : List Char) : Line := ⟨key, value, value, .plain⟩

/-- **Whether a line is written so that it can be read.** Its key is a name. Its value
is words that no sign begins, or any printable characters between single quotes, where a
quote is written twice. -/
inductive IsWritten : Line → Prop where
  /-- Words. -/
  | words {key text : List Char} (hkey : IsName key) (hlength : key.length ≤ 1024)
    (htext : IsPhrase text) (hsign : Printer.beginsWithSign text = false) :
    IsWritten ⟨key, text, text, .plain⟩
  /-- A text between quotes. -/
  | quoted {key text : List Char} (hkey : IsName key) (hlength : key.length ≤ 1024)
    (htext : ∀ c ∈ text, IsPrintableAscii c) :
    IsWritten ⟨key, '\'' :: QuotedScalar.quoteTwice text ++ ['\''], text, .singleQuoted⟩

/-- **What is written so that it can be read is read.** -/
theorem IsWritten.isReadable {l : Line} (h : l.IsWritten) : l.IsReadable := by
  cases h with
  | words hkey hlength hvalue hsign =>
    exact ⟨hkey, hlength, hvalue.isPrintable, readsAs_plain hvalue hsign⟩
  | quoted hkey hlength hvalue =>
    have hquote : IsPrintableAscii '\'' := ⟨by decide, by decide⟩
    refine ⟨hkey, hlength, fun c hc => ?_, readsAs_singleQuoted hvalue⟩
    simp only [List.mem_append, List.mem_cons, List.not_mem_nil, or_false] at hc
    obtain (rfl | hc) | rfl := hc
    · exact hquote
    · obtain hc | rfl := QuotedScalar.mem_or_eq_of_mem_quoteTwice hc
      · exact hvalue c hc
      · exact hquote
    · exact hquote

/-- The line of a text is written, if its characters are printable. -/
theorem isWritten_ofText (hkey : IsName key) (hlength : key.length ≤ 1024)
    (h : ∀ c ∈ value, IsPrintableAscii c) : (ofText key value).IsWritten := by
  obtain ⟨hplain, hphrase, hsign⟩ | hquoted := Printer.styleOf_of_isPrintable h
  · rw [ofText, Printer.scalar, hplain]
    exact .words hkey hlength hphrase hsign
  · rw [ofText, Printer.scalar, hquoted]
    simp only [Printer.singleQuoted_eq h]
    exact .quoted hkey hlength h

/-- The line of a name is written. -/
theorem isWritten_ofName (hkey : IsName key) (hlength : key.length ≤ 1024) (h : IsName value) :
    (ofName key value).IsWritten :=
  .words hkey hlength h.isPhrase (by simpa using h.beginsWithSign_eq [])

/-- An entry of printable characters is a line. -/
theorem chars_ofText (key : List Char) (h : ∀ c ∈ value, IsPrintableAscii c) :
    (ofText key value).chars = Printer.entry key value := by
  have hstyle : (Printer.styleOf value == .literal) = false := by
    obtain ⟨hplain, -⟩ | hquoted := Printer.styleOf_of_isPrintable h
    · rw [hplain]; rfl
    · rw [hquoted]; rfl
  rw [Printer.entry, hstyle]
  simp [chars, ofText]

end Line

end GraphGateway.Yaml
