import GraphGateway.Proofs.Json.Layout

/-!
# Texts of the grammar are read

The reader gets from a text of the grammar to the place behind it, with a node
that says what the text says (`Grammar.readsAs_of_spells`). The proof is by
induction on the derivation. The items of an array behind the first, with the
bracket that closes it, are one text that is read by itself (`ClosesArray`), and
so are the members of an object (`ClosesObject`). Twice the number of octets is
always fuel enough, since of two calls of the reader one takes an octet.

Hence a document of the grammar is read without a fault
(`Grammar.read_of_spellsDocument`), and a written document as the value that was
written (`read_pretty`, `read_compact`).
-/

namespace GraphGateway.Json

open Grammar
open Text.Utf8 (octetsOf)

/-! ## Steps of the reader -/

/-- What is read behind an item or a member of a container. -/
def behindItem (fuel : Nat) (stop : Cursor) : List Item × Ending × Option Cursor :=
  readItems fuel stop.skipBlanks (stop.skipBlanks.peek? == some 0x5D) false

/-- **The first item of an array** is read where it starts. -/
theorem readItems_first {fuel : Nat} {c stop : Cursor} {b : UInt8} {value : Node}
    (hpeek : c.peek? = some b) (hvalue : readValue fuel c = (value, some stop)) :
    ∃ surplus, readItems (fuel + 1) c false true
      = (.mk value surplus :: (behindItem fuel stop).1, (behindItem fuel stop).2) := by
  refine ⟨surplusItem c, ?_⟩
  rw [readItems, hpeek]
  simp only [hvalue]
  rfl

/-- **Another item of an array** is read behind a comma. -/
theorem readItems_comma {fuel : Nat} {c place stop : Cursor} {b : UInt8} {value : Node}
    (hcomma : c.peek? = some 0x2C) (hplace : c.step.skipBlanks = place)
    (hpeek : place.peek? = some b) (hb : b ≠ 0x5D)
    (hvalue : readValue fuel place = (value, some stop)) :
    ∃ surplus, readItems (fuel + 1) c false false
      = (.mk value surplus :: (behindItem fuel stop).1, (behindItem fuel stop).2) := by
  refine ⟨surplusItem c, ?_⟩
  rw [readItems, hcomma, hplace]
  simp only [hpeek, hvalue, beq_eq_false_iff_ne.mpr hb]
  rfl

/-- **A member of an object** is read from its key on: the key, the colon,
and the value. -/
theorem readEntries_member {fuel : Nat} {c place behindKey colon stop : Cursor} {first : Bool}
    {key : Except Fault String} {value : Node} (hfirst : first = true → c = place)
    (hcomma : first = false → c.peek? = some 0x2C ∧ c.step.skipBlanks = place)
    (hquote : place.peek? = some 0x22)
    (hkey : StringLiteral.scan place.step = ⟨key, .ok behindKey⟩)
    (hcolon : behindKey.skipBlanks = colon) (hpeek : colon.peek? = some 0x3A)
    (hvalue : readValue fuel colon.step.skipBlanks = (value, some stop)) :
    ∃ keyStop repeated surplus, readEntries (fuel + 1) c first
      = (.mk key keyStop repeated value surplus :: (readEntries fuel stop.skipBlanks false).1,
        (readEntries fuel stop.skipBlanks false).2) := by
  refine ⟨behindKey.offset, repeatedPlace colon, surplusMember stop.skipBlanks, ?_⟩
  cases first with
  | true =>
    obtain rfl := hfirst rfl
    rw [readEntries, hquote]
    simp only [hkey, hcolon, hpeek, hvalue]
    rfl
  | false =>
    obtain ⟨hc, hplace⟩ := hcomma rfl
    rw [readEntries, hc]
    simp only [hplace, hquote, hkey, hcolon, hpeek, hvalue]
    rfl

/-- **An array** is read behind its bracket. -/
theorem readValue_array (fuel : Nat) {c first : Cursor} {done : Bool} (hopen : c.peek? = some 0x5B)
    (hfirst : c.step.skipBlanks = first) (hdone : (first.peek? == some 0x5D) = done) :
    readValue (fuel + 1) c
      = (.array c.offset (readItems fuel first done true).1 (readItems fuel first done true).2.1,
        (readItems fuel first done true).2.2) := by
  have hscalar : readScalar? 0x5B c = none := rfl
  rw [readValue, hopen]
  simp only [hscalar, hfirst, hdone]
  rfl

/-- **An object** is read behind its brace. -/
theorem readValue_object (fuel : Nat) {c first : Cursor} (hopen : c.peek? = some 0x7B)
    (hfirst : c.step.skipBlanks = first) :
    readValue (fuel + 1) c
      = (.object c.offset (readEntries fuel first true).1 (readEntries fuel first true).2.1
          (namelessFault first),
        (readEntries fuel first true).2.2) := by
  have hscalar : readScalar? 0x7B c = none := rfl
  rw [readValue, hopen]
  simp only [hscalar, hfirst]
  rfl

/-! ## Between the tokens -/

/-- Blanks are skipped up to the next token. -/
theorem skipFrom_blanks {blanks : List UInt8} (h : Blanks blanks) (offset : Nat) (b : UInt8)
    (rest : List UInt8) (hb : Cursor.isBlankOctet b = false) :
    Cursor.skipFrom offset (blanks ++ b :: rest) = ⟨offset + blanks.length, b :: rest⟩ := by
  induction blanks generalizing offset with
  | nil =>
    rw [List.nil_append, Cursor.skipFrom, if_neg (by simp [hb])]
    rfl
  | cons blank blanks ih =>
    rw [List.cons_append, Cursor.skipFrom, if_pos (h blank (List.mem_cons_self ..)),
      ih fun x hx => h x (List.mem_cons_of_mem _ hx), List.length_cons, Nat.add_assoc,
      Nat.add_comm 1]

/-- Blanks are skipped up to the end of the text. -/
theorem skipFrom_eq_end {blanks : List UInt8} (h : Blanks blanks) (offset : Nat) :
    Cursor.skipFrom offset blanks = ⟨offset + blanks.length, []⟩ := by
  induction blanks generalizing offset with
  | nil => rfl
  | cons blank blanks ih =>
    rw [Cursor.skipFrom, if_pos (h blank (List.mem_cons_self ..)),
      ih fun x hx => h x (List.mem_cons_of_mem _ hx), List.length_cons, Nat.add_assoc,
      Nat.add_comm 1]

/-- A blank does not go on with a numeral. -/
theorem endsNumeral_of_blank {b : UInt8} (h : Cursor.isBlankOctet b = true) (rest : List UInt8) :
    EndsNumeral (b :: rest) := by
  intro first hfirst
  rw [← Option.some.inj hfirst]
  simp only [Cursor.isBlankOctet, Bool.or_eq_true, beq_iff_eq] at h
  rcases h with ((rfl | rfl) | rfl) | rfl <;> decide

/-- Blanks with a token behind them do not go on with a numeral if the token
does not. -/
theorem endsNumeral_append {blanks rest : List UInt8} (h : Blanks blanks)
    (hrest : EndsNumeral rest) : EndsNumeral (blanks ++ rest) := by
  cases blanks with
  | nil => exact hrest
  | cons b blanks => exact endsNumeral_of_blank (h b (List.mem_cons_self ..)) _

/-- **How a value or a member starts**: neither with a blank nor with a
bracket that closes an array. -/
def StartsValue (octets : List UInt8) : Prop :=
  ∃ b rest, octets = b :: rest ∧ Cursor.isBlankOctet b = false ∧ b ≠ 0x5D

/-- Blanks are skipped before a value. -/
theorem skipFrom_startsValue {blanks text : List UInt8} (hblanks : Blanks blanks)
    (htext : StartsValue text) (offset : Nat) (rest : List UInt8) :
    Cursor.skipFrom offset (blanks ++ (text ++ rest)) = ⟨offset + blanks.length, text ++ rest⟩ := by
  obtain ⟨b, more, rfl, hb, -⟩ := htext
  exact skipFrom_blanks hblanks offset b (more ++ rest) hb

/-- Blanks in a container are skipped up to the next token. -/
theorem skipBlanks_gap {gap : List UInt8} (hgap : Blanks gap) {b : UInt8}
    (hb : Cursor.isBlankOctet b = false) (offset : Nat) (more rest : List UInt8) :
    Cursor.skipBlanks ⟨offset, gap ++ b :: more ++ rest⟩
      = ⟨offset + gap.length, b :: (more ++ rest)⟩ := by
  rw [List.append_assoc]
  exact skipFrom_blanks hgap offset b (more ++ rest) hb

/-- Blanks in a container are skipped up to its first value or member. -/
theorem skipBlanks_startsValue {gap text : List UInt8} (hgap : Blanks gap)
    (htext : StartsValue text) (offset : Nat) (tail rest : List UInt8) :
    Cursor.skipBlanks ⟨offset, gap ++ (text ++ tail) ++ rest⟩
      = ⟨offset + gap.length, text ++ (tail ++ rest)⟩ := by
  rw [List.append_assoc, List.append_assoc]
  exact skipFrom_startsValue hgap htext offset (tail ++ rest)

/-- What stands behind a value in a container does not go on with a numeral. -/
theorem endsNumeral_gap {gap : List UInt8} (hgap : Blanks gap) {b : UInt8}
    (hb : b ∈ [0x2C, 0x5D, 0x7D]) (more rest : List UInt8) :
    EndsNumeral (gap ++ b :: more ++ rest) := by
  rw [List.mem_cons, List.mem_cons, List.mem_singleton] at hb
  rw [List.append_assoc]
  refine endsNumeral_append hgap fun first hfirst => ?_
  rw [← Option.some.inj hfirst]
  rcases hb with rfl | rfl | rfl <;> decide

/-- A key starts with its quote. -/
theorem startsValue_of_spellsKey {key : Option String} {text rest : List UInt8}
    (h : SpellsKey key text) : StartsValue (text ++ rest) := by
  cases h with
  | mk => exact ⟨0x22, _, rfl, by decide, by decide⟩

/-- A sign or a digit is no other octet. -/
theorem ne_of_isNumeral {b : UInt8} (h : b = 0x2D ∨ isDigit b = true) (other : UInt8)
    (hother : (other == 0x2D || isDigit other) = false) : b ≠ other := by
  rintro rfl
  rw [Bool.or_eq_false_iff, beq_eq_false_iff_ne] at hother
  rcases h with h | h
  · exact hother.1 h
  · exact Bool.false_ne_true (hother.2.symm.trans h)

/-- Every text of an outline starts a value. -/
theorem startsValue_of_spells {o : Outline} {text : List UInt8} (h : Spells o text) :
    StartsValue text := by
  cases h with
  | token h =>
    cases h with
    | nullWord | trueWord | falseWord => exact ⟨_, _, rfl, by decide, by decide⟩
    | number h =>
      obtain ⟨b, rest, rfl, hb⟩ := h.exists_cons
      have hne := ne_of_isNumeral hb
      refine ⟨b, rest, rfl, ?_, hne 0x5D (by decide)⟩
      simp [Cursor.isBlankOctet, hne 0x20 (by decide), hne 0x09 (by decide), hne 0x0A (by decide),
        hne 0x0D (by decide)]
    | string h =>
      have hstarts : StartsValue (text ++ []) := startsValue_of_spellsKey h
      rwa [List.append_nil] at hstarts
  | emptyArray | array => exact ⟨0x5B, _, rfl, by decide, by decide⟩
  | emptyObject | object => exact ⟨0x7B, _, rfl, by decide, by decide⟩

/-! ## Tokens -/

/-- A word is read back. -/
theorem readNamed_encode (word : String) (value : Scalar) (offset : Nat) (rest : List UInt8) :
    readNamed ⟨offset, octetsOf word.toList ++ rest⟩ word value
      = (.scalar value offset (offset + (octetsOf word.toList).length),
        some ⟨offset + (octetsOf word.toList).length, rest⟩) := by
  have hword : ∀ octets offset, readWord ⟨offset, octets ++ rest⟩ octets
      = .ok ⟨offset + octets.length, rest⟩ := by
    intro octets
    induction octets with
    | nil => exact fun _ => rfl
    | cons b octets ih =>
      intro offset
      rw [List.cons_append, readWord]
      simp only [beq_self_eq_true, if_true, ih, List.length_cons, Nat.add_assoc, Nat.add_comm 1]
  have hencode : Text.Utf8.encode word = octetsOf word.toList := by
    rw [← Text.Utf8.encode_ofList, String.ofList_toList]
  rw [readNamed, hencode, hword]

/-- **A number is read**, if it is not too large. -/
theorem readNumber_append {text rest : List UInt8} (h : IsNumeral text) (hrest : EndsNumeral rest)
    (offset : Nat) :
    ∃ node, readNumber ⟨offset, text ++ rest⟩ = (node, some ⟨offset + text.length, rest⟩)
      ∧ node.outline? = some (.ofNumber? (Numeral.numberOf? text)) := by
  obtain ⟨numeral, hscan, hstop, hvalue⟩ := Numeral.scan_append h hrest offset
  rw [readNumber, hscan]
  simp only [← hvalue, hstop]
  cases numeral.value with
  | ok n => exact ⟨_, rfl, rfl⟩
  | error fault => exact ⟨_, rfl, rfl⟩

/-- **A key is read**, if it is Unicode. -/
theorem scan_of_spellsKey {key : Option String} {text : List UInt8} (h : SpellsKey key text)
    (offset : Nat) (rest : List UInt8) :
    ∃ read, StringLiteral.scan (Cursor.step ⟨offset, text ++ rest⟩)
        = ⟨read, .ok ⟨offset + text.length, rest⟩⟩
      ∧ read.toOption = key := by
  cases h with
  | @mk characters h =>
    obtain ⟨hnext, htext⟩ := StringLiteral.scan_characters h (offset + 1) rest
    refine ⟨_, ?_, htext⟩
    have hstep : Cursor.step ⟨offset, 0x22 :: (characters ++ [0x22]) ++ rest⟩
        = ⟨offset + 1, characters ++ 0x22 :: rest⟩ := by
      rw [List.cons_append, List.append_assoc]
      rfl
    have hlength : offset + (0x22 :: (characters ++ [0x22])).length
        = offset + 1 + characters.length + 1 := by
      rw [List.length_cons, List.length_append, List.length_singleton]
      omega
    rw [hstep, hlength, ← hnext]

/-- **A string is read**, if it is Unicode. -/
theorem readString_append {key : Option String} {text : List UInt8} (h : SpellsKey key text)
    (offset : Nat) (rest : List UInt8) :
    ∃ node, readString ⟨offset, text ++ rest⟩ = (node, some ⟨offset + text.length, rest⟩)
      ∧ node.outline? = some (.ofText? key) := by
  obtain ⟨read, hscan, rfl⟩ := scan_of_spellsKey h offset rest
  rw [readString, hscan]
  cases read with
  | ok s => exact ⟨_, rfl, rfl⟩
  | error fault => exact ⟨_, rfl, rfl⟩

/-- **A token is read** from its first octet on. -/
theorem readScalar?_of_spellsToken {o : Outline} {text rest : List UInt8} (h : SpellsToken o text)
    (hrest : EndsNumeral rest) (offset : Nat) :
    ∃ b more node, text = b :: more
      ∧ readScalar? b ⟨offset, text ++ rest⟩ = some (node, some ⟨offset + text.length, rest⟩)
      ∧ node.outline? = some o := by
  cases h with
  | nullWord =>
    exact ⟨_, _, _, rfl, congrArg some (readNamed_encode "null" .null offset rest), rfl⟩
  | trueWord =>
    exact ⟨_, _, _, rfl, congrArg some (readNamed_encode "true" (.bool true) offset rest), rfl⟩
  | falseWord =>
    exact ⟨_, _, _, rfl, congrArg some (readNamed_encode "false" (.bool false) offset rest), rfl⟩
  | number h =>
    obtain ⟨node, hread, hnode⟩ := readNumber_append h hrest offset
    obtain ⟨b, more, rfl, hb⟩ := h.exists_cons
    refine ⟨b, more, node, rfl, ?_, hnode⟩
    have hne := ne_of_isNumeral hb
    have hdigit : (b == 0x2D || isDigit b) = true := by simpa using hb
    rw [readScalar?, hdigit]
    simp only [beq_iff_eq, hne 0x6E (by decide), hne 0x74 (by decide), hne 0x66 (by decide)]
    exact congrArg some hread
  | string h =>
    obtain ⟨node, hread, hnode⟩ := readString_append h offset rest
    cases h with
    | mk => exact ⟨_, _, node, rfl, congrArg some hread, hnode⟩

/-! ## Texts that are read -/

/-- **Some octets are read as what they say**, wherever they stand and whatever
stands behind them, if it does not go on with a numeral. -/
def ReadsAs (text : List UInt8) (o : Outline) : Prop :=
  ∀ fuel offset rest, EndsNumeral rest → 2 * text.length ≤ fuel →
    ∃ node, readValue fuel ⟨offset, text ++ rest⟩ = (node, some ⟨offset + text.length, rest⟩)
      ∧ node.outline? = some o

/-- **Some octets are read as the rest of an array**, behind an item. -/
def ClosesArray (text : List UInt8) (items : List Outline) : Prop :=
  (∀ rest, EndsNumeral (text ++ rest))
    ∧ ∀ fuel offset rest, 2 * text.length ≤ fuel →
      ∃ nodes stop, behindItem fuel ⟨offset, text ++ rest⟩
          = (nodes, .closed stop, some ⟨offset + text.length, rest⟩)
        ∧ itemOutlines? nodes = some items

/-- **Some octets are read as the rest of an object**, behind a member. -/
def ClosesObject (text : List UInt8) (members : List (Option String × Outline)) : Prop :=
  (∀ rest, EndsNumeral (text ++ rest))
    ∧ ∀ fuel offset rest, 2 * text.length ≤ fuel →
      ∃ entries stop,
        readEntries fuel (Cursor.skipBlanks ⟨offset, text ++ rest⟩) false
          = (entries, .closed stop, some ⟨offset + text.length, rest⟩)
        ∧ entryOutlines? entries = some members

/-- **A member is read** where its key stands, before the rest of its object. -/
def ReadsMember (text : List UInt8) (member : Option String × Outline) : Prop :=
  StartsValue text
    ∧ ∀ {tail members}, ClosesObject tail members → ∀ fuel {offset rest},
      2 * (text.length + tail.length) ≤ fuel + 2 → ∀ (c : Cursor) (first : Bool),
      (first = true → c = ⟨offset, text ++ (tail ++ rest)⟩) →
      (first = false → c.peek? = some 0x2C
        ∧ c.step.skipBlanks = ⟨offset, text ++ (tail ++ rest)⟩) →
      ∃ entries stop, readEntries (fuel + 1) c first
          = (entries, .closed stop, some ⟨offset + text.length + tail.length, rest⟩)
        ∧ entryOutlines? entries = some (member :: members)

/-- A token is read. -/
theorem readsAs_of_spellsToken {o : Outline} {text : List UInt8} (h : SpellsToken o text) :
    ReadsAs text o := by
  intro fuel offset rest hrest hfuel
  obtain ⟨b, more, node, htext, hread, hnode⟩ := readScalar?_of_spellsToken h hrest offset
  obtain ⟨fuel, rfl⟩ : ∃ f, fuel = f + 1 :=
    Nat.exists_eq_add_one.mpr (by rw [htext, List.length_cons] at hfuel; omega)
  refine ⟨node, ?_, hnode⟩
  have hpeek : Cursor.peek? ⟨offset, text ++ rest⟩ = some b := by
    rw [htext]
    rfl
  rw [readValue, hpeek]
  simp only [hread]

/-- An empty array is read. -/
theorem readsAs_emptyArray {gap : List UInt8} (hgap : Blanks gap) :
    ReadsAs (0x5B :: (gap ++ [0x5D])) (.array []) := by
  intro fuel offset rest _ hfuel
  obtain ⟨fuel, rfl⟩ : ∃ f, fuel = f + 2 :=
    ⟨fuel - 2, by rw [List.length_cons, List.length_append] at hfuel; omega⟩
  have hopen := readValue_array (fuel + 1)
    (c := ⟨offset, 0x5B :: (gap ++ [0x5D] ++ rest)⟩) rfl
    (skipBlanks_gap hgap (by decide) (offset + 1) [] rest) rfl
  have hoffset : offset + (0x5B :: (gap ++ [0x5D])).length = offset + 1 + gap.length + 1 := by
    rw [List.length_cons, List.length_append, List.length_singleton]
    omega
  rw [hoffset]
  exact ⟨_, hopen, rfl⟩

/-- An array is closed by its bracket. -/
theorem closesArray_nil {gap : List UInt8} (hgap : Blanks gap) :
    ClosesArray (gap ++ [0x5D]) [] := by
  refine ⟨fun rest => endsNumeral_gap hgap (by decide) [] rest, fun fuel offset rest hfuel => ?_⟩
  · obtain ⟨fuel, rfl⟩ : ∃ f, fuel = f + 1 := Nat.exists_eq_add_one.mpr (by simp at hfuel; omega)
    refine ⟨[], offset + gap.length + 1, ?_, rfl⟩
    rw [behindItem, skipBlanks_gap hgap (by decide) offset [] rest, List.length_append,
      ← Nat.add_assoc]
    rfl

/-- **An array goes on** with a comma and an item. -/
theorem closesArray_cons {gap gap' text tail : List UInt8} {o : Outline} {items : List Outline}
    (hgap : Blanks gap) (hgap' : Blanks gap') (hstarts : StartsValue text) (ho : ReadsAs text o)
    (htail : ClosesArray tail items) :
    ClosesArray (gap ++ 0x2C :: (gap' ++ (text ++ tail))) (o :: items) := by
  refine ⟨fun rest => endsNumeral_gap hgap (by decide) _ rest, fun fuel offset rest hfuel => ?_⟩
  simp only [List.length_append, List.length_cons] at hfuel ⊢
  obtain ⟨fuel, rfl⟩ : ∃ f, fuel = f + 1 := Nat.exists_eq_add_one.mpr (by omega)
  -- the item is read behind the comma, and the tail behind the item
  obtain ⟨node, hread, hnode⟩ :=
    ho fuel (offset + gap.length + 1 + gap'.length) (tail ++ rest) (htail.1 rest) (by omega)
  obtain ⟨nodes, stop, hitems, hnodes⟩ :=
    htail.2 fuel (offset + gap.length + 1 + gap'.length + text.length) rest (by omega)
  have hcomma : Cursor.skipBlanks ⟨offset, gap ++ 0x2C :: (gap' ++ (text ++ tail)) ++ rest⟩
      = ⟨offset + gap.length, 0x2C :: (gap' ++ (text ++ (tail ++ rest)))⟩ := by
    rw [skipBlanks_gap hgap (by decide), List.append_assoc, List.append_assoc]
  have hplace := skipFrom_startsValue hgap' hstarts (offset + gap.length + 1) (tail ++ rest)
  obtain ⟨b, more, htext, -, hb⟩ := hstarts
  obtain ⟨surplus, hmore⟩ := readItems_comma
    (c := ⟨offset + gap.length, 0x2C :: (gap' ++ (text ++ (tail ++ rest)))⟩) rfl hplace
    (by rw [htext]; rfl) hb hread
  refine ⟨.mk node surplus :: nodes, stop, ?_, ?_⟩
  · have hoffset : offset + (gap.length + (gap'.length + (text.length + tail.length) + 1))
        = offset + gap.length + 1 + gap'.length + text.length + tail.length := by omega
    rw [hitems] at hmore
    rw [behindItem, hcomma, hoffset]
    exact hmore
  · rw [itemOutlines?, hnode, hnodes]

/-- **An array** is read from its first item on. -/
theorem readsAs_array {gap text tail : List UInt8} {o : Outline} {items : List Outline}
    (hgap : Blanks gap) (hstarts : StartsValue text) (ho : ReadsAs text o)
    (htail : ClosesArray tail items) :
    ReadsAs (0x5B :: (gap ++ (text ++ tail))) (.array (o :: items)) := by
  intro fuel offset rest _ hfuel
  simp only [List.length_cons, List.length_append] at hfuel ⊢
  -- the bracket and the first item take one call of the reader each
  obtain ⟨fuel, rfl⟩ : ∃ f, fuel = f + 2 := ⟨fuel - 2, by omega⟩
  obtain ⟨node, hread, hnode⟩ :=
    ho fuel (offset + 1 + gap.length) (tail ++ rest) (htail.1 rest) (by omega)
  obtain ⟨nodes, stop, hitems, hnodes⟩ :=
    htail.2 fuel (offset + 1 + gap.length + text.length) rest (by omega)
  have hplace := skipBlanks_startsValue hgap hstarts (offset + 1) tail rest
  obtain ⟨b, more, htext, -, hb⟩ := hstarts
  have hpeek : Cursor.peek? ⟨offset + 1 + gap.length, text ++ (tail ++ rest)⟩ = some b := by
    rw [htext]
    rfl
  obtain ⟨surplus, hfirst⟩ := readItems_first hpeek hread
  rw [hitems] at hfirst
  have hopen := readValue_array (fuel + 1)
    (c := ⟨offset, 0x5B :: (gap ++ (text ++ tail) ++ rest)⟩) rfl hplace
    (show (_ == some (0x5D : UInt8)) = false by rw [hpeek]; simpa using hb)
  have hoffset : offset + (gap.length + (text.length + tail.length) + 1)
      = offset + 1 + gap.length + text.length + tail.length := by omega
  refine ⟨.array offset (.mk node surplus :: nodes) (.closed stop), ?_, ?_⟩
  · rw [hfirst] at hopen
    rw [hoffset]
    exact hopen
  · rw [Node.outline?, itemOutlines?, hnode, hnodes]
    rfl

/-- An empty object is read. -/
theorem readsAs_emptyObject {gap : List UInt8} (hgap : Blanks gap) :
    ReadsAs (0x7B :: (gap ++ [0x7D])) (.object []) := by
  intro fuel offset rest _ hfuel
  obtain ⟨fuel, rfl⟩ : ∃ f, fuel = f + 2 :=
    ⟨fuel - 2, by rw [List.length_cons, List.length_append] at hfuel; omega⟩
  have hopen := readValue_object (fuel + 1)
    (c := ⟨offset, 0x7B :: (gap ++ [0x7D] ++ rest)⟩) rfl
    (skipBlanks_gap hgap (by decide) (offset + 1) [] rest)
  have hoffset : offset + (0x7B :: (gap ++ [0x7D])).length = offset + 1 + gap.length + 1 := by
    rw [List.length_cons, List.length_append, List.length_singleton]
    omega
  rw [hoffset]
  exact ⟨_, hopen, rfl⟩

/-- An object is closed by its brace. -/
theorem closesObject_nil {gap : List UInt8} (hgap : Blanks gap) :
    ClosesObject (gap ++ [0x7D]) [] := by
  refine ⟨fun rest => endsNumeral_gap hgap (by decide) [] rest, fun fuel offset rest hfuel => ?_⟩
  · obtain ⟨fuel, rfl⟩ : ∃ f, fuel = f + 1 := Nat.exists_eq_add_one.mpr (by simp at hfuel; omega)
    refine ⟨[], offset + gap.length + 1, ?_, rfl⟩
    rw [skipBlanks_gap hgap (by decide) offset [] rest, List.length_append, ← Nat.add_assoc]
    rfl

/-- **A member is read** from its key on, if its value is. -/
theorem readsMember_mk {key : Option String} {o : Outline} {name gap gap' text : List UInt8}
    (hname : SpellsKey key name) (hgap : Blanks gap) (hgap' : Blanks gap')
    (hstarts : StartsValue text) (ho : ReadsAs text o) :
    ReadsMember (name ++ (gap ++ 0x3A :: (gap' ++ text))) (key, o) := by
  refine ⟨startsValue_of_spellsKey hname, fun {tail members} htail fuel {offset rest} hfuel c first
    hfirst hcomma => ?_⟩
  simp only [List.length_append, List.length_cons] at hfuel ⊢
  -- the key is read first, whatever stands behind its quote
  have hplace : (⟨offset, name ++ (gap ++ 0x3A :: (gap' ++ text)) ++ (tail ++ rest)⟩ : Cursor)
      = ⟨offset, name ++ (gap ++ 0x3A :: (gap' ++ (text ++ (tail ++ rest))))⟩ := by
    simp only [List.append_assoc, List.cons_append]
  rw [hplace] at hfirst hcomma
  obtain ⟨read, hkey, hread⟩ :=
    scan_of_spellsKey hname offset (gap ++ 0x3A :: (gap' ++ (text ++ (tail ++ rest))))
  have hquote : Cursor.peek? ⟨offset, name ++ (gap ++ 0x3A :: (gap' ++ (text ++ (tail ++ rest))))⟩
      = some 0x22 := by
    cases hname with
    | mk => rfl
  have hcolon := skipFrom_blanks hgap (offset + name.length) 0x3A
    (gap' ++ (text ++ (tail ++ rest))) (by decide)
  -- then the value behind the colon, and the tail behind the value
  obtain ⟨node, hvalue, hnode⟩ := ho fuel (offset + name.length + gap.length + 1 + gap'.length)
    (tail ++ rest) (htail.1 rest) (by omega)
  obtain ⟨entries, stop, hentries, hmembers⟩ := htail.2 fuel
    (offset + name.length + gap.length + 1 + gap'.length + text.length) rest (by omega)
  obtain ⟨keyStop, repeated, surplus, hmember⟩ :=
    readEntries_member hfirst hcomma hquote hkey hcolon rfl
      ((congrArg (readValue fuel) (skipFrom_startsValue hgap' hstarts _ _)).trans hvalue)
  have hoffset : offset + (name.length + (gap.length + (gap'.length + text.length + 1)))
        + tail.length
      = offset + name.length + gap.length + 1 + gap'.length + text.length + tail.length := by omega
  refine ⟨.mk read keyStop repeated node surplus :: entries, stop, ?_, ?_⟩
  · rw [hentries] at hmember
    rw [hoffset]
    exact hmember
  · rw [entryOutlines?, hnode, hmembers, hread]

/-- **An object goes on** with a comma and a member. -/
theorem closesObject_cons {gap gap' text tail : List UInt8} {member : Option String × Outline}
    {members : List (Option String × Outline)} (hgap : Blanks gap) (hgap' : Blanks gap')
    (hmember : ReadsMember text member) (htail : ClosesObject tail members) :
    ClosesObject (gap ++ 0x2C :: (gap' ++ (text ++ tail))) (member :: members) := by
  refine ⟨fun rest => endsNumeral_gap hgap (by decide) _ rest, fun fuel offset rest hfuel => ?_⟩
  simp only [List.length_append, List.length_cons] at hfuel ⊢
  obtain ⟨fuel, rfl⟩ : ∃ f, fuel = f + 1 := Nat.exists_eq_add_one.mpr (by omega)
  have hcomma : Cursor.skipBlanks ⟨offset, gap ++ 0x2C :: (gap' ++ (text ++ tail)) ++ rest⟩
      = ⟨offset + gap.length, 0x2C :: (gap' ++ (text ++ (tail ++ rest)))⟩ := by
    rw [skipBlanks_gap hgap (by decide), List.append_assoc, List.append_assoc]
  have hplace := skipFrom_startsValue hgap' hmember.1 (offset + gap.length + 1) (tail ++ rest)
  obtain ⟨entries, stop, hread, hentries⟩ := hmember.2 htail fuel (by omega)
    ⟨offset + gap.length, 0x2C :: (gap' ++ (text ++ (tail ++ rest)))⟩ false
    (fun h => absurd h Bool.false_ne_true) (fun _ => ⟨rfl, hplace⟩)
  have hoffset : offset + (gap.length + (gap'.length + (text.length + tail.length) + 1))
      = offset + gap.length + 1 + gap'.length + text.length + tail.length := by omega
  rw [hcomma, hoffset]
  exact ⟨entries, stop, hread, hentries⟩

/-- **An object** is read from its first member on. -/
theorem readsAs_object {gap text tail : List UInt8} {member : Option String × Outline}
    {members : List (Option String × Outline)} (hgap : Blanks gap)
    (hmember : ReadsMember text member) (htail : ClosesObject tail members) :
    ReadsAs (0x7B :: (gap ++ (text ++ tail))) (.object (member :: members)) := by
  intro fuel offset rest _ hfuel
  simp only [List.length_cons, List.length_append] at hfuel ⊢
  obtain ⟨fuel, rfl⟩ : ∃ f, fuel = f + 2 := ⟨fuel - 2, by omega⟩
  have hplace := skipBlanks_startsValue hgap hmember.1 (offset + 1) tail rest
  obtain ⟨entries, stop, hread, hentries⟩ := hmember.2 htail fuel (by omega)
    ⟨offset + 1 + gap.length, text ++ (tail ++ rest)⟩ true
    (fun _ => rfl) (fun h => absurd h.symm Bool.false_ne_true)
  have hopen := readValue_object (fuel + 1)
    (c := ⟨offset, 0x7B :: (gap ++ (text ++ tail) ++ rest)⟩) rfl hplace
  have hoffset : offset + (gap.length + (text.length + tail.length) + 1)
      = offset + 1 + gap.length + text.length + tail.length := by omega
  rw [hread] at hopen
  rw [hoffset]
  refine ⟨_, hopen, ?_⟩
  rw [Node.outline?, hentries]
  rfl

/-! ## Documents -/

namespace Grammar

mutual

/-- **A text is read as what it says.** -/
theorem readsAs_of_spells : {o : Outline} → {text : List UInt8} → Spells o text → ReadsAs text o
  | _, _, .token h => readsAs_of_spellsToken h
  | _, _, .emptyArray hgap => readsAs_emptyArray hgap
  | _, _, .array hgap hitem htail =>
    readsAs_array hgap (startsValue_of_spells hitem) (readsAs_of_spells hitem)
      (closesArray_of_spellsItems htail)
  | _, _, .emptyObject hgap => readsAs_emptyObject hgap
  | _, _, .object hgap hmember htail =>
    readsAs_object hgap (readsMember_of_spellsMember hmember) (closesObject_of_spellsMembers htail)

/-- The rest of an array is read as its items. -/
theorem closesArray_of_spellsItems : {items : List Outline} → {text : List UInt8} →
    SpellsItems items text → ClosesArray text items
  | _, _, .close hgap => closesArray_nil hgap
  | _, _, .item hgap hgap' hitem htail =>
    closesArray_cons hgap hgap' (startsValue_of_spells hitem) (readsAs_of_spells hitem)
      (closesArray_of_spellsItems htail)

/-- A member is read as what it says. -/
theorem readsMember_of_spellsMember : {member : Option String × Outline} → {text : List UInt8} →
    SpellsMember member text → ReadsMember text member
  | _, _, .mk hname hgap hgap' hvalue =>
    readsMember_mk hname hgap hgap' (startsValue_of_spells hvalue) (readsAs_of_spells hvalue)

/-- The rest of an object is read as its members. -/
theorem closesObject_of_spellsMembers : {members : List (Option String × Outline)} →
    {text : List UInt8} → SpellsMembers members text → ClosesObject text members
  | _, _, .close hgap => closesObject_nil hgap
  | _, _, .member hgap hgap' hmember htail =>
    closesObject_cons hgap hgap' (readsMember_of_spellsMember hmember)
      (closesObject_of_spellsMembers htail)

end

/-- **A document of the grammar is read without a fault**, as what it says. -/
theorem read_of_spellsDocument {o : Outline} {text : List UInt8} (h : SpellsDocument o text) :
    ∃ node, Document.read text = ⟨node, none⟩ ∧ node.outline? = some o := by
  cases h with
  | @mk before text behind hbefore htext hbehind =>
    have hends : EndsNumeral behind := by
      rw [← List.append_nil behind]
      exact endsNumeral_append hbehind endsNumeral_nil
    obtain ⟨node, hread, hnode⟩ := readsAs_of_spells htext
      (2 * (before ++ (text ++ behind)).length + 2) before.length behind hends
      (by simp only [List.length_append]; omega)
    have hstart : (Cursor.start (before ++ (text ++ behind))).skipBlanks
        = ⟨before.length, text ++ behind⟩ := by
      have hskip := skipFrom_startsValue hbefore (startsValue_of_spells htext) 0 behind
      rwa [Nat.zero_add] at hskip
    refine ⟨node, ?_, hnode⟩
    rw [Document.read, hstart, hread]
    simp only [Option.bind_some, Cursor.skipBlanks, skipFrom_eq_end hbehind]
    rfl

end Grammar

/-! ## Written documents -/

/-- **A document that says what a value says** is read as the value. -/
theorem read_of_spellsDocument_outline {v : Json} {text : List UInt8}
    (h : SpellsDocument v.outline text) :
    ∃ node, Document.read text = ⟨node, none⟩ ∧ node.value? = some v := by
  obtain ⟨node, hread, hnode⟩ := read_of_spellsDocument h
  exact ⟨node, hread, Node.value?_of_outline? v hnode⟩

/-- **A value written over several lines is read back.** -/
theorem read_pretty {v : Json} (h : v.isWhole = true) :
    ∃ node, Document.read (Text.Utf8.encode (pretty v)) = ⟨node, none⟩
      ∧ node.value? = some v :=
  read_of_spellsDocument_outline (spellsDocument_pretty h)

/-- **A value written without blanks is read back.** -/
theorem read_compact {v : Json} (h : v.isWhole = true) :
    ∃ node, Document.read (Text.Utf8.encode (compact v)) = ⟨node, none⟩
      ∧ node.value? = some v :=
  read_of_spellsDocument_outline (spellsDocument_compact h)

end GraphGateway.Json
