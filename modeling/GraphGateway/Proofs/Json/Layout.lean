import GraphGateway.Proofs.Json.Outline

/-!
# Layouts of written values

The two layouts of the printer differ in the blanks between the tokens only.
A `Layout` says what these blanks are, and `Layout.text` is the text of a
value with them; the text over several lines and the text without blanks are
its two instances (`text_pretty`, `text_compact`).

A written value is JSON, in every layout: its text spells the value by the
rules of the grammar (`spells_text`).
-/

namespace GraphGateway.Json

open Grammar
open Text.Utf8 (octetsOf)

/-! ## Layouts -/

/-- **What stands between the tokens** of a value. -/
structure Layout where
  /-- What stands before a part of a container, or before the bracket that
  closes it, inside a number of containers. -/
  before : Nat → List Char
  /-- What stands behind a colon. -/
  behindColon : List Char
  /-- Nothing but blanks stands before a part. -/
  blank_before : ∀ depth, ∀ b ∈ octetsOf (before depth), Cursor.isBlankOctet b = true
  /-- Nothing but blanks stands behind a colon. -/
  blank_behindColon : ∀ b ∈ octetsOf behindColon, Cursor.isBlankOctet b = true

namespace Layout

/-- Every part on a line of its own. -/
def pretty : Layout where
  before := newLine
  behindColon := [' ']
  blank_before := by
    intro depth b hb
    rw [newLine, Text.Utf8.octetsOf_cons, List.mem_append] at hb
    rcases hb with hb | hb
    · rw [List.mem_singleton.mp hb]
      rfl
    · obtain ⟨c, hc, hb⟩ := List.mem_flatMap.mp hb
      rw [List.eq_of_mem_replicate hc] at hb
      rw [List.mem_singleton.mp hb]
      rfl
  blank_behindColon := by
    intro b hb
    rw [List.mem_singleton.mp hb]
    rfl

/-- Nothing between the tokens. -/
def compact : Layout where
  before _ := []
  behindColon := []
  blank_before := fun _ _ hb => absurd hb List.not_mem_nil
  blank_behindColon := fun _ hb => absurd hb List.not_mem_nil

variable (layout : Layout)

mutual

/-- **The characters of a value in a layout**, inside `depth` containers. -/
def text (depth : Nat) : Json → List Char
  | null => scalarText null
  | bool b => scalarText (bool b)
  | number n => scalarText (number n)
  | string s => scalarText (string s)
  | array [] => scalarText (array [])
  | array (item :: items) =>
    '[' :: (layout.before (depth + 1) ++
      (text (depth + 1) item ++ (itemsText (depth + 1) items ++ (layout.before depth ++ [']']))))
  | object [] => scalarText (object [])
  | object (member :: members) =>
    '\x7b' :: (layout.before (depth + 1) ++
      (memberText (depth + 1) member ++
        (membersText (depth + 1) members ++ (layout.before depth ++ ['\x7d']))))

/-- The characters of the items behind the first. -/
def itemsText (depth : Nat) : List Json → List Char
  | [] => []
  | item :: rest => ',' :: (layout.before depth ++ (text depth item ++ itemsText depth rest))

/-- The characters of a member. -/
def memberText (depth : Nat) : String × Json → List Char
  | (key, value) => stringLiteral key ++ ':' :: (layout.behindColon ++ text depth value)

/-- The characters of the members behind the first. -/
def membersText (depth : Nat) : List (String × Json) → List Char
  | [] => []
  | member :: rest =>
    ',' :: (layout.before depth ++ (memberText depth member ++ membersText depth rest))

end

/-! ## The two layouts of the printer -/

mutual

/-- **The text over several lines** is the text in the pretty layout. -/
theorem text_pretty (depth : Nat) : (v : Json) → prettyText depth v = pretty.text depth v
  | null | bool _ | number _ | string _ | array [] | object [] => rfl
  | array (item :: items) => by
    simp only [prettyText, text, text_pretty (depth + 1) item,
      itemsText_pretty (depth + 1) items, List.append_assoc, List.cons_append]
    rfl
  | object ((key, value) :: members) => by
    simp only [prettyText, text, memberText, text_pretty (depth + 1) value,
      membersText_pretty (depth + 1) members, List.append_assoc, List.cons_append]
    rfl

/-- The items behind the first in the pretty layout. -/
theorem itemsText_pretty (depth : Nat) :
    (items : List Json) → prettyItems depth items = pretty.itemsText depth items
  | [] => rfl
  | item :: rest => by
    simp only [prettyItems, itemsText, text_pretty depth item, itemsText_pretty depth rest,
      List.append_assoc, List.cons_append]
    rfl

/-- The members behind the first in the pretty layout. -/
theorem membersText_pretty (depth : Nat) :
    (members : List (String × Json)) →
      prettyMembers depth members = pretty.membersText depth members
  | [] => rfl
  | (key, value) :: rest => by
    simp only [prettyMembers, membersText, memberText, text_pretty depth value,
      membersText_pretty depth rest, List.append_assoc, List.cons_append]
    rfl

end

mutual

/-- **The text without blanks** is the text in the compact layout. -/
theorem text_compact (depth : Nat) : (v : Json) → compactText v = compact.text depth v
  | null | bool _ | number _ | string _ | array [] | object [] => rfl
  | array (item :: items) => by
    have hitems := itemsText_compact (depth + 1) (item :: items) (List.cons_ne_nil item items)
    rw [compactText, text, (List.cons.inj hitems).2]
    simp [compact]
  | object (member :: members) => by
    have hmembers :=
      membersText_compact (depth + 1) (member :: members) (List.cons_ne_nil member members)
    rw [compactText, text, (List.cons.inj hmembers).2]
    simp [compact]

/-- The items in the compact layout, a comma before each. -/
theorem itemsText_compact (depth : Nat) : (items : List Json) → items ≠ [] →
    ',' :: compactItems items = compact.itemsText depth items
  | [], h => absurd rfl h
  | [item], _ => by
    rw [compactItems, text_compact depth item, itemsText, itemsText, List.append_nil]
    rfl
  | item :: next :: rest, _ => by
    have hrest := itemsText_compact depth (next :: rest) (List.cons_ne_nil next rest)
    rw [compactItems, text_compact depth item, hrest, itemsText]
    · rfl
    · exact List.cons_ne_nil _ _

/-- The members in the compact layout, a comma before each. -/
theorem membersText_compact (depth : Nat) : (members : List (String × Json)) → members ≠ [] →
    ',' :: compactMembers members = compact.membersText depth members
  | [], h => absurd rfl h
  | [(key, value)], _ => by
    rw [compactMembers, text_compact depth value, membersText, membersText, memberText,
      List.append_nil]
    rfl
  | (key, value) :: next :: rest, _ => by
    have hrest := membersText_compact depth (next :: rest) (List.cons_ne_nil next rest)
    have hunfold : compact.membersText depth ((key, value) :: next :: rest)
        = ',' :: (stringLiteral key ++ ':' :: compact.text depth value
          ++ compact.membersText depth (next :: rest)) := by
      rw [membersText, memberText]
      rfl
    rw [compactMembers, text_compact depth value, hrest, hunfold]
    exact List.cons_ne_nil _ _

end

/-! ## Texts of the grammar -/

/-- The rest of an array in the layout, behind its first item. -/
def arrayRest (depth : Nat) (items : List Json) : List Char :=
  layout.itemsText (depth + 1) items ++ (layout.before depth ++ [']'])

/-- The rest of an object in the layout, behind its first member. -/
def objectRest (depth : Nat) (members : List (String × Json)) : List Char :=
  layout.membersText (depth + 1) members ++ (layout.before depth ++ ['\x7d'])

/-- A written string spells its text. -/
theorem spellsKey_stringLiteral (s : String) : SpellsKey (some s) (octetsOf (stringLiteral s)) := by
  obtain ⟨hcharacters, hs⟩ := StringLiteral.areCharacters_escape s
  have hspells := SpellsKey.mk hcharacters
  rw [hs] at hspells
  rw [stringLiteral, List.cons_append, Text.Utf8.octetsOf_cons, Text.Utf8.octetsOf_append]
  exact hspells

/-- A written whole number spells the number. -/
theorem spells_number {n : Number} (h : n.isWhole = true) :
    Spells (.scalar (.number n)) (octetsOf n.text.toList) := by
  obtain ⟨hnumeral, hn⟩ := isNumeral_text h
  have hspells := SpellsToken.number hnumeral
  rw [hn] at hspells
  exact .token hspells

mutual

/-- **The text of a value spells the value**, in every layout. -/
theorem spells_text (depth : Nat) : (v : Json) → v.isWhole = true →
    Spells v.outline (octetsOf (layout.text depth v))
  | null, _ => .token .nullWord
  | bool true, _ => .token .trueWord
  | bool false, _ => .token .falseWord
  | number _, h => spells_number h
  | string s, _ => .token (.string (spellsKey_stringLiteral s))
  | array [], _ => .emptyArray Blanks.nil
  | array (item :: items), h => by
    rw [isWhole, areWhole, Bool.and_eq_true] at h
    have hspells := Spells.array (layout.blank_before (depth + 1))
      (spells_text (depth + 1) item h.1) (spellsItems_text depth items h.2)
    rw [← Text.Utf8.octetsOf_append, ← Text.Utf8.octetsOf_append] at hspells
    rw [text]
    exact hspells
  | object [], _ => .emptyObject Blanks.nil
  | object ((key, value) :: members), h => by
    rw [isWhole, membersAreWhole, Bool.and_eq_true] at h
    have hspells := Spells.object (layout.blank_before (depth + 1))
      (spellsMember_text (depth + 1) key value h.1) (spellsMembers_text depth members h.2)
    rw [← Text.Utf8.octetsOf_append, ← Text.Utf8.octetsOf_append] at hspells
    rw [text]
    exact hspells

/-- The rest of an array spells its items. -/
theorem spellsItems_text (depth : Nat) : (items : List Json) → areWhole items = true →
    SpellsItems (itemOutlines items) (octetsOf (layout.arrayRest depth items))
  | [], _ => by
    have hspells := SpellsItems.close (layout.blank_before depth)
    rw [arrayRest, itemsText, List.nil_append, Text.Utf8.octetsOf_append]
    exact hspells
  | item :: rest, h => by
    rw [areWhole, Bool.and_eq_true] at h
    have hspells := SpellsItems.item Blanks.nil (layout.blank_before (depth + 1))
      (spells_text (depth + 1) item h.1) (spellsItems_text depth rest h.2)
    rw [← Text.Utf8.octetsOf_append, ← Text.Utf8.octetsOf_append] at hspells
    rw [arrayRest, itemsText, List.cons_append, List.append_assoc, List.append_assoc]
    exact hspells

/-- A member spells its key and its value. -/
theorem spellsMember_text (depth : Nat) (key : String) :
    (value : Json) → value.isWhole = true →
    SpellsMember (some key, value.outline) (octetsOf (layout.memberText depth (key, value)))
  | value, h => by
    have hspells := SpellsMember.mk (spellsKey_stringLiteral key) Blanks.nil
      layout.blank_behindColon (spells_text depth value h)
    rw [memberText, Text.Utf8.octetsOf_append, Text.Utf8.octetsOf_cons, Text.Utf8.octetsOf_append]
    exact hspells

/-- The rest of an object spells its members. -/
theorem spellsMembers_text (depth : Nat) : (members : List (String × Json)) →
    membersAreWhole members = true →
    SpellsMembers (memberOutlines members) (octetsOf (layout.objectRest depth members))
  | [], _ => by
    have hspells := SpellsMembers.close (layout.blank_before depth)
    rw [objectRest, membersText, List.nil_append, Text.Utf8.octetsOf_append]
    exact hspells
  | (key, value) :: rest, h => by
    rw [membersAreWhole, Bool.and_eq_true] at h
    have hspells := SpellsMembers.member Blanks.nil (layout.blank_before (depth + 1))
      (spellsMember_text (depth + 1) key value h.1) (spellsMembers_text depth rest h.2)
    rw [← Text.Utf8.octetsOf_append, ← Text.Utf8.octetsOf_append] at hspells
    rw [objectRest, membersText, List.cons_append, List.append_assoc, List.append_assoc]
    exact hspells

end

/-- **A written value is a document of the grammar.** -/
theorem spellsDocument_text {v : Json} (h : v.isWhole = true) :
    SpellsDocument v.outline (octetsOf (layout.text 0 v)) := by
  have hdocument := SpellsDocument.mk Blanks.nil (layout.spells_text 0 v h) Blanks.nil
  rwa [List.nil_append, List.append_nil] at hdocument

end Layout

/-- A value written over several lines is a document of the grammar. -/
theorem spellsDocument_pretty {v : Json} (h : v.isWhole = true) :
    SpellsDocument v.outline (Text.Utf8.encode (pretty v)) := by
  rw [pretty, Text.Utf8.encode_ofList, Layout.text_pretty]
  exact Layout.pretty.spellsDocument_text h

/-- A value written without blanks is a document of the grammar. -/
theorem spellsDocument_compact {v : Json} (h : v.isWhole = true) :
    SpellsDocument v.outline (Text.Utf8.encode (compact v)) := by
  rw [compact, Text.Utf8.encode_ofList, Layout.text_compact 0]
  exact Layout.compact.spellsDocument_text h

end GraphGateway.Json
