import GraphGateway.Proofs.Json.Literal
import GraphGateway.Proofs.Json.Value

/-!
# What a JSON text says

A text of the grammar need not have a value: a number may be too large, and a string may not be
Unicode. A reader that looks at such a token fails, and a reader that skips it does not. So what a
text says is told by its `Outline`, which is a value in which tokens may be left `unread`, and in
which members may come twice.

`Spells` tells the texts of an outline by the rules of the grammar, with any blanks between the
tokens. Every text of the grammar has an outline (`exists_spells_of_isValue`), and so has every
value (`Json.outline`). The outline of a node is what its text said (`Node.outline?`).
-/

namespace GraphGateway.Json

/-- **What a text says**, apart from how it is written. -/
inductive Outline where
  /-- A scalar. -/
  | scalar (value : Scalar)
  /-- A number or a string that has no value. -/
  | unread
  /-- An array. -/
  | array (items : List Outline)
  /-- An object; a key that has no value is none. -/
  | object (members : List (Option String × Outline))

namespace Outline

/-- What a number says. -/
def ofNumber? : Option Number → Outline
  | some n => scalar (.number n)
  | none => unread

/-- What a string says. -/
def ofText? : Option String → Outline
  | some s => scalar (.string s)
  | none => unread

mutual

/-- **Whether no member of an object comes twice**, anywhere. -/
def NoRepeats : Outline → Prop
  | scalar _ => True
  | unread => True
  | array items => NoneRepeats items
  | object members => (members.filterMap Prod.fst).Nodup ∧ NoMemberRepeats members

/-- Whether no member comes twice anywhere in some items. -/
def NoneRepeats : List Outline → Prop
  | [] => True
  | item :: rest => item.NoRepeats ∧ NoneRepeats rest

/-- Whether no member comes twice anywhere in some members. -/
def NoMemberRepeats : List (Option String × Outline) → Prop
  | [] => True
  | (_, value) :: rest => value.NoRepeats ∧ NoMemberRepeats rest

end

end Outline

/-! ## Values and nodes -/

mutual

/-- **What a value says.** -/
def outline : Json → Outline
  | null => .scalar .null
  | bool b => .scalar (.bool b)
  | number n => .scalar (.number n)
  | string s => .scalar (.string s)
  | array items => .array (itemOutlines items)
  | object members => .object (memberOutlines members)

/-- What some values say. -/
def itemOutlines : List Json → List Outline
  | [] => []
  | item :: rest => item.outline :: itemOutlines rest

/-- What some members say. -/
def memberOutlines : List (String × Json) → List (Option String × Outline)
  | [] => []
  | (key, value) :: rest => (some key, value.outline) :: memberOutlines rest

end

mutual

/-- **What the text of a node says**, if the grammar allows it. -/
def Node.outline? : Node → Option Outline
  | .scalar v _ _ => some (.scalar v)
  | .array _ items (.closed _) => (itemOutlines? items).map .array
  | .array _ _ (.cut ..) => none
  | .object _ entries (.closed _) _ => (entryOutlines? entries).map .object
  | .object _ _ (.cut ..) _ => none
  | .faulty _ _ _ none => some .unread
  | .faulty _ _ _ (some _) => none

/-- What the items of an array say. -/
def itemOutlines? : List Item → Option (List Outline)
  | [] => some []
  | .mk node _ :: rest =>
    match node.outline?, itemOutlines? rest with
    | some o, some os => some (o :: os)
    | _, _ => none

/-- What the members of an object say. -/
def entryOutlines? : List Entry → Option (List (Option String × Outline))
  | [] => some []
  | .mk key _ _ node _ :: rest =>
    match node.outline?, entryOutlines? rest with
    | some o, some os => some ((key.toOption, o) :: os)
    | _, _ => none

end

mutual

/-- **The node of a value says what the value says.** -/
theorem outline?_nodeOf : (v : Json) → (Wire.nodeOf v).outline? = some v.outline
  | null | bool _ | number _ | string _ => rfl
  | array items => by
    rw [Wire.nodeOf, Node.outline?, itemOutlines?_itemsOf items]
    rfl
  | object members => by
    rw [Wire.nodeOf, Node.outline?, entryOutlines?_entriesOf members]
    rfl

/-- The items of an array of values say what these values say. -/
theorem itemOutlines?_itemsOf : (items : List Json) →
    itemOutlines? (Wire.itemsOf items) = some (itemOutlines items)
  | [] => rfl
  | item :: rest => by
    rw [Wire.itemsOf, itemOutlines?, outline?_nodeOf item, itemOutlines?_itemsOf rest]
    rfl

/-- The members of an object of values say what these members say. -/
theorem entryOutlines?_entriesOf : (members : List (String × Json)) →
    entryOutlines? (Wire.entriesOf members) = some (memberOutlines members)
  | [] => rfl
  | (key, value) :: rest => by
    rw [Wire.entriesOf, entryOutlines?, outline?_nodeOf value, entryOutlines?_entriesOf rest]
    rfl

end

/-! ## Nodes by what they say -/

/-- What says a scalar is the scalar. -/
theorem Node.eq_scalar_of_outline? {node : Node} {v : Scalar}
    (h : node.outline? = some (.scalar v)) : ∃ start stop, node = .scalar v start stop := by
  cases node with
  | scalar w start stop =>
    obtain rfl := Outline.scalar.inj (Option.some.inj h)
    exact ⟨start, stop, rfl⟩
  | array _ _ ending => cases ending <;> simp [Node.outline?] at h
  | object _ _ ending => cases ending <;> simp [Node.outline?] at h
  | faulty _ _ _ loose => cases loose <;> simp [Node.outline?] at h

/-- What says a token without a value is no value, and is skipped without a fault. -/
theorem Node.eq_faulty_of_outline? {node : Node} (h : node.outline? = some .unread) :
    ∃ likeNull strict name, node = .faulty likeNull strict name none := by
  cases node with
  | scalar => simp [Node.outline?] at h
  | array _ _ ending => cases ending <;> simp [Node.outline?] at h
  | object _ _ ending => cases ending <;> simp [Node.outline?] at h
  | faulty likeNull strict name loose =>
    cases loose with
    | none => exact ⟨likeNull, strict, name, rfl⟩
    | some => simp [Node.outline?] at h

/-- What says an array is an array of what says the items. -/
theorem Node.eq_array_of_outline? {node : Node} {os : List Outline}
    (h : node.outline? = some (.array os)) :
    ∃ start items stop, node = .array start items (.closed stop)
      ∧ itemOutlines? items = some os := by
  cases node with
  | scalar => simp [Node.outline?] at h
  | array start items ending =>
    cases ending with
    | closed stop =>
      rw [Node.outline?, Option.map_eq_some_iff] at h
      obtain ⟨os', hos, h⟩ := h
      obtain rfl := Outline.array.inj h
      exact ⟨start, items, stop, rfl, hos⟩
    | cut => simp [Node.outline?] at h
  | object _ _ ending => cases ending <;> simp [Node.outline?] at h
  | faulty _ _ _ loose => cases loose <;> simp [Node.outline?] at h

/-- What says an object is an object of what says the members. -/
theorem Node.eq_object_of_outline? {node : Node} {os : List (Option String × Outline)}
    (h : node.outline? = some (.object os)) :
    ∃ start entries stop nameless, node = .object start entries (.closed stop) nameless
      ∧ entryOutlines? entries = some os := by
  cases node with
  | scalar => simp [Node.outline?] at h
  | array _ _ ending => cases ending <;> simp [Node.outline?] at h
  | object start entries ending nameless =>
    cases ending with
    | closed stop =>
      rw [Node.outline?, Option.map_eq_some_iff] at h
      obtain ⟨os', hos, h⟩ := h
      obtain rfl := Outline.object.inj h
      exact ⟨start, entries, stop, nameless, rfl, hos⟩
    | cut => simp [Node.outline?] at h
  | faulty _ _ _ loose => cases loose <;> simp [Node.outline?] at h

/-- No items say nothing. -/
theorem eq_nil_of_itemOutlines? {items : List Item} (h : itemOutlines? items = some []) :
    items = [] := by
  match items with
  | [] => rfl
  | .mk node _ :: rest =>
    rw [itemOutlines?] at h
    split at h <;> cases h

/-- Items are what says the first of them, and what says the others. -/
theorem eq_cons_of_itemOutlines? {items : List Item} {o : Outline} {os : List Outline}
    (h : itemOutlines? items = some (o :: os)) :
    ∃ node surplus rest, items = .mk node surplus :: rest ∧ node.outline? = some o
      ∧ itemOutlines? rest = some os := by
  match items with
  | [] => cases h
  | .mk node surplus :: rest =>
    rw [itemOutlines?] at h
    split at h
    · next o' os' ho hos =>
      obtain ⟨rfl, rfl⟩ := List.cons.inj (Option.some.inj h)
      exact ⟨node, surplus, rest, rfl, ho, hos⟩
    · cases h

/-- No members say nothing. -/
theorem eq_nil_of_entryOutlines? {entries : List Entry} (h : entryOutlines? entries = some []) :
    entries = [] := by
  match entries with
  | [] => rfl
  | .mk _ _ _ node _ :: rest =>
    rw [entryOutlines?] at h
    split at h <;> cases h

/-- Members are what says the first of them, and what says the others. -/
theorem eq_cons_of_entryOutlines? {entries : List Entry} {key : Option String} {o : Outline}
    {os : List (Option String × Outline)} (h : entryOutlines? entries = some ((key, o) :: os)) :
    ∃ read keyStop repeated node surplus rest,
      entries = .mk read keyStop repeated node surplus :: rest ∧ read.toOption = key
        ∧ node.outline? = some o ∧ entryOutlines? rest = some os := by
  match entries with
  | [] => cases h
  | .mk read keyStop repeated node surplus :: rest =>
    rw [entryOutlines?] at h
    split at h
    · next o' os' ho hos =>
      obtain ⟨hmember, rfl⟩ := List.cons.inj (Option.some.inj h)
      obtain ⟨rfl, rfl⟩ := Prod.mk.inj hmember
      exact ⟨read, keyStop, repeated, node, surplus, rest, rfl, rfl, ho, hos⟩
    · cases h

mutual

/-- **A node that says what a value says** is the value. -/
theorem Node.value?_of_outline? : (v : Json) → {node : Node} → node.outline? = some v.outline →
    node.value? = some v
  | null, node, h | bool _, node, h | number _, node, h | string _, node, h => by
    obtain ⟨start, stop, rfl⟩ := Node.eq_scalar_of_outline? h
    rfl
  | array vs, node, h => by
    obtain ⟨start, items, stop, rfl, hitems⟩ := Node.eq_array_of_outline? h
    rw [Node.value?, itemValues?_of_itemOutlines? vs hitems]
    rfl
  | object members, node, h => by
    obtain ⟨start, entries, stop, nameless, rfl, hentries⟩ := Node.eq_object_of_outline? h
    rw [Node.value?, entryValues?_of_entryOutlines? members hentries]
    rfl

/-- Items that say what some values say are these values. -/
theorem itemValues?_of_itemOutlines? : (vs : List Json) → {items : List Item} →
    itemOutlines? items = some (itemOutlines vs) → itemValues? items = some vs
  | [], items, h => by
    rw [eq_nil_of_itemOutlines? h]
    rfl
  | v :: vs, items, h => by
    obtain ⟨node, surplus, rest, rfl, hnode, hrest⟩ := eq_cons_of_itemOutlines? h
    rw [itemValues?, Node.value?_of_outline? v hnode, itemValues?_of_itemOutlines? vs hrest]

/-- Members that say what some members say are these members. -/
theorem entryValues?_of_entryOutlines? : (members : List (String × Json)) →
    {entries : List Entry} → entryOutlines? entries = some (memberOutlines members) →
    entryValues? entries = some members
  | [], entries, h => by
    rw [eq_nil_of_entryOutlines? h]
    rfl
  | (key, v) :: members, entries, h => by
    obtain ⟨read, _, _, node, _, rest, rfl, hkey, hnode, hrest⟩ := eq_cons_of_entryOutlines? h
    cases read with
    | error => cases hkey
    | ok read =>
      obtain rfl := Option.some.inj hkey
      rw [entryValues?, Node.value?_of_outline? v hnode,
        entryValues?_of_entryOutlines? members hrest]

end

/-! ## The node of an outline -/

mutual

/-- **The node of an outline**, without places. -/
def Outline.node : Outline → Node
  | .scalar v => .scalar v 0 0
  | .unread => .faulty false Wire.noFault Wire.noFault none
  | .array items => .array 0 (itemNodes items) (.closed 0)
  | .object members => .object 0 (memberNodes members) (.closed 0) Wire.noFault

/-- The items that some outlines are of. -/
def itemNodes : List Outline → List Item
  | [] => []
  | o :: rest => .mk o.node Wire.noFault :: itemNodes rest

/-- The members that some outlines are of. -/
def memberNodes : List (Option String × Outline) → List Entry
  | [] => []
  | (key, o) :: rest =>
    .mk (key.elim (.error Wire.noFault) .ok) 0 0 o.node Wire.noFault :: memberNodes rest

end

mutual

/-- The node of an outline says it. -/
theorem outline?_node : (o : Outline) → o.node.outline? = some o
  | .scalar _ => rfl
  | .unread => rfl
  | .array items => by
    rw [Outline.node, Node.outline?, itemOutlines?_itemNodes items]
    rfl
  | .object members => by
    rw [Outline.node, Node.outline?, entryOutlines?_memberNodes members]
    rfl

/-- The items of some outlines say them. -/
theorem itemOutlines?_itemNodes : (os : List Outline) → itemOutlines? (itemNodes os) = some os
  | [] => rfl
  | o :: rest => by
    rw [itemNodes, itemOutlines?, outline?_node o, itemOutlines?_itemNodes rest]

/-- The members of some outlines say them. -/
theorem entryOutlines?_memberNodes : (os : List (Option String × Outline)) →
    entryOutlines? (memberNodes os) = some os
  | [] => rfl
  | (key, o) :: rest => by
    have hkey : (key.elim (.error Wire.noFault) Except.ok).toOption = key := by cases key <;> rfl
    rw [memberNodes, entryOutlines?, outline?_node o, entryOutlines?_memberNodes rest, hkey]

end

/-! ## Texts -/

namespace Grammar

/-- **The texts of a key.** -/
inductive SpellsKey : Option String → List UInt8 → Prop where
  /-- The key is what stands between the quotes. -/
  | mk {characters : List UInt8} (h : AreCharacters characters) :
    SpellsKey (StringLiteral.stringOf? characters) (0x22 :: (characters ++ [0x22]))

/-- **The tokens of an outline.** -/
inductive SpellsToken : Outline → List UInt8 → Prop where
  /-- The word `null`. -/
  | nullWord : SpellsToken (.scalar .null) [0x6E, 0x75, 0x6C, 0x6C]
  /-- The word `true`. -/
  | trueWord : SpellsToken (.scalar (.bool true)) [0x74, 0x72, 0x75, 0x65]
  /-- The word `false`. -/
  | falseWord : SpellsToken (.scalar (.bool false)) [0x66, 0x61, 0x6C, 0x73, 0x65]
  /-- A number. -/
  | number {text : List UInt8} (h : IsNumeral text) :
    SpellsToken (.ofNumber? (Numeral.numberOf? text)) text
  /-- A string. -/
  | string {key : Option String} {text : List UInt8} (h : SpellsKey key text) :
    SpellsToken (.ofText? key) text

mutual

/-- **The texts of an outline.** -/
inductive Spells : Outline → List UInt8 → Prop where
  /-- A token. -/
  | token {o : Outline} {text : List UInt8} (h : SpellsToken o text) : Spells o text
  /-- An array with nothing in it. -/
  | emptyArray {gap : List UInt8} (hgap : Blanks gap) :
    Spells (.array []) (0x5B :: (gap ++ [0x5D]))
  /-- An array with items. -/
  | array {item : Outline} {items : List Outline} {gap text tail : List UInt8} (hgap : Blanks gap)
    (hitem : Spells item text) (htail : SpellsItems items tail) :
    Spells (.array (item :: items)) (0x5B :: (gap ++ (text ++ tail)))
  /-- An object with nothing in it. -/
  | emptyObject {gap : List UInt8} (hgap : Blanks gap) :
    Spells (.object []) (0x7B :: (gap ++ [0x7D]))
  /-- An object with members. -/
  | object {member : Option String × Outline} {members : List (Option String × Outline)}
    {gap text tail : List UInt8} (hgap : Blanks gap) (hmember : SpellsMember member text)
    (htail : SpellsMembers members tail) :
    Spells (.object (member :: members)) (0x7B :: (gap ++ (text ++ tail)))

/-- The texts of the items of an array that stand behind another one, with the closing bracket. -/
inductive SpellsItems : List Outline → List UInt8 → Prop where
  /-- There are none. -/
  | close {gap : List UInt8} (hgap : Blanks gap) : SpellsItems [] (gap ++ [0x5D])
  /-- There is a comma and an item. -/
  | item {item : Outline} {items : List Outline} {gap gap' text tail : List UInt8}
    (hgap : Blanks gap) (hgap' : Blanks gap') (hitem : Spells item text)
    (htail : SpellsItems items tail) :
    SpellsItems (item :: items) (gap ++ 0x2C :: (gap' ++ (text ++ tail)))

/-- The texts of a member. -/
inductive SpellsMember : Option String × Outline → List UInt8 → Prop where
  /-- The key, a colon and the value. -/
  | mk {key : Option String} {value : Outline} {name gap gap' text : List UInt8}
    (hname : SpellsKey key name) (hgap : Blanks gap) (hgap' : Blanks gap')
    (hvalue : Spells value text) :
    SpellsMember (key, value) (name ++ (gap ++ 0x3A :: (gap' ++ text)))

/-- The texts of the members of an object that stand behind another one, with the closing brace. -/
inductive SpellsMembers : List (Option String × Outline) → List UInt8 → Prop where
  /-- There are none. -/
  | close {gap : List UInt8} (hgap : Blanks gap) : SpellsMembers [] (gap ++ [0x7D])
  /-- There is a comma and a member. -/
  | member {member : Option String × Outline} {members : List (Option String × Outline)}
    {gap gap' text tail : List UInt8} (hgap : Blanks gap) (hgap' : Blanks gap')
    (hmember : SpellsMember member text) (htail : SpellsMembers members tail) :
    SpellsMembers (member :: members) (gap ++ 0x2C :: (gap' ++ (text ++ tail)))

end

/-- **The documents of an outline**: its texts, among blanks. -/
inductive SpellsDocument : Outline → List UInt8 → Prop where
  /-- A text with blanks before it and behind it. -/
  | mk {o : Outline} {before text behind : List UInt8} (hbefore : Blanks before)
    (htext : Spells o text) (hbehind : Blanks behind) :
    SpellsDocument o (before ++ (text ++ behind))

/-! ## Every text of the grammar says something -/

mutual

/-- **Every value of the grammar has an outline.** -/
theorem exists_spells_of_isValue : {text : List UInt8} → IsValue text → ∃ o, Spells o text
  | _, .nullWord => ⟨_, .token .nullWord⟩
  | _, .trueWord => ⟨_, .token .trueWord⟩
  | _, .falseWord => ⟨_, .token .falseWord⟩
  | _, .number h => ⟨_, .token (.number h)⟩
  | _, .string h => by
    cases h with
    | mk hcharacters => exact ⟨_, .token (.string (.mk hcharacters))⟩
  | _, .array h => exists_spells_of_isArray h
  | _, .object h => exists_spells_of_isObject h

/-- Every array has an outline. -/
theorem exists_spells_of_isArray : {text : List UInt8} → IsArray text → ∃ o, Spells o text
  | _, .empty hblanks => ⟨_, .emptyArray hblanks⟩
  | _, .items hitems => by
    obtain ⟨gap, item, items, text, tail, hgap, hitem, htail, htext⟩ :=
      exists_spells_of_areItems hitems
    refine ⟨.array (item :: items), ?_⟩
    rw [htext]
    exact .array hgap hitem htail

/-- The items of an array, with the bracket behind them, are a first item and others. -/
theorem exists_spells_of_areItems : {text : List UInt8} → AreItems text →
    ∃ gap item items value tail, Blanks gap ∧ Spells item value ∧ SpellsItems items tail
      ∧ text ++ [0x5D] = gap ++ (value ++ tail)
  | _, .last hbefore hvalue hbehind => by
    obtain ⟨o, ho⟩ := exists_spells_of_isValue hvalue
    exact ⟨_, o, [], _, _, hbefore, ho, .close hbehind, by simp⟩
  | _, .more hbefore hvalue hbehind hrest => by
    obtain ⟨o, ho⟩ := exists_spells_of_isValue hvalue
    obtain ⟨gap, item, items, value, tail, hgap, hitem, htail, htext⟩ :=
      exists_spells_of_areItems hrest
    refine ⟨_, o, item :: items, _, _, hbefore, ho, .item hbehind hgap hitem htail, ?_⟩
    simp [← htext]

/-- Every object has an outline. -/
theorem exists_spells_of_isObject : {text : List UInt8} → IsObject text → ∃ o, Spells o text
  | _, .empty hblanks => ⟨_, .emptyObject hblanks⟩
  | _, .members hmembers => by
    obtain ⟨gap, member, members, text, tail, hgap, hmember, htail, htext⟩ :=
      exists_spells_of_areMembers hmembers
    refine ⟨.object (member :: members), ?_⟩
    rw [htext]
    exact .object hgap hmember htail

/-- A member, with blanks before it and behind it, is a member. -/
theorem exists_spells_of_isMember : {text : List UInt8} → IsMember text →
    ∃ gap member value behind, Blanks gap ∧ SpellsMember member value ∧ Blanks behind
      ∧ text = gap ++ (value ++ behind)
  | _, .mk hbefore hname hbehind hbefore' hvalue hbehind' => by
    obtain ⟨o, ho⟩ := exists_spells_of_isValue hvalue
    cases hname with
    | mk hcharacters =>
      exact ⟨_, _, _, _, hbefore, .mk (.mk hcharacters) hbehind hbefore' ho, hbehind', by simp⟩

/-- The members of an object, with the brace behind them, are a first member and others. -/
theorem exists_spells_of_areMembers : {text : List UInt8} → AreMembers text →
    ∃ gap member members value tail, Blanks gap ∧ SpellsMember member value
      ∧ SpellsMembers members tail ∧ text ++ [0x7D] = gap ++ (value ++ tail)
  | _, .last hmember => by
    obtain ⟨gap, member, value, behind, hgap, hspells, hbehind, rfl⟩ :=
      exists_spells_of_isMember hmember
    exact ⟨_, _, [], _, _, hgap, hspells, .close hbehind, by simp⟩
  | _, .more hmember hrest => by
    obtain ⟨gap, member, value, behind, hgap, hspells, hbehind, rfl⟩ :=
      exists_spells_of_isMember hmember
    obtain ⟨gap', next, members, value', tail, hgap', hnext, htail, htext⟩ :=
      exists_spells_of_areMembers hrest
    refine ⟨_, _, next :: members, _, _, hgap, hspells, .member hbehind hgap' hnext htail, ?_⟩
    simp [← htext]

end

/-- **Every JSON text has an outline.** -/
theorem exists_spellsDocument {text : List UInt8} (h : IsDocument text) :
    ∃ o, SpellsDocument o text := by
  cases h with
  | mk hbefore hvalue hbehind =>
    obtain ⟨o, ho⟩ := exists_spells_of_isValue hvalue
    exact ⟨o, .mk hbefore ho hbehind⟩

end Grammar

end GraphGateway.Json
