import GraphGateway.Proofs.Except
import GraphGateway.Proofs.Json.Value
import GraphGateway.Proofs.Wire.Columns
import Mathlib.Data.List.Forall2

/-!
# What a value means for a shape

A value stands for at most one datum of a shape (`valueOf?`). What a
container stands for is said in terms of its parts alone: an array by its
items (`arrayOf?`), an object by the values under each key (`objectOf?`,
`columnsOf?`), without regard to places, faults, and the order in which
members are read.

The readers agree with this wherever their parts do (`toOption_readArray`,
`toOption_readObject`). It follows that a text is read as its value: where a
node is a value whose containers a text may nest, looking at the node gives
what the value stands for (`toOption_read_of_value?`), and skipping it never
fails.
-/

namespace GraphGateway.Wire

open Json (Node Item Entry Ending Fault Scalar Found)

/-! ## The datum of a value -/

/-- **What a value stands for** in a shape, if it has the shape. -/
def valueOf? (s : Shape) (v : Json) : Option s.Carrier :=
  ((partOf (nodeOf v)).read .value s).toOption

/-- What a value stands for is what is read from it. -/
theorem decodeValue_eq_ok_iff (s : Shape) (v : Json) (x : s.Carrier) :
    decodeValue s v = .ok x ↔ valueOf? s v = some x := by
  rw [decodeValue, valueOf?]
  cases (partOf (nodeOf v)).read .value s <;> simp [Except.mapError, Except.toOption]

/-- What the items of an array stand for, taken as the members of a record in
their order. -/
def positionsOf? : (ms : List MemberLayout) → List Json → Option (Values ms)
  | [], [] => some ()
  | [], _ :: _ => none
  | m :: rest, v :: vs =>
    (valueOf? m.shape v).bind fun x => (positionsOf? rest vs).map fun xs => (x, xs)
  | m :: rest, [] =>
    match m.absence with
    | .allowed x => (positionsOf? rest []).map fun xs => (x, xs)
    | _ => none

/-- **What an array stands for**, by its items. -/
def arrayOf? : (s : Shape) → List Json → Option s.Carrier
  | .nullable s, vs => (arrayOf? s vs).map some
  | .list s, vs => vs.mapM (valueOf? s)
  | .listOrNull s, vs => vs.mapM (valueOf? s)
  | .any, vs => (vs.mapM (valueOf? .any)).map Json.array
  | .record k, vs => (positionsOf? k.layout vs).map k.build
  | _, _ => none

/-- The values under a key. -/
def valuesUnder (key : String) (members : List (String × Json)) : List Json :=
  (members.filter (·.1 == key)).map (·.2)

/-- What the values under the key of a member stand for: there is at most one
of them. -/
def columnOf? (m : MemberLayout) : List Json → Option m.shape.Carrier
  | [] =>
    match m.absence with
    | .required => none
    | .inObject x => some x
    | .allowed x => some x
  | [v] => valueOf? m.shape v
  | _ => none

/-- **What the members of an object stand for**, taken as a record: each
member of the record is looked up by its key. -/
def columnsOf? : (ms : List MemberLayout) → List (String × Json) → Option (Values ms)
  | [], _ => some ()
  | m :: rest, members =>
    (columnOf? m (valuesUnder m.key members)).bind fun x =>
      (columnsOf? rest members).map fun xs => (x, xs)

/-- What the members of an object stand for, each by itself. -/
def entriesOf? (s : Shape) (members : List (String × Json)) : Option (List (String × s.Carrier)) :=
  members.mapM fun member => (valueOf? s member.2).map fun x => (member.1, x)

/-- **What an object stands for**, by its members. -/
def objectOf? : (s : Shape) → List (String × Json) → Option s.Carrier
  | .nullable s, members => (objectOf? s members).map some
  | .any, members => (entriesOf? .any members).map fun entries => Json.object (Keyed.ofList entries)
  | .members, members => (entriesOf? .any members).map Keyed.ofList
  | .map s, members => (entriesOf? s members).map Keyed.ofList
  | .record k, members => (columnsOf? k.layout members).map k.build
  | .choice c, [(key, v)] =>
    (c.names.lookup key).bind fun x => (valueOf? .nothing v).map fun _ => x
  | _, _ => none

/-! ## Readers that agree with the values -/

/-- **A part agrees with a value**: skipping it does not fail, and looking at
it gives what the value stands for. -/
def Agrees (origin : Origin) (p : Part) (v : Json) : Prop :=
  p.skip = none ∧ ∀ s, (p.read origin s).toOption = valueOf? s v

/-- The parts of an array agree with its items. -/
def AgreeItems (origin : Origin) : List ItemPart → List Json → Prop :=
  List.Forall₂ fun item v => Agrees origin item.part v

/-- The parts of an object agree with its members. -/
def AgreeMembers (origin : Origin) : List MemberPart → List (String × Json) → Prop :=
  List.Forall₂ fun part member => part.key = .ok member.1 ∧ Agrees origin part.part member.2

/-- All items of an array are read. -/
theorem toOption_readAll {origin : Origin} (s : Shape) (stop : Nat) {items : List ItemPart}
    {vs : List Json} (h : AgreeItems origin items vs) :
    (readAll origin s (.closed stop) items).toOption = vs.mapM (valueOf? s) := by
  induction h with
  | nil => rfl
  | @cons item v items vs hitem _ ih =>
    rw [readAll, toOption_bind, hitem.2 s, List.mapM_cons]
    cases valueOf? s v with
    | none => rfl
    | some x =>
      show (readAll origin s (.closed stop) items >>= _).toOption = _
      rw [toOption_bind, ih]
      rfl

/-- The items of an array are read as the members of a record. -/
theorem toOption_readPositional {origin : Origin} (k : RecordKind) (length stop count : Nat)
    (ms : List MemberLayout) {items : List ItemPart} {vs : List Json}
    (h : AgreeItems origin items vs) :
    (readPositional origin k length (.closed stop) count ms items).toOption
      = positionsOf? ms vs := by
  induction ms generalizing items vs count with
  | nil =>
    cases h with
    | nil => rfl
    | cons => cases origin <;> rfl
  | cons m rest ih =>
    cases h with
    | nil =>
      obtain ⟨key, shape, absence⟩ := m
      cases absence with
      | required => rfl
      | inObject => rfl
      | allowed x =>
        -- a missing item stands for what may be left out, and so do all behind it
        show (readPositional origin k length (.closed stop) (count + 1) rest [] >>= _).toOption = _
        rw [toOption_bind, ih (count + 1) .nil, positionsOf?]
        cases positionsOf? rest [] <;> rfl
    | @cons item v items vs hitem hrest =>
      rw [readPositional, positionsOf?, toOption_bind, hitem.2 m.shape]
      cases valueOf? m.shape v with
      | none => rfl
      | some x =>
        show (readPositional origin k length (.closed stop) (count + 1) rest items >>= _).toOption
          = _
        rw [toOption_bind, ih (count + 1) hrest]
        cases positionsOf? rest vs <;> rfl

/-- **All members of an object are read.** -/
theorem toOption_readMap {origin : Origin} (s : Shape) (stop : Nat) {parts : List MemberPart}
    {members : List (String × Json)} (h : AgreeMembers origin parts members)
    (read : List (String × s.Carrier)) :
    (readMap origin s (.closed stop) read parts).toOption
      = (entriesOf? s members).map fun entries =>
        entries.foldl (fun map entry => Keyed.insert entry.1 entry.2 map) read := by
  induction h generalizing read with
  | nil => rfl
  | @cons part member parts members hpart _ ih =>
    rw [readMap, hpart.1]
    show (part.part.read origin s >>= _).toOption = _
    rw [toOption_bind, hpart.2.2 s, entriesOf?, List.mapM_cons]
    cases valueOf? s member.2 with
    | none => rfl
    | some x =>
      show (readMap origin s (.closed stop) (Keyed.insert member.1 x read) parts).toOption = _
      rw [ih, entriesOf?]
      cases members.mapM fun member => (valueOf? s member.2).map fun x => (member.1, x) <;> rfl

/-- A name in an object is read. -/
theorem toOption_readNamed {origin : Origin} (c : Choice) (stop : Nat) (nameless : Fault)
    {parts : List MemberPart} {members : List (String × Json)}
    (h : AgreeMembers origin parts members) :
    (readNamed origin c parts (.closed stop) nameless).toOption
      = objectOf? (.choice c) members := by
  have hone : ∀ {part : MemberPart} {member : String × Json}, part.key = .ok member.1 →
      Agrees origin part.part member.2 →
      (do
        let key ← part.key
        let value ← chosen c key part.keyStop
        part.part.read origin .nothing
        return value : Except Fault c.Carrier).toOption
      = (c.names.lookup member.1).bind fun x => (valueOf? .nothing member.2).map fun _ => x := by
    intro part member hkey hpart
    rw [hkey]
    show (chosen c member.1 part.keyStop >>= _).toOption = _
    rw [toOption_bind, chosen]
    cases c.names.lookup member.1 with
    | none => rfl
    | some x =>
      show (part.part.read origin .nothing >>= _).toOption = _
      rw [toOption_bind, hpart.2]
      cases valueOf? .nothing member.2 <;> rfl
  cases h with
  | nil => cases origin <;> rfl
  | @cons part member parts members hpart hrest =>
    -- a value with two members fails at once, a text only behind the first of them
    cases origin with
    | value =>
      cases hrest with
      | nil => exact hone hpart.1 hpart.2
      | cons => rfl
    | text depth =>
      rw [readNamed]
      show ((do
        let key ← part.key
        let value ← chosen c key part.keyStop
        part.part.read (.text depth) .nothing
        return value : Except Fault c.Carrier) >>= _).toOption = _
      rw [toOption_bind, hone hpart.1 hpart.2]
      cases hrest with
      | nil =>
        obtain ⟨key, v⟩ := member
        rw [objectOf?]
        cases (c.names.lookup key).bind fun x => (valueOf? .nothing v).map fun _ => x <;> rfl
      | cons => exact Option.bind_eq_none_iff.mpr fun _ _ => rfl

/-! ## Records -/

/-- Values under a key are those of the members with this key. -/
theorem valuesUnder_cons (key : String) (member : String × Json)
    (members : List (String × Json)) :
    valuesUnder key (member :: members)
      = if member.1 == key then member.2 :: valuesUnder key members
        else valuesUnder key members := by
  rw [valuesUnder, List.filter_cons]
  split <;> rfl

/-- The parts under a key agree with the values under it. -/
theorem forall₂_partsUnder {origin : Origin} {parts : List MemberPart}
    {members : List (String × Json)} (h : AgreeMembers origin parts members) (key : String) :
    List.Forall₂ (Agrees origin) (partsUnder key parts) (valuesUnder key members) := by
  induction h with
  | nil => exact .nil
  | @cons part member parts members hpart _ ih =>
    rw [partsUnder_cons, valuesUnder_cons, hpart.1]
    by_cases hkey : member.1 = key
    · rw [if_pos (by simp [Except.toOption, hkey]), if_pos (by simp [hkey])]
      exact .cons hpart.2 ih
    · rw [if_neg (by simp [Except.toOption, hkey]), if_neg (by simp [hkey])]
      exact ih

/-- Parts that agree with members have keys and are skipped without a fault. -/
theorem forall_of_agreeMembers {origin : Origin} {parts : List MemberPart}
    {members : List (String × Json)} (h : AgreeMembers origin parts members) :
    ∀ part ∈ parts, part.part.skip = none ∧ ∃ key, part.key = .ok key := by
  induction h with
  | nil => exact fun _ hpart => absurd hpart List.not_mem_nil
  | cons hpart _ ih => exact List.forall_mem_cons.mpr ⟨⟨hpart.2.1, _, hpart.1⟩, ih⟩

/-- What stands under the key of a member is read as what it stands for. -/
theorem column?_eq_columnOf? {origin : Origin} (m : MemberLayout) {parts : List Part}
    {vs : List Json} (h : List.Forall₂ (Agrees origin) parts vs) :
    column? origin m parts = columnOf? m vs := by
  cases h with
  | nil => rfl
  | cons hpart hrest =>
    cases hrest with
    | nil => exact hpart.2 m.shape
    | cons => rfl

/-- **The members of an object are read as those of a record**, each by its
key. -/
theorem toOption_readMembers_of_agree {origin : Origin} (stop : Nat) {ms : List MemberLayout}
    (hkeys : (ms.map MemberLayout.key).Nodup) {parts : List MemberPart}
    {members : List (String × Json)} (h : AgreeMembers origin parts members) :
    (readMembers origin ms (.closed stop) (Slots.empty ms) parts).toOption
      = columnsOf? ms members := by
  rw [toOption_readMembers stop hkeys (forall_of_agreeMembers h)]
  clear hkeys
  induction ms with
  | nil => rfl
  | cons m rest ih =>
    rw [Slots.empty, Slots.columns?, ih, columnsOf?,
      ← column?_eq_columnOf? m (forall₂_partsUnder h m.key)]
    rfl

/-! ## Containers -/

/-- **An array is read as what it stands for**, where its parts are. -/
theorem toOption_readArray {origin inner : Origin} {start stop : Nat}
    (henter : origin.enter start = .ok inner) {items : List ItemPart} {vs : List Json}
    (h : AgreeItems inner items vs) (s : Shape) :
    (readArray start items (.closed stop) origin s).toOption = arrayOf? s vs := by
  induction s with
  | nullable s ih =>
    rw [readArray, toOption_bind, ih, arrayOf?]
    cases arrayOf? s vs <;> rfl
  | list s =>
    rw [readArray, henter]
    exact toOption_readAll s stop h
  | listOrNull s =>
    rw [readArray, henter]
    exact toOption_readAll s stop h
  | any =>
    rw [readArray, henter]
    show (readAll inner .any (.closed stop) items >>= _).toOption = _
    rw [toOption_bind, toOption_readAll .any stop h, arrayOf?]
    cases vs.mapM (valueOf? .any) <;> rfl
  | record k =>
    rw [readArray, henter]
    show (readPositional inner k items.length (.closed stop) 0 k.layout items >>= _).toOption = _
    rw [toOption_bind, toOption_readPositional k _ stop 0 k.layout h, arrayOf?]
    cases positionsOf? k.layout vs <;> rfl
  | _ => rfl

/-- **An object is read as what it stands for**, where its parts are. -/
theorem toOption_readObject {origin inner : Origin} {start stop : Nat} (nameless : Fault)
    (henter : origin.enter start = .ok inner) {parts : List MemberPart}
    {members : List (String × Json)} (h : AgreeMembers inner parts members) (s : Shape) :
    (readObject start parts (.closed stop) nameless origin s).toOption = objectOf? s members := by
  induction s with
  | nullable s ih =>
    rw [readObject, toOption_bind, ih, objectOf?]
    cases objectOf? s members <;> rfl
  | any =>
    rw [readObject, henter]
    show (readMap inner .any (.closed stop) [] parts >>= _).toOption = _
    rw [toOption_bind, toOption_readMap .any stop h [], objectOf?]
    cases entriesOf? .any members <;> rfl
  | members =>
    rw [readObject, henter]
    exact toOption_readMap .any stop h []
  | map s =>
    rw [readObject, henter]
    exact toOption_readMap s stop h []
  | record k =>
    rw [readObject, henter]
    show (readMembers inner k.layout (.closed stop) (Slots.empty k.layout) parts >>= _).toOption = _
    rw [toOption_bind, toOption_readMembers_of_agree stop k.layout_keys_nodup h, objectOf?]
    cases columnsOf? k.layout members <;> rfl
  | choice c =>
    rw [readObject, henter]
    exact toOption_readNamed c stop nameless h
  | _ => rfl

/-! ## Scalars -/

/-- A name stands for its value wherever it stands itself. -/
theorem toOption_chosen (c : Choice) (name : String) (place : Nat) :
    (chosen c name place).toOption = c.names.lookup name := by
  rw [chosen]
  cases c.names.lookup name <;> rfl

/-- What is not `null` stands for a value that is there. -/
theorem toOption_readScalar_nullable {v : Scalar} (h : v ≠ .null) (start stop : Nat)
    (origin : Origin) (s : Shape) :
    (readScalar v start stop origin (.nullable s)).toOption
      = (readScalar v start stop origin s).toOption.map some := by
  have hunfold : readScalar v start stop origin (.nullable s)
      = (readScalar v start stop origin s >>= fun x => .ok (some x)) := by
    cases v with
    | null => exact absurd rfl h
    | _ => rfl
  rw [hunfold, toOption_bind]
  cases (readScalar v start stop origin s).toOption <;> rfl

/-- **A scalar is read in the same way wherever it stands.** -/
theorem toOption_readScalar (v : Scalar) (start stop : Nat) (origin : Origin) (s : Shape) :
    (readScalar v start stop origin s).toOption = (readScalar v 0 0 .value s).toOption := by
  induction s with
  | nullable s ih =>
    -- `null` is missing, and anything else is read in the inner shape
    by_cases hv : v = .null
    · subst hv
      rfl
    · rw [toOption_readScalar_nullable hv, toOption_readScalar_nullable hv, ih]
  | timestamp =>
    cases v with
    | string s =>
      simp only [readScalar]
      cases Time.Instant.parse s.toList <;> rfl
    | _ => rfl
  | whole w =>
    cases v with
    | number n =>
      cases n with
      | natural n =>
        simp only [readScalar]
        cases w.ofNat? n.toNat <;> rfl
      | _ => rfl
    | _ => rfl
  | choice c =>
    cases v with
    | string s => exact (toOption_chosen c s stop).trans (toOption_chosen c s 0).symm
    | _ => rfl
  | _ => cases v <;> rfl

/-! ## Values -/

/-- A container whose parts are skipped without a fault is so itself. -/
theorem skipContainer_eq_none {parts : List Part} (h : ∀ p ∈ parts, p.skip = none) (stop : Nat) :
    skipContainer parts (.closed stop) = none := by
  have hnone : parts.findSome? Part.skip = none := List.findSome?_eq_none_iff.mpr h
  simp only [skipContainer, hnone]

/-- An array is skipped without a fault where its parts agree with values. -/
theorem skip_of_agreeItems {origin : Origin} {items : List ItemPart} {vs : List Json}
    (h : AgreeItems origin items vs) (stop : Nat) :
    skipContainer (items.map (·.part)) (.closed stop) = none := by
  refine skipContainer_eq_none (fun p hp => ?_) stop
  induction h with
  | nil => cases hp
  | cons hitem _ ih =>
    rcases List.mem_cons.mp hp with rfl | hp
    · exact hitem.1
    · exact ih hp

/-- An object is skipped without a fault where its parts agree with
values. -/
theorem skip_of_agreeMembers {origin : Origin} {parts : List MemberPart}
    {members : List (String × Json)} (h : AgreeMembers origin parts members) (stop : Nat) :
    skipContainer (parts.map (·.part)) (.closed stop) = none := by
  refine skipContainer_eq_none (fun p hp => ?_) stop
  obtain ⟨part, hpart, rfl⟩ := List.mem_map.mp hp
  exact (forall_of_agreeMembers h part hpart).1

mutual

/-- **The node of a value agrees with the value.** -/
theorem agrees_nodeOf : (v : Json) → Agrees .value (partOf (nodeOf v)) v
  | .null | .bool _ | .number _ | .string _ => ⟨rfl, fun _ => rfl⟩
  | .array items => ⟨skip_of_agreeItems (agreeItems_itemsOf items) 0, fun _ => rfl⟩
  | .object members => ⟨skip_of_agreeMembers (agreeMembers_entriesOf members) 0, fun _ => rfl⟩

/-- The items of an array of values agree with these values. -/
theorem agreeItems_itemsOf : (items : List Json) →
    AgreeItems .value (itemParts (itemsOf items)) items
  | [] => .nil
  | item :: rest => .cons (agrees_nodeOf item) (agreeItems_itemsOf rest)

/-- The members of an object of values agree with these members. -/
theorem agreeMembers_entriesOf : (members : List (String × Json)) →
    AgreeMembers .value (memberParts (entriesOf members)) members
  | [] => .nil
  | (_, value) :: rest => .cons ⟨rfl, agrees_nodeOf value⟩ (agreeMembers_entriesOf rest)

end

/-- **What an array stands for** is known from its items. -/
theorem valueOf?_array (s : Shape) (vs : List Json) : valueOf? s (.array vs) = arrayOf? s vs :=
  toOption_readArray rfl (agreeItems_itemsOf vs) s

/-- **What an object stands for** is known from its members. -/
theorem valueOf?_object (s : Shape) (members : List (String × Json)) :
    valueOf? s (.object members) = objectOf? s members :=
  toOption_readObject noFault rfl (agreeMembers_entriesOf members) s

/-- A scalar stands for what is read from it. -/
theorem valueOf?_ofScalar (s : Shape) (v : Scalar) :
    valueOf? s (Json.ofScalar v) = (readScalar v 0 0 .value s).toOption := by
  cases v <;> rfl

/-- What is not `null` stands for a value that is there. -/
theorem valueOf?_nullable (s : Shape) {v : Json} (h : v ≠ .null) :
    valueOf? (.nullable s) v = (valueOf? s v).map some := by
  cases v with
  | null => exact absurd rfl h
  | bool b => exact toOption_readScalar_nullable (v := .bool b) (by simp) 0 0 .value s
  | number n => exact toOption_readScalar_nullable (v := .number n) (by simp) 0 0 .value s
  | string t => exact toOption_readScalar_nullable (v := .string t) (by simp) 0 0 .value s
  | array vs => rw [valueOf?_array, valueOf?_array, arrayOf?]
  | object members => rw [valueOf?_object, valueOf?_object, objectOf?]

/-- Where a list may be `null`, what is not `null` is a list. -/
theorem valueOf?_listOrNull_of_ne_null {s : Shape} {v : Json} (hv : v ≠ .null) :
    valueOf? (.listOrNull s) v = valueOf? (.list s) v := by
  cases v with
  | null => exact absurd rfl hv
  | bool | number | string => rfl
  | array items => rw [valueOf?_array, valueOf?_array, arrayOf?, arrayOf?]
  | object members => rw [valueOf?_object, valueOf?_object, objectOf?, objectOf?] <;> simp

/-! ## Nodes of a text -/

/-- A text lets a reader into a container that it may still nest. -/
theorem Origin.enter_text {n depth : Nat} (h : n + 1 < depth) (start : Nat) :
    ∃ inner, n < inner ∧ Origin.enter start (.text depth) = .ok (.text inner) := by
  refine ⟨depth - 1, by omega, ?_⟩
  rw [Origin.enter, if_neg (by omega)]

mutual

/-- **A node of a text agrees with the value that it is**, where the text may
nest the containers of the value. -/
theorem agrees_of_value? : (node : Node) → {v : Json} → {depth : Nat} → node.value? = some v →
    v.depth < depth → Agrees (.text depth) (partOf node) v
  | .scalar scalar start stop, v, depth, h, _ => by
    obtain rfl := Option.some.inj h
    refine ⟨rfl, fun s => ?_⟩
    rw [valueOf?_ofScalar]
    exact toOption_readScalar scalar start stop (.text depth) s
  | .array start items (.closed stop), v, depth, h, hdepth => by
    rw [Node.value?, Option.map_eq_some_iff] at h
    obtain ⟨vs, hvs, rfl⟩ := h
    obtain ⟨inner, hinner, henter⟩ := Origin.enter_text hdepth start
    have hitems := agreeItems_of_itemValues? items hvs hinner
    refine ⟨skip_of_agreeItems hitems stop, fun s => ?_⟩
    rw [valueOf?_array]
    exact toOption_readArray henter hitems s
  | .object start entries (.closed stop) nameless, v, depth, h, hdepth => by
    rw [Node.value?, Option.map_eq_some_iff] at h
    obtain ⟨members, hmembers, rfl⟩ := h
    obtain ⟨inner, hinner, henter⟩ := Origin.enter_text hdepth start
    have hparts := agreeMembers_of_entryValues? entries hmembers hinner
    refine ⟨skip_of_agreeMembers hparts stop, fun s => ?_⟩
    rw [valueOf?_object]
    exact toOption_readObject nameless henter hparts s
  | .array _ _ (.cut ..), _, _, h, _ => by cases h
  | .object _ _ (.cut ..) _, _, _, h, _ => by cases h
  | .faulty .., _, _, h, _ => by cases h

/-- The items of an array of a text agree with the values that they are. -/
theorem agreeItems_of_itemValues? : (items : List Item) → {vs : List Json} → {depth : Nat} →
    Json.itemValues? items = some vs → Json.itemsDepth vs < depth →
    AgreeItems (.text depth) (itemParts items) vs
  | [], vs, _, h, _ => by
    obtain rfl := Option.some.inj h
    exact .nil
  | .mk node surplus :: rest, vs, depth, h, hdepth => by
    rw [Json.itemValues?] at h
    split at h
    · next v vs' hv hvs =>
      obtain rfl := Option.some.inj h
      rw [Json.itemsDepth, Nat.max_lt] at hdepth
      exact .cons (agrees_of_value? node hv hdepth.1)
        (agreeItems_of_itemValues? rest hvs hdepth.2)
    · cases h

/-- The members of an object of a text agree with the members that they
are. -/
theorem agreeMembers_of_entryValues? : (entries : List Entry) →
    {members : List (String × Json)} → {depth : Nat} →
    Json.entryValues? entries = some members → Json.membersDepth members < depth →
    AgreeMembers (.text depth) (memberParts entries) members
  | [], members, _, h, _ => by
    obtain rfl := Option.some.inj h
    exact .nil
  | .mk (.ok key) keyStop repeated node surplus :: rest, members, depth, h, hdepth => by
    rw [Json.entryValues?] at h
    split at h
    · next v members' hv hmembers =>
      obtain rfl := Option.some.inj h
      rw [Json.membersDepth, Nat.max_lt] at hdepth
      exact .cons ⟨rfl, agrees_of_value? node hv hdepth.1⟩
        (agreeMembers_of_entryValues? rest hmembers hdepth.2)
    · cases h
  | .mk (.error _) _ _ _ _ :: _, _, _, h, _ => by cases h

end

/-- **A text is read as its value**, if it nests containers at most 127
deep. -/
theorem decodeText_eq_ok_iff {octets : List UInt8} {node : Node} {v : Json}
    (hread : Json.Document.read octets = ⟨node, none⟩) (hnode : node.value? = some v)
    (hdepth : v.depth ≤ 127) (s : Shape) (x : s.Carrier) :
    decodeText s octets = .ok x ↔ valueOf? s v = some x := by
  have hagrees : ((partOf node).read .document s).toOption = valueOf? s v :=
    (agrees_of_value? node hnode (Nat.lt_succ_of_le hdepth)).2 s
  have hdecode : decodeText s octets = (partOf node).read .document s := by
    rw [decodeText, hread]
    cases (partOf node).read .document s <;> rfl
  rw [hdecode, ← hagrees]
  cases (partOf node).read .document s <;> simp [Except.toOption]

end GraphGateway.Wire
