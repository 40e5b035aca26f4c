import GraphGateway.Proofs.Json.Reading
import GraphGateway.Proofs.Wire.Meaning

/-!
# What a text says decides what it is read as

Two nodes may differ in places, in faults that no reader meets, and in the blanks that were
between their tokens. If they say the same, they are read alike: in every shape both are read as
one datum or both fail (`alike_of_outline?`), and skipping either never fails
(`skip_of_outline?`).

So what is read from a text is a function of its outline (`readOutline`,
`toOption_decodeText`), and what is read from a value is one of the outline of the value
(`toOption_decodeValue`). The containers come first: an array is read alike if its items are, as
far as the shape asks for them (`AlikeItems`), and an object if its members are (`AlikeMembers`).
-/

namespace GraphGateway.Wire

open Json (Node Item Entry Ending Fault Scalar Outline)

/-- **Whether two parts are read alike** in a shape. -/
def ReadAlike (origin : Origin) (s : Shape) (p p' : Part) : Prop :=
  (p.read origin s).toOption = (p'.read origin s).toOption

/-- **Whether two parts are alike**: they are read alike in every shape. -/
def Alike (origin : Origin) (p p' : Part) : Prop := ∀ s, ReadAlike origin s p p'

/-- A container is entered in the same way wherever it starts. -/
theorem toOption_enter (origin : Origin) (start start' : Nat) :
    (origin.enter start).toOption = (origin.enter start').toOption := by
  cases origin with
  | value => rfl
  | text depth =>
    unfold Origin.enter
    by_cases h : depth ≤ 1
    · simp only [if_pos h]
      rfl
    · simp only [if_neg h]

/-- What is read behind the start of a container is the same wherever it starts. -/
theorem toOption_enter_bind {α : Type} {origin : Origin} (start start' : Nat)
    {f f' : Origin → Except Fault α}
    (h : ∀ inner, origin.enter start = .ok inner → (f inner).toOption = (f' inner).toOption) :
    (origin.enter start >>= f).toOption = (origin.enter start' >>= f').toOption := by
  rw [toOption_bind, toOption_bind, ← toOption_enter origin start start']
  cases henter : origin.enter start with
  | error => rfl
  | ok inner => exact h inner henter

/-! ## Arrays -/

/-- All items of an array are read alike if each is. -/
theorem toOption_readAll_congr {origin : Origin} {s : Shape} (stop stop' : Nat)
    {items items' : List ItemPart}
    (h : List.Forall₂ (fun item item' => ReadAlike origin s item.part item'.part) items items') :
    (readAll origin s (.closed stop) items).toOption
      = (readAll origin s (.closed stop') items').toOption := by
  induction h with
  | nil => rfl
  | cons hitem _ ih =>
    rw [readAll, readAll, toOption_bind, toOption_bind, hitem]
    congr
    funext x
    rw [toOption_bind, toOption_bind, ih]

/-- Whether the items of two arrays are read alike as the members of a record in their order. -/
inductive AlikePositions (origin : Origin) :
    List MemberLayout → List ItemPart → List ItemPart → Prop where
  /-- There are no more items. -/
  | none (ms : List MemberLayout) : AlikePositions origin ms [] []
  /-- There are too many. -/
  | surplus (item item' : ItemPart) (items items' : List ItemPart) :
    AlikePositions origin [] (item :: items) (item' :: items')
  /-- The first items are read alike, and so are the others. -/
  | item {m : MemberLayout} {ms : List MemberLayout} {item item' : ItemPart}
    {items items' : List ItemPart} (hitem : ReadAlike origin m.shape item.part item'.part)
    (hrest : AlikePositions origin ms items items') :
    AlikePositions origin (m :: ms) (item :: items) (item' :: items')

/-- Records are read alike from arrays if each of their members is. -/
theorem toOption_readPositional_congr {origin : Origin} (k : RecordKind)
    (length length' stop stop' count : Nat) {ms : List MemberLayout} {items items' : List ItemPart}
    (h : AlikePositions origin ms items items') :
    (readPositional origin k length (.closed stop) count ms items).toOption
      = (readPositional origin k length' (.closed stop') count ms items').toOption := by
  induction h generalizing count with
  | none ms =>
    induction ms generalizing count with
    | nil => rfl
    | cons m rest ih =>
      obtain ⟨key, shape, absence⟩ := m
      cases absence with
      | required => rfl
      | inObject => rfl
      | allowed x =>
        show (readPositional origin k length (.closed stop) (count + 1) rest [] >>= _).toOption
          = (readPositional origin k length' (.closed stop') (count + 1) rest [] >>= _).toOption
        rw [toOption_bind, toOption_bind, ih]
  | surplus => cases origin <;> rfl
  | item hitem _ ih =>
    rw [readPositional, readPositional, toOption_bind, toOption_bind, hitem]
    congr
    funext x
    rw [toOption_bind, toOption_bind, ih]

/-- **Whether the items of two arrays are read alike**, as far as a shape asks for them. -/
def AlikeItems (origin : Origin) : Shape → List ItemPart → List ItemPart → Prop
  | .nullable s => AlikeItems origin s
  | .list s => List.Forall₂ fun item item' => ReadAlike origin s item.part item'.part
  | .listOrNull s => List.Forall₂ fun item item' => ReadAlike origin s item.part item'.part
  | .any => List.Forall₂ fun item item' => ReadAlike origin .any item.part item'.part
  | .record k => AlikePositions origin k.layout
  | _ => fun _ _ => True

/-- **Arrays are read alike** if their items are. -/
theorem toOption_readArray_congr {origin : Origin} {s : Shape} (start start' stop stop' : Nat)
    {items items' : List ItemPart}
    (h : ∀ inner, origin.enter start = .ok inner → AlikeItems inner s items items') :
    (readArray start items (.closed stop) origin s).toOption
      = (readArray start' items' (.closed stop') origin s).toOption := by
  induction s with
  | nullable s ih =>
    rw [readArray, readArray, toOption_bind, toOption_bind, ih h]
  | list s =>
    exact toOption_enter_bind start start' fun inner hinner =>
      toOption_readAll_congr stop stop' (h inner hinner)
  | listOrNull s =>
    exact toOption_enter_bind start start' fun inner hinner =>
      toOption_readAll_congr stop stop' (h inner hinner)
  | any =>
    refine toOption_enter_bind start start' fun inner hinner => ?_
    rw [toOption_bind, toOption_bind, toOption_readAll_congr stop stop' (h inner hinner)]
  | record k =>
    refine toOption_enter_bind start start' fun inner hinner => ?_
    rw [toOption_bind, toOption_bind,
      toOption_readPositional_congr k items.length items'.length stop stop' 0 (h inner hinner)]
  | _ => rfl

/-! ## Objects -/

/-- Whether the members of two objects have the same keys, and are read alike in a shape. -/
def AlikeEntries (origin : Origin) (s : Shape) : List MemberPart → List MemberPart → Prop :=
  List.Forall₂ fun part part' =>
    part.key.toOption = part'.key.toOption ∧ ReadAlike origin s part.part part'.part

/-- All members of an object are read alike if each is. -/
theorem toOption_readMap_congr {origin : Origin} {s : Shape} (stop stop' : Nat)
    {parts parts' : List MemberPart} (h : AlikeEntries origin s parts parts')
    (read : List (String × s.Carrier)) :
    (readMap origin s (.closed stop) read parts).toOption
      = (readMap origin s (.closed stop') read parts').toOption := by
  induction h generalizing read with
  | nil => rfl
  | cons hpart _ ih =>
    rw [readMap, readMap, toOption_bind, toOption_bind, hpart.1]
    congr
    funext key
    rw [toOption_bind, toOption_bind, hpart.2]
    congr
    funext x
    exact ih _

/-- Reads the name that stands as a key, with `null` under it. -/
def readName (origin : Origin) (c : Choice) (part : MemberPart) : Except Fault c.Carrier := do
  let key ← part.key
  let value ← chosen c key part.keyStop
  part.part.read origin .nothing
  return value

/-- A name is read alike if its key is the same and what stands under it is read alike. -/
theorem toOption_readName_congr {origin : Origin} (c : Choice) {part part' : MemberPart}
    (hkey : part.key.toOption = part'.key.toOption)
    (hpart : ReadAlike origin .nothing part.part part'.part) :
    (readName origin c part).toOption = (readName origin c part').toOption := by
  rw [readName, readName, toOption_bind, toOption_bind, hkey]
  congr
  funext key
  rw [toOption_bind, toOption_bind, toOption_chosen, toOption_chosen]
  congr
  funext value
  rw [toOption_bind, toOption_bind, hpart]

/-- A name in an object is read alike if the members of the object are. -/
theorem toOption_readNamed_congr {origin : Origin} (c : Choice) (stop stop' : Nat)
    (nameless nameless' : Fault) {parts parts' : List MemberPart}
    (h : AlikeEntries origin .nothing parts parts') :
    (readNamed origin c parts (.closed stop) nameless).toOption
      = (readNamed origin c parts' (.closed stop') nameless').toOption := by
  cases h with
  | nil => cases origin <;> rfl
  | @cons part part' parts parts' hpart hrest =>
    -- a value with two members fails at once, a text only behind the first of them
    cases origin with
    | value =>
      cases hrest with
      | nil => exact toOption_readName_congr c hpart.1 hpart.2
      | cons => rfl
    | text depth =>
      show (readName (.text depth) c part >>= _).toOption
        = (readName (.text depth) c part' >>= _).toOption
      rw [toOption_bind, toOption_bind, toOption_readName_congr c hpart.1 hpart.2]
      congr
      funext value
      cases hrest <;> rfl

/-- What stands under the key of a member is read alike if each part of it is. -/
theorem column?_congr {origin : Origin} (m : MemberLayout) {parts parts' : List Part}
    (h : List.Forall₂ (ReadAlike origin m.shape) parts parts') :
    column? origin m parts = column? origin m parts' := by
  cases h with
  | nil => rfl
  | cons hpart hrest =>
    cases hrest with
    | nil => exact hpart
    | cons => rfl

/-- **Whether the members of two objects are read alike**, as far as a shape asks for them. -/
def AlikeMembers (origin : Origin) : Shape → List MemberPart → List MemberPart → Prop
  | .nullable s => AlikeMembers origin s
  | .any => AlikeEntries origin .any
  | .members => AlikeEntries origin .any
  | .map s => AlikeEntries origin s
  | .choice _ => AlikeEntries origin .nothing
  | .record k => fun parts parts' =>
    ((∃ part ∈ parts, part.key.toOption = none) ↔ ∃ part ∈ parts', part.key.toOption = none)
      ∧ ∀ m ∈ k.layout, column? origin m (partsUnder m.key parts)
        = column? origin m (partsUnder m.key parts')
  | _ => fun _ _ => True

/-- **Objects are read alike** if their members are. -/
theorem toOption_readObject_congr {origin : Origin} {s : Shape} (start start' stop stop' : Nat)
    (nameless nameless' : Fault) {parts parts' : List MemberPart}
    (hskip : ∀ part ∈ parts, part.part.skip = none)
    (hskip' : ∀ part ∈ parts', part.part.skip = none)
    (h : ∀ inner, origin.enter start = .ok inner → AlikeMembers inner s parts parts') :
    (readObject start parts (.closed stop) nameless origin s).toOption
      = (readObject start' parts' (.closed stop') nameless' origin s).toOption := by
  induction s with
  | nullable s ih =>
    rw [readObject, readObject, toOption_bind, toOption_bind, ih h]
  | any =>
    refine toOption_enter_bind start start' fun inner hinner => ?_
    rw [toOption_bind, toOption_bind, toOption_readMap_congr stop stop' (h inner hinner)]
  | members =>
    exact toOption_enter_bind start start' fun inner hinner =>
      toOption_readMap_congr stop stop' (h inner hinner) []
  | map s =>
    exact toOption_enter_bind start start' fun inner hinner =>
      toOption_readMap_congr stop stop' (h inner hinner) []
  | record k =>
    refine toOption_enter_bind start start' fun inner hinner => ?_
    obtain ⟨hnone, hcolumns⟩ := h inner hinner
    rw [toOption_bind, toOption_bind, toOption_readMembers_congr stop stop' k.layout_keys_nodup
      hskip hskip' hnone hcolumns]
  | choice c =>
    exact toOption_enter_bind start start' fun inner hinner =>
      toOption_readNamed_congr c stop stop' nameless nameless' (h inner hinner)
  | _ => rfl

/-! ## Nodes -/

/-- The items of two arrays are read alike in every shape if they are alike. -/
theorem alikeItems_of_alike {origin : Origin} {items items' : List ItemPart}
    (h : List.Forall₂ (fun item item' => Alike origin item.part item'.part) items items')
    (s : Shape) : AlikeItems origin s items items' := by
  have hread : ∀ s, List.Forall₂ (fun item item' => ReadAlike origin s item.part item'.part)
      items items' := fun s => h.imp fun _ _ hitem => hitem s
  induction s with
  | nullable s ih => exact ih
  | list s => exact hread s
  | listOrNull s => exact hread s
  | any => exact hread .any
  | record k =>
    show AlikePositions origin k.layout items items'
    clear hread
    induction k.layout generalizing items items' with
    | nil =>
      cases h with
      | nil => exact .none []
      | cons => exact .surplus ..
    | cons m rest ih =>
      cases h with
      | nil => exact .none _
      | cons hitem hrest => exact .item (hitem m.shape) (ih hrest)
  | _ => trivial

/-- The parts under a key are alike if the members are. -/
theorem forall₂_partsUnder_alike {origin : Origin} (key : String) {parts parts' : List MemberPart}
    (h : List.Forall₂ (fun part part' => part.key.toOption = part'.key.toOption
      ∧ Alike origin part.part part'.part) parts parts') :
    List.Forall₂ (Alike origin) (partsUnder key parts) (partsUnder key parts') := by
  induction h with
  | nil => exact .nil
  | cons hpart _ ih =>
    rw [partsUnder_cons, partsUnder_cons, hpart.1]
    split
    · exact .cons hpart.2 ih
    · exact ih

/-- The members of two objects are read alike in every shape if they are alike. -/
theorem alikeMembers_of_alike {origin : Origin} {parts parts' : List MemberPart}
    (h : List.Forall₂ (fun part part' => part.key.toOption = part'.key.toOption
      ∧ Alike origin part.part part'.part) parts parts') (s : Shape) :
    AlikeMembers origin s parts parts' := by
  have hread : ∀ s, AlikeEntries origin s parts parts' :=
    fun s => h.imp fun _ _ hpart => ⟨hpart.1, hpart.2 s⟩
  induction s with
  | nullable s ih => exact ih
  | any => exact hread .any
  | members => exact hread .any
  | map s => exact hread s
  | choice c => exact hread .nothing
  | record k =>
    refine ⟨?_, fun m _ => column?_congr m ((forall₂_partsUnder_alike m.key h).imp
      fun _ _ hpart => hpart m.shape)⟩
    clear hread
    induction h with
    | nil => simp
    | cons hpart _ ih => simp only [List.exists_mem_cons_iff, hpart.1, ih]
  | _ => trivial

mutual

/-- **A node that says something is skipped without a fault.** -/
theorem skip_of_outline? : (o : Outline) → {node : Node} → node.outline? = some o →
    (partOf node).skip = none
  | .scalar v, node, h => by
    obtain ⟨start, stop, rfl⟩ := Node.eq_scalar_of_outline? h
    rfl
  | .unread, node, h => by
    obtain ⟨likeNull, strict, name, rfl⟩ := Node.eq_faulty_of_outline? h
    rfl
  | .array os, node, h => by
    obtain ⟨start, items, stop, rfl, hitems⟩ := Node.eq_array_of_outline? h
    refine skipContainer_eq_none (fun p hp => ?_) stop
    obtain ⟨item, hitem, rfl⟩ := List.mem_map.mp hp
    exact skip_of_itemOutlines? os hitems item hitem
  | .object os, node, h => by
    obtain ⟨start, entries, stop, nameless, rfl, hentries⟩ := Node.eq_object_of_outline? h
    refine skipContainer_eq_none (fun p hp => ?_) stop
    obtain ⟨part, hpart, rfl⟩ := List.mem_map.mp hp
    exact skip_of_entryOutlines? os hentries part hpart

/-- Items that say something are skipped without a fault. -/
theorem skip_of_itemOutlines? : (os : List Outline) → {items : List Item} →
    Json.itemOutlines? items = some os → ∀ item ∈ itemParts items, item.part.skip = none
  | [], items, h => by
    obtain rfl := Json.eq_nil_of_itemOutlines? h
    exact fun _ hitem => absurd hitem List.not_mem_nil
  | o :: os, items, h => by
    obtain ⟨node, surplus, rest, rfl, hnode, hrest⟩ := Json.eq_cons_of_itemOutlines? h
    exact List.forall_mem_cons.mpr ⟨skip_of_outline? o hnode, skip_of_itemOutlines? os hrest⟩

/-- Members that say something are skipped without a fault. -/
theorem skip_of_entryOutlines? : (os : List (Option String × Outline)) →
    {entries : List Entry} → Json.entryOutlines? entries = some os →
    ∀ part ∈ memberParts entries, part.part.skip = none
  | [], entries, h => by
    obtain rfl := Json.eq_nil_of_entryOutlines? h
    exact fun _ hpart => absurd hpart List.not_mem_nil
  | (key, o) :: os, entries, h => by
    obtain ⟨_, _, _, node, _, rest, rfl, -, hnode, hrest⟩ := Json.eq_cons_of_entryOutlines? h
    exact List.forall_mem_cons.mpr ⟨skip_of_outline? o hnode, skip_of_entryOutlines? os hrest⟩

end

mutual

/-- **Nodes that say the same are read alike**, wherever they come from. -/
theorem alike_of_outline? : (o : Outline) → {node node' : Node} → node.outline? = some o →
    node'.outline? = some o → ∀ origin, Alike origin (partOf node) (partOf node')
  | .scalar v, node, node', h, h', origin => by
    obtain ⟨start, stop, rfl⟩ := Node.eq_scalar_of_outline? h
    obtain ⟨start', stop', rfl⟩ := Node.eq_scalar_of_outline? h'
    exact fun s => (toOption_readScalar v start stop origin s).trans
      (toOption_readScalar v start' stop' origin s).symm
  | .unread, node, node', h, h', origin => by
    obtain ⟨likeNull, strict, name, rfl⟩ := Node.eq_faulty_of_outline? h
    obtain ⟨likeNull', strict', name', rfl⟩ := Node.eq_faulty_of_outline? h'
    exact fun _ => rfl
  | .array os, node, node', h, h', origin => by
    obtain ⟨start, items, stop, rfl, hitems⟩ := Node.eq_array_of_outline? h
    obtain ⟨start', items', stop', rfl, hitems'⟩ := Node.eq_array_of_outline? h'
    exact fun s => toOption_readArray_congr start start' stop stop' fun inner _ =>
      alikeItems_of_alike (alike_of_itemOutlines? os hitems hitems' inner) s
  | .object os, node, node', h, h', origin => by
    obtain ⟨start, entries, stop, nameless, rfl, hentries⟩ := Node.eq_object_of_outline? h
    obtain ⟨start', entries', stop', nameless', rfl, hentries'⟩ := Node.eq_object_of_outline? h'
    exact fun s => toOption_readObject_congr start start' stop stop' nameless nameless'
      (skip_of_entryOutlines? os hentries) (skip_of_entryOutlines? os hentries') fun inner _ =>
        alikeMembers_of_alike (alike_of_entryOutlines? os hentries hentries' inner) s

/-- Items that say the same are read alike. -/
theorem alike_of_itemOutlines? : (os : List Outline) → {items items' : List Item} →
    Json.itemOutlines? items = some os → Json.itemOutlines? items' = some os → ∀ origin,
    List.Forall₂ (fun item item' => Alike origin item.part item'.part)
      (itemParts items) (itemParts items')
  | [], items, items', h, h', _ => by
    obtain rfl := Json.eq_nil_of_itemOutlines? h
    obtain rfl := Json.eq_nil_of_itemOutlines? h'
    exact .nil
  | o :: os, items, items', h, h', origin => by
    obtain ⟨node, _, rest, rfl, hnode, hrest⟩ := Json.eq_cons_of_itemOutlines? h
    obtain ⟨node', _, rest', rfl, hnode', hrest'⟩ := Json.eq_cons_of_itemOutlines? h'
    exact .cons (alike_of_outline? o hnode hnode' origin)
      (alike_of_itemOutlines? os hrest hrest' origin)

/-- Members that say the same have the same keys, and are read alike. -/
theorem alike_of_entryOutlines? : (os : List (Option String × Outline)) →
    {entries entries' : List Entry} → Json.entryOutlines? entries = some os →
    Json.entryOutlines? entries' = some os → ∀ origin,
    List.Forall₂ (fun part part' => part.key.toOption = part'.key.toOption
        ∧ Alike origin part.part part'.part) (memberParts entries) (memberParts entries')
  | [], entries, entries', h, h', _ => by
    obtain rfl := Json.eq_nil_of_entryOutlines? h
    obtain rfl := Json.eq_nil_of_entryOutlines? h'
    exact .nil
  | (key, o) :: os, entries, entries', h, h', origin => by
    obtain ⟨read, _, _, node, _, rest, rfl, hkey, hnode, hrest⟩ :=
      Json.eq_cons_of_entryOutlines? h
    obtain ⟨read', _, _, node', _, rest', rfl, hkey', hnode', hrest'⟩ :=
      Json.eq_cons_of_entryOutlines? h'
    exact .cons ⟨hkey.trans hkey'.symm, alike_of_outline? o hnode hnode' origin⟩
      (alike_of_entryOutlines? os hrest hrest' origin)

end

/-! ## Outlines are read -/

/-- **What an outline is read as** in a shape, if it has the shape. -/
def readOutline (origin : Origin) (s : Shape) (o : Outline) : Option s.Carrier :=
  ((partOf o.node).read origin s).toOption

/-- **A node is read as its outline.** -/
theorem toOption_read_of_outline? {node : Node} {o : Outline} (h : node.outline? = some o)
    (origin : Origin) (s : Shape) :
    ((partOf node).read origin s).toOption = readOutline origin s o :=
  alike_of_outline? o h (Json.outline?_node o) origin s

/-- **What is read from a text** is what its outline is read as. -/
theorem toOption_decodeText {o : Outline} {text : List UInt8}
    (h : Json.Grammar.SpellsDocument o text) (s : Shape) :
    (decodeText s text).toOption = readOutline .document s o := by
  obtain ⟨node, hread, hnode⟩ := Json.Grammar.read_of_spellsDocument h
  rw [← toOption_read_of_outline? hnode, decodeText, hread]
  show ((partOf node).read .document s >>= _).toOption = _
  rw [toOption_bind]
  cases ((partOf node).read .document s).toOption <;> rfl

/-- **What is read from a value** is what its outline is read as. -/
theorem toOption_decodeValue (s : Shape) (v : Json) :
    (decodeValue s v).toOption = readOutline .value s v.outline := by
  rw [← toOption_read_of_outline? (Json.outline?_nodeOf v)]
  unfold decodeValue
  cases (partOf (nodeOf v)).read .value s <;> rfl

end GraphGateway.Wire
