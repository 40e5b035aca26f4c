import GraphGateway.Proofs.Wire.Alike
import Mathlib.Tactic.FinCases

/-!
# Absent, `null` and empty lists are interchangeable

A backend may leave a list out, write it as `null`, or write it as an empty array. `Varies` tells
all the ways to go from one of them to another: in the object form of a record, `null` under the
key of a list is replaced by an empty array or left out with its key, at any number of places and
at any depth. It is a relation between outlines, so that blanks, the spelling of strings and
numbers, and tokens without a value are covered (`ListsInterchangeable`).

What varies is read alike (`readOutline_of_varies`), by induction on the variation. Two things
have to be seen. Each key of a list names a member that may be absent and `null`
(`eq_many_of_key_mem`), in every record. And an empty array takes a level of nesting that `null`
does not take, but no list stands so deep in a record that a text could not nest it
(`Shape.levels`, `RecordKind.levels_le`).
-/

namespace GraphGateway.Wire

open Json (Outline Scalar)

/-! ## Variations -/

/-- **The keys of the lists** that may be absent, `null` or empty. -/
def listKeys : List String :=
  ["types", "directives", "fields", "args", "inputFields", "interfaces", "enumValues",
    "possibleTypes", "locations", "path", "errors"]

mutual

/-- **The variations of an outline** that is to be read in a shape. -/
inductive Varies : Shape → Outline → Outline → Prop where
  /-- Nothing is replaced. -/
  | same (s : Shape) (o : Outline) : Varies s o o
  /-- Something is replaced in a value that may be `null`. -/
  | nullable {s : Shape} {o o' : Outline} (h : Varies s o o') : Varies (.nullable s) o o'
  /-- Something is replaced in the items of a list. -/
  | list {s : Shape} {os os' : List Outline} (h : VariesItems s os os') :
    Varies (.listOrNull s) (.array os) (.array os')
  /-- Something is replaced in the members of a record in array form. -/
  | positions {k : RecordKind} {os os' : List Outline} (h : VariesPositions k.layout os os') :
    Varies (.record k) (.array os) (.array os')
  /-- Something is replaced in the members of a record in object form. -/
  | members {k : RecordKind} {os os' : List (Option String × Outline)}
    (h : VariesMembers k os os') : Varies (.record k) (.object os) (.object os')

/-- The variations of the items of a list. -/
inductive VariesItems : Shape → List Outline → List Outline → Prop where
  /-- There are no more items. -/
  | nil (s : Shape) : VariesItems s [] []
  /-- An item varies, and so do the others. -/
  | cons {s : Shape} {o o' : Outline} {os os' : List Outline} (h : Varies s o o')
    (hrest : VariesItems s os os') : VariesItems s (o :: os) (o' :: os')

/-- The variations of the members of a record in array form. -/
inductive VariesPositions : List MemberLayout → List Outline → List Outline → Prop where
  /-- There are no more items. -/
  | nil (ms : List MemberLayout) : VariesPositions ms [] []
  /-- There are too many items. -/
  | surplus (os : List Outline) : VariesPositions [] os os
  /-- An item varies, and so do the others. -/
  | cons {m : MemberLayout} {ms : List MemberLayout} {o o' : Outline} {os os' : List Outline}
    (h : Varies m.shape o o') (hrest : VariesPositions ms os os') :
    VariesPositions (m :: ms) (o :: os) (o' :: os')

/-- The variations of the members of a record in object form. -/
inductive VariesMembers : RecordKind → List (Option String × Outline) →
    List (Option String × Outline) → Prop where
  /-- There are no more members. -/
  | nil (k : RecordKind) : VariesMembers k [] []
  /-- A member stays, whatever it is. -/
  | keep {k : RecordKind} {os os' : List (Option String × Outline)}
    (member : Option String × Outline) (hrest : VariesMembers k os os') :
    VariesMembers k (member :: os) (member :: os')
  /-- A member of the record varies. -/
  | vary {k : RecordKind} {m : MemberLayout} {o o' : Outline}
    {os os' : List (Option String × Outline)} (hm : m ∈ k.layout) (h : Varies m.shape o o')
    (hrest : VariesMembers k os os') :
    VariesMembers k ((some m.key, o) :: os) ((some m.key, o') :: os')
  /-- A list that is `null` is empty instead. -/
  | empty {k : RecordKind} {m : MemberLayout} {os os' : List (Option String × Outline)}
    (hm : m ∈ k.layout) (hkey : m.key ∈ listKeys) (hrest : VariesMembers k os os') :
    VariesMembers k ((some m.key, .scalar .null) :: os) ((some m.key, .array []) :: os')
  /-- A list that is `null` is absent instead. -/
  | omit {k : RecordKind} {m : MemberLayout} {os os' : List (Option String × Outline)}
    (hm : m ∈ k.layout) (hkey : m.key ∈ listKeys) (hrest : VariesMembers k os os') :
    VariesMembers k ((some m.key, .scalar .null) :: os) os'

end

/-- **Whether lists are interchangeable** in a record: whether it is read, and as what, is the same
for all texts of what varies, and for all values. -/
structure ListsInterchangeable (k : RecordKind) : Prop where
  /-- Every JSON text has an outline, so that none is left out. -/
  document : ∀ {text : List UInt8}, Json.Grammar.IsDocument text →
    ∃ o, Json.Grammar.SpellsDocument o text
  /-- They are in texts. -/
  text : ∀ {o o' : Outline} {text text' : List UInt8}, Json.Grammar.SpellsDocument o text →
    Json.Grammar.SpellsDocument o' text' → o.NoRepeats → Varies (.record k) o o' →
    (decodeText (.record k) text').toOption = (decodeText (.record k) text).toOption
  /-- They are in values. -/
  value : ∀ {v v' : Json}, v.outline.NoRepeats → Varies (.record k) v.outline v'.outline →
    (decodeValue (.record k) v').toOption = (decodeValue (.record k) v).toOption

/-! ## Places of lists -/

/-- **Each key of a list names a list** that may be absent and may be `null`. -/
theorem eq_many_of_key_mem {k : RecordKind} {m : MemberLayout} (hm : m ∈ k.layout)
    (hkey : m.key ∈ listKeys) : ∃ key s, m = many key s := by
  cases k <;> fin_cases hm <;>
    first
    | exact ⟨_, _, rfl⟩
    | exact absurd hkey (by decide)

/-! ## Levels of nesting -/

/-- **The levels down to the deepest list** of a record that may be absent. -/
def RecordKind.levels : RecordKind → Nat
  | field | directive | responseError => 2
  | typeDefinition | response => 4
  | schema => 6
  | server | introspection => 7
  | request | location | typeRef | rootType | inputValue | enumValue | config => 0

/-- The levels down to the deepest list of a shape that may be absent. -/
def Shape.levels : Shape → Nat
  | nullable s => s.levels
  | listOrNull s => s.levels + 1
  | record k => k.levels
  | _ => 0

/-- **A record takes a level.** -/
theorem RecordKind.levels_le (k : RecordKind) : ∀ m ∈ k.layout, m.shape.levels ≤ k.levels - 1 := by
  cases k <;> decide

/-- **Whether a number of levels may be nested** where a node comes from. -/
def Origin.HasRoom (n : Nat) : Origin → Prop
  | text depth => n < depth
  | value => True

/-- Where there is room for some levels there is room for fewer. -/
theorem Origin.HasRoom.mono {m n : Nat} {origin : Origin} (h : origin.HasRoom n) (hle : m ≤ n) :
    origin.HasRoom m := by
  cases origin with
  | value => trivial
  | text depth => exact Nat.lt_of_le_of_lt hle h

/-- A container that is entered has taken a level. -/
theorem Origin.HasRoom.enter {n start : Nat} {origin inner : Origin} (h : origin.HasRoom n)
    (henter : origin.enter start = .ok inner) : inner.HasRoom (n - 1) := by
  cases origin with
  | value =>
    obtain rfl := Except.ok.inj henter
    trivial
  | text depth =>
    rw [Origin.enter] at henter
    split at henter
    · cases henter
    · obtain rfl := Except.ok.inj henter
      show n - 1 < depth - 1
      have h : n < depth := h
      omega

/-- A container is entered where there is room for it. -/
theorem Origin.HasRoom.exists_enter {n : Nat} {origin : Origin} (h : origin.HasRoom (n + 1))
    (start : Nat) : ∃ inner, origin.enter start = .ok inner := by
  cases origin with
  | value => exact ⟨.value, rfl⟩
  | text depth =>
    have h : n + 1 < depth := h
    exact ⟨.text (depth - 1), if_neg (by omega)⟩

/-! ## What varies is read alike -/

/-- What stands for a scalar does not vary. -/
theorem Varies.eq_of_scalar {s : Shape} {o o' : Outline} {v : Scalar} :
    Varies s o o' → o = .scalar v ∨ o' = .scalar v → o = o'
  | .same .., _ => rfl
  | .nullable h, hv => h.eq_of_scalar hv
  | .list _, hv => by rcases hv with hv | hv <;> cases hv
  | .positions _, hv => by rcases hv with hv | hv <;> cases hv
  | .members _, hv => by rcases hv with hv | hv <;> cases hv

/-- What is not `null` is read as a value that is there. -/
theorem readOutline_nullable {origin : Origin} (s : Shape) {o : Outline} (h : o ≠ .scalar .null) :
    readOutline origin (.nullable s) o = (readOutline origin s o).map some := by
  cases o with
  | scalar v =>
    exact toOption_readScalar_nullable (fun hv => h (congrArg Outline.scalar hv)) 0 0 origin s
  | unread => rfl
  | array os =>
    show (readArray 0 (itemParts (Json.itemNodes os)) (.closed 0) origin s >>= _).toOption
      = (readArray 0 (itemParts (Json.itemNodes os)) (.closed 0) origin s).toOption.map some
    cases readArray 0 (itemParts (Json.itemNodes os)) (.closed 0) origin s <;> rfl
  | object os =>
    show (readObject 0 (memberParts (Json.memberNodes os)) (.closed 0) noFault origin s
        >>= _).toOption
      = (readObject 0 (memberParts (Json.memberNodes os)) (.closed 0) noFault origin
        s).toOption.map some
    cases readObject 0 (memberParts (Json.memberNodes os)) (.closed 0) noFault origin s <;> rfl

/-- **`null` and the empty array are read as the empty list**, where there is room for it. -/
theorem readOutline_listOrNull {origin : Origin} {s : Shape}
    (hroom : origin.HasRoom (s.levels + 1)) :
    readOutline origin (.listOrNull s) (.scalar .null) = some []
      ∧ readOutline origin (.listOrNull s) (.array []) = some [] := by
  refine ⟨rfl, ?_⟩
  obtain ⟨inner, henter⟩ := hroom.exists_enter 0
  show (origin.enter 0 >>= _).toOption = _
  rw [henter]
  rfl

/-! ### Keys -/

/-- **The keys of some members**, of those that have one. -/
abbrev keysOf (os : List (Option String × Outline)) : List String := os.filterMap Prod.fst

/-- The parts under a key in the members of an outline. -/
abbrev outlinesUnder (key : String) (os : List (Option String × Outline)) : List Part :=
  partsUnder key (memberParts (Json.memberNodes os))

/-- A key stands at the first member, or behind it. -/
theorem mem_keysOf_cons {key : String} {member : Option String × Outline}
    {os : List (Option String × Outline)} :
    key ∈ keysOf (member :: os) ↔ member.1 = some key ∨ key ∈ keysOf os := by
  simp [keysOf, List.mem_filterMap]

/-- The keys behind the first member are different if all are. -/
theorem nodup_keysOf_of_cons {member : Option String × Outline}
    {os : List (Option String × Outline)} (h : (keysOf (member :: os)).Nodup) :
    (keysOf os).Nodup := by
  cases hkey : member.1 with
  | none => rwa [keysOf, List.filterMap_cons_none hkey] at h
  | some key =>
    rw [keysOf, List.filterMap_cons_some hkey, List.nodup_cons] at h
    exact h.2

/-- The part of the first member stands under its key. -/
theorem outlinesUnder_cons (key : String) (member : Option String × Outline)
    (os : List (Option String × Outline)) :
    outlinesUnder key (member :: os)
      = if member.1 = some key then partOf member.2.node :: outlinesUnder key os
        else outlinesUnder key os := by
  obtain ⟨read, o⟩ := member
  show partsUnder key (_ :: _) = _
  rw [partsUnder_cons]
  cases read <;> simp [Except.toOption]

/-- Where a key does not stand there are no parts under it. -/
theorem outlinesUnder_eq_nil {key : String} {os : List (Option String × Outline)}
    (h : key ∉ keysOf os) : outlinesUnder key os = [] := by
  induction os with
  | nil => rfl
  | cons member os ih =>
    rw [mem_keysOf_cons, not_or] at h
    rw [outlinesUnder_cons, if_neg h.1, ih h.2]

/-- **No variation adds a key.** -/
theorem VariesMembers.notMem_keysOf {k : RecordKind} {os os' : List (Option String × Outline)} :
    VariesMembers k os os' → ∀ {key : String}, key ∉ keysOf os → key ∉ keysOf os'
  | .nil _, _, h => h
  | .keep member hrest, key, h => by
    rw [mem_keysOf_cons, not_or] at h ⊢
    exact ⟨h.1, hrest.notMem_keysOf h.2⟩
  | .vary _ _ hrest, key, h | .empty _ _ hrest, key, h => by
    rw [mem_keysOf_cons, not_or] at h ⊢
    exact ⟨h.1, hrest.notMem_keysOf h.2⟩
  | .omit _ _ hrest, key, h => by
    rw [mem_keysOf_cons, not_or] at h
    exact hrest.notMem_keysOf h.2

/-- A key that stands at the first member does not stand behind it, nor in what varies there. -/
theorem VariesMembers.fresh {k : RecordKind} {key : String} {member : Option String × Outline}
    {os os' : List (Option String × Outline)} (h : VariesMembers k os os')
    (hkeys : (keysOf (member :: os)).Nodup) (hkey : member.1 = some key) :
    key ∉ keysOf os ∧ key ∉ keysOf os' := by
  rw [keysOf, List.filterMap_cons_some hkey, List.nodup_cons] at hkeys
  exact ⟨hkeys.1, h.notMem_keysOf hkeys.1⟩

/-- Members without a key are parts without one. -/
theorem exists_key_eq_none_iff (os : List (Option String × Outline)) :
    (∃ part ∈ memberParts (Json.memberNodes os), part.key.toOption = none)
      ↔ ∃ o, (none, o) ∈ os := by
  induction os with
  | nil => simp [Json.memberNodes, memberParts]
  | cons member os ih =>
    obtain ⟨read, o⟩ := member
    cases read with
    | none => exact iff_of_true ⟨_, List.mem_cons_self .., rfl⟩ ⟨o, List.mem_cons_self ..⟩
    | some key =>
      rw [Json.memberNodes, memberParts]
      simp only [List.mem_cons, exists_eq_or_imp, ih]
      simp [Except.toOption]

/-- **A variation keeps the members without a key.** -/
theorem VariesMembers.none_mem_iff {k : RecordKind} {os os' : List (Option String × Outline)} :
    VariesMembers k os os' → ((∃ o, (none, o) ∈ os) ↔ ∃ o, (none, o) ∈ os')
  | .nil _ => Iff.rfl
  | .keep member hrest => by
    simp only [List.mem_cons, exists_or, hrest.none_mem_iff]
  | .vary _ _ hrest | .empty _ _ hrest | .omit _ _ hrest => by
    simp [hrest.none_mem_iff]

/-- Members read alike under a key if the first of them are, and the others are. -/
theorem column?_cons_congr {origin : Origin} {m : MemberLayout} {key : Option String}
    {o o' : Outline} {os os' : List (Option String × Outline)}
    (hfresh : key = some m.key → m.key ∉ keysOf os ∧ m.key ∉ keysOf os')
    (hvalue : key = some m.key → readOutline origin m.shape o = readOutline origin m.shape o')
    (hrest : column? origin m (outlinesUnder m.key os)
      = column? origin m (outlinesUnder m.key os')) :
    column? origin m (outlinesUnder m.key ((key, o) :: os))
      = column? origin m (outlinesUnder m.key ((key, o') :: os')) := by
  rw [outlinesUnder_cons, outlinesUnder_cons]
  by_cases hkey : key = some m.key
  · obtain ⟨hos, hos'⟩ := hfresh hkey
    rw [if_pos hkey, if_pos hkey, outlinesUnder_eq_nil hos, outlinesUnder_eq_nil hos']
    exact hvalue hkey
  · rw [if_neg hkey, if_neg hkey, hrest]

/-- The members of a record are told apart by their keys. -/
theorem eq_of_key_eq {k : RecordKind} {m m' : MemberLayout} (hm : m ∈ k.layout)
    (hm' : m' ∈ k.layout) (h : m.key = m'.key) : m = m' :=
  List.inj_on_of_nodup_map k.layout_keys_nodup hm hm' h

/-! ### Records -/

mutual

/-- **What varies is read alike**, where there is room for the lists. -/
theorem readOutline_of_varies {s : Shape} {o o' : Outline} : Varies s o o' → o.NoRepeats →
    ∀ {origin : Origin}, origin.HasRoom s.levels → readOutline origin s o = readOutline origin s o'
  | .same .., _, _, _ => rfl
  | @Varies.nullable s o o' h, hrepeats, _, hroom => by
    -- a value that is `null` stays so, and no other becomes it
    by_cases hnull : o = .scalar .null ∨ o' = .scalar .null
    · rw [h.eq_of_scalar hnull]
    · rw [not_or] at hnull
      rw [readOutline_nullable _ hnull.1, readOutline_nullable _ hnull.2,
        readOutline_of_varies h hrepeats hroom]
  | .list h, hrepeats, _, hroom =>
    toOption_readArray_congr 0 0 0 0 fun _ henter =>
      readAlike_of_variesItems h hrepeats (hroom.enter henter)
  | @Varies.positions k _ _ h, hrepeats, _, hroom =>
    toOption_readArray_congr 0 0 0 0 fun _ henter =>
      alikePositions_of_variesPositions h hrepeats fun m hm =>
        (hroom.enter henter).mono (k.levels_le m hm)
  | @Varies.members k os os' h, hrepeats, _, hroom =>
    toOption_readObject_congr 0 0 0 0 noFault noFault
      (skip_of_entryOutlines? os (Json.entryOutlines?_memberNodes os))
      (skip_of_entryOutlines? os' (Json.entryOutlines?_memberNodes os')) fun _ henter =>
        ⟨by rw [exists_key_eq_none_iff, exists_key_eq_none_iff, h.none_mem_iff],
          column?_of_variesMembers h hrepeats.1 hrepeats.2 fun m hm =>
            (hroom.enter henter).mono (k.levels_le m hm)⟩

/-- The items of lists that vary are read alike. -/
theorem readAlike_of_variesItems {s : Shape} {os os' : List Outline} : VariesItems s os os' →
    Outline.NoneRepeats os → ∀ {origin : Origin}, origin.HasRoom s.levels →
    List.Forall₂ (fun item item' => ReadAlike origin s item.part item'.part)
      (itemParts (Json.itemNodes os)) (itemParts (Json.itemNodes os'))
  | .nil _, _, _, _ => .nil
  | .cons h hrest, hrepeats, _, hroom =>
    .cons (readOutline_of_varies h hrepeats.1 hroom)
      (readAlike_of_variesItems hrest hrepeats.2 hroom)

/-- The members of records in array form that vary are read alike. -/
theorem alikePositions_of_variesPositions {ms : List MemberLayout} {os os' : List Outline} :
    VariesPositions ms os os' → Outline.NoneRepeats os → ∀ {origin : Origin},
    (∀ m ∈ ms, origin.HasRoom m.shape.levels) →
    AlikePositions origin ms (itemParts (Json.itemNodes os)) (itemParts (Json.itemNodes os'))
  | .nil ms, _, _, _ => .none ms
  | .surplus [], _, _, _ => .none []
  | .surplus (_ :: _), _, _, _ => .surplus ..
  | .cons h hrest, hrepeats, _, hroom =>
    .item (readOutline_of_varies h hrepeats.1 (hroom _ (List.mem_cons_self ..)))
      (alikePositions_of_variesPositions hrest hrepeats.2
        fun m hm => hroom m (List.mem_cons_of_mem _ hm))

/-- What stands under each key of records in object form that vary is read alike. -/
theorem column?_of_variesMembers {k : RecordKind} {os os' : List (Option String × Outline)} :
    VariesMembers k os os' → (keysOf os).Nodup → Outline.NoMemberRepeats os →
    ∀ {origin : Origin}, (∀ m ∈ k.layout, origin.HasRoom m.shape.levels) → ∀ m ∈ k.layout,
    column? origin m (outlinesUnder m.key os) = column? origin m (outlinesUnder m.key os')
  | .nil _, _, _, _, _, _, _ => rfl
  | .keep member hrest, hkeys, hrepeats, _, hroom, m, hm => by
    exact column?_cons_congr (hrest.fresh hkeys) (fun _ => rfl)
      (column?_of_variesMembers hrest (nodup_keysOf_of_cons hkeys) hrepeats.2 hroom m hm)
  | .vary hm₀ h hrest, hkeys, hrepeats, _, hroom, m, hm => by
    refine column?_cons_congr (hrest.fresh hkeys) (fun hkey => ?_)
      (column?_of_variesMembers hrest (nodup_keysOf_of_cons hkeys) hrepeats.2 hroom m hm)
    obtain rfl := eq_of_key_eq hm₀ hm (Option.some.inj hkey)
    exact readOutline_of_varies h hrepeats.1 (hroom _ hm)
  | .empty hm₀ hlist hrest, hkeys, hrepeats, _, hroom, m, hm => by
    refine column?_cons_congr (hrest.fresh hkeys) (fun hkey => ?_)
      (column?_of_variesMembers hrest (nodup_keysOf_of_cons hkeys) hrepeats.2 hroom m hm)
    obtain rfl := eq_of_key_eq hm₀ hm (Option.some.inj hkey)
    have hroom := hroom _ hm
    obtain ⟨key, s, rfl⟩ := eq_many_of_key_mem hm hlist
    obtain ⟨hnull, hempty⟩ := readOutline_listOrNull hroom
    exact hnull.trans hempty.symm
  | .omit hm₀ hlist hrest, hkeys, hrepeats, _, hroom, m, hm => by
    have ih := column?_of_variesMembers hrest (nodup_keysOf_of_cons hkeys) hrepeats.2 hroom m hm
    rw [outlinesUnder_cons]
    split
    · next hkey =>
      -- nothing stands under the key any more, and the list is empty in both
      obtain ⟨hos, hos'⟩ := hrest.fresh hkeys hkey
      rw [outlinesUnder_eq_nil hos, outlinesUnder_eq_nil hos']
      obtain rfl := eq_of_key_eq hm₀ hm (Option.some.inj hkey)
      obtain ⟨key, s, rfl⟩ := eq_many_of_key_mem hm hlist
      rfl
    · exact ih

end

/-- **Lists are interchangeable** in every record, whether they are absent, `null` or empty. -/
theorem listsInterchangeable (k : RecordKind) : ListsInterchangeable k := by
  have hroom : Origin.document.HasRoom (Shape.record k).levels := by
    show k.levels < 128
    cases k <;> decide
  constructor
  · exact Json.Grammar.exists_spellsDocument
  · intro o o' text text' htext htext' hrepeats h
    rw [toOption_decodeText htext, toOption_decodeText htext']
    exact (readOutline_of_varies h hrepeats hroom).symm
  · intro v v' hrepeats h
    rw [toOption_decodeValue, toOption_decodeValue]
    exact (readOutline_of_varies h hrepeats (show Origin.value.HasRoom _ from trivial)).symm

/-- A schema with a type, of which three lists are given. -/
def schemaWithLists (args interfaces directives : List (String × Json)) : Json :=
  .object
    (("types", .array [.object
      ([("kind", .string "OBJECT"), ("name", .string "Query"),
        ("fields", .array [.object
          (("name", .string "hero") :: args
            ++ [("type", .object [("kind", .string "SCALAR"), ("name", .string "ID")])])])]
        ++ interfaces)])
      :: directives)

/-- A schema is read, in a text and as a value, whether a list of a field is `null` or empty, and
two others are `null` or absent. -/
theorem listsInterchangeable_schema :
    let v := schemaWithLists [("args", .null)] [("interfaces", .null)] [("directives", .null)]
    let v' := schemaWithLists [("args", .array [])] [] []
    (decodeValue (.record .schema) v').toOption = (decodeValue (.record .schema) v).toOption
      ∧ (decodeValue (.record .schema) v).toOption.isSome = true
      ∧ (decodeText (.record .schema) (Text.Utf8.encode (Json.compact v'))).toOption
        = (decodeText (.record .schema) (Text.Utf8.encode (Json.pretty v))).toOption := by
  intro v v'
  have hrepeats : v.outline.NoRepeats := by
    simp [v, schemaWithLists, Json.outline, Json.itemOutlines, Json.memberOutlines,
      Outline.NoRepeats, Outline.NoneRepeats, Outline.NoMemberRepeats]
  have hvaries : Varies (.record .schema) v.outline v'.outline := by
    refine .members (.vary (m := many "types" (.record .typeDefinition)) ?_
      (.list (.cons (.members (.keep _ (.keep _ (.vary (m := many "fields" (.record .field)) ?_
        (.list (.cons (.members (.keep _ (.empty (m := many "args" (.record .inputValue)) ?_
          (by decide) (.keep _ (.nil _))))) (.nil _)))
        (.omit (m := many "interfaces" (.record .typeRef)) ?_ (by decide) (.nil _)))))) (.nil _)))
      (.omit (m := many "directives" (.record .directive)) ?_ (by decide) (.nil _)))
    all_goals simp [RecordKind.layout]
  exact ⟨(listsInterchangeable .schema).value hrepeats hvaries, rfl,
    (listsInterchangeable .schema).text (Json.spellsDocument_pretty rfl)
      (Json.spellsDocument_compact rfl) hrepeats hvaries⟩

end GraphGateway.Wire
