import GraphGateway.Proofs.Keyed
import GraphGateway.Proofs.Wire.Encoding

/-!
# How deep read data is nested

A text may nest containers only so deep, and every record takes one of its
levels. `Readable room s x` says that `x` can be read where `room` levels are
left. What is readable is made of parts that are readable with one level less
(`Readable.record`, `Readable.listOrNull`, `Readable.map`), or that stand for
what was left out.

What a value stands for is readable where the containers of the value may be
nested (`readable_of_valueOf?`), and a value that is readable is nested no
deeper (`Readable.depth_le`).
-/

namespace GraphGateway.Wire

open Json (Node Item Entry Ending Fault Scalar)

/-- **Whether a datum can be read** from a text that may nest containers `room`
deep. -/
def Readable (room : Nat) (s : Shape) (x : s.Carrier) : Prop :=
  ∃ node, (partOf node).read (.text (room + 1)) s = .ok x

/-! ## Steps of a reader -/

/-- The parts of an array are those of nodes. -/
theorem exists_node_of_mem_itemParts {items : List Item} {item : ItemPart}
    (h : item ∈ itemParts items) : ∃ node, item.part = partOf node := by
  induction items with
  | nil => cases h
  | cons first rest ih =>
    obtain ⟨node, surplus⟩ := first
    rcases List.mem_cons.mp h with rfl | h
    · exact ⟨node, rfl⟩
    · exact ih h

/-- The parts of an object are those of nodes. -/
theorem exists_node_of_mem_memberParts {entries : List Entry} {part : MemberPart}
    (h : part ∈ memberParts entries) : ∃ node, part.part = partOf node := by
  induction entries with
  | nil => cases h
  | cons first rest ih =>
    obtain ⟨key, keyStop, repeated, node, surplus⟩ := first
    rcases List.mem_cons.mp h with rfl | h
    · exact ⟨node, rfl⟩
    · exact ih h

/-- A text that lets a reader into a container has a level for it. -/
theorem enter_text_eq_ok {room start : Nat} {inner : Origin}
    (h : Origin.enter start (.text (room + 1)) = .ok inner) :
    ∃ left, room = left + 1 ∧ inner = .text (left + 1) := by
  rw [Origin.enter] at h
  split at h
  · cases h
  · exact ⟨room - 1, by omega, by rw [← Except.ok.inj h]; congr 1; omega⟩

/-- All items that are read come from items of the array. -/
theorem exists_mem_of_readAll {origin : Origin} {s : Shape} {ending : Ending}
    {items : List ItemPart} {xs : List s.Carrier} (h : readAll origin s ending items = .ok xs)
    {x : s.Carrier} (hx : x ∈ xs) : ∃ item ∈ items, item.part.read origin s = .ok x := by
  induction items generalizing xs with
  | nil =>
    cases ending with
    | closed =>
      obtain rfl := Except.ok.inj h
      cases hx
    | cut => cases h
  | cons item rest ih =>
    obtain ⟨first, hfirst, h⟩ := bind_eq_ok h
    obtain ⟨others, hothers, h⟩ := bind_eq_ok h
    obtain rfl := Except.ok.inj h
    rcases List.mem_cons.mp hx with rfl | hx
    · exact ⟨item, List.mem_cons_self .., hfirst⟩
    · obtain ⟨found, hfound, hread⟩ := ih hothers hx
      exact ⟨found, List.mem_cons_of_mem _ hfound, hread⟩

/-- All members that are read come from members of the object. -/
theorem exists_mem_of_readMap {origin : Origin} {s : Shape} {ending : Ending}
    {parts : List MemberPart} {read entries : List (String × s.Carrier)}
    (h : readMap origin s ending read parts = .ok entries) {entry : String × s.Carrier}
    (hentry : entry ∈ entries) :
    entry ∈ read ∨ ∃ part ∈ parts, part.part.read origin s = .ok entry.2 := by
  induction parts generalizing read with
  | nil =>
    cases ending with
    | closed =>
      obtain rfl := Except.ok.inj h
      exact .inl hentry
    | cut => cases h
  | cons part rest ih =>
    obtain ⟨key, -, h⟩ := bind_eq_ok h
    obtain ⟨x, hx, h⟩ := bind_eq_ok h
    rcases ih h with hread | ⟨found, hfound, hread⟩
    · -- an entry of the map so far is the one that was just put in, or older
      rcases Keyed.mem_insert hread with rfl | hread
      · exact .inr ⟨part, List.mem_cons_self .., hx⟩
      · exact .inl hread
    · exact .inr ⟨found, List.mem_cons_of_mem _ hfound, hread⟩

/-- What is read as a map is sorted. -/
theorem sorted_of_readMap {origin : Origin} {s : Shape} {ending : Ending}
    {parts : List MemberPart} {read entries : List (String × s.Carrier)}
    (h : readMap origin s ending read parts = .ok entries) (hread : Keyed.Sorted read) :
    Keyed.Sorted entries := by
  induction parts generalizing read with
  | nil =>
    cases ending with
    | closed =>
      obtain rfl := Except.ok.inj h
      exact hread
    | cut => cases h
  | cons part rest ih =>
    obtain ⟨key, -, h⟩ := bind_eq_ok h
    obtain ⟨x, -, h⟩ := bind_eq_ok h
    exact ih h (Keyed.sorted_insert hread)

/-! ## Members of records -/

/-- Whether every value of a record's members satisfies a predicate. -/
def Values.Each (P : (m : MemberLayout) → m.shape.Carrier → Prop) :
    (ms : List MemberLayout) → Values ms → Prop
  | [], () => True
  | m :: rest, (x, xs) => P m x ∧ Values.Each P rest xs

/-- Whether every value in a place satisfies a predicate. -/
def Slots.Each (P : (m : MemberLayout) → m.shape.Carrier → Prop) :
    (ms : List MemberLayout) → Slots ms → Prop
  | [], () => True
  | m :: rest, (slot, slots) => (∀ x ∈ slot, P m x) ∧ Slots.Each P rest slots

/-- Whether a value stands for a member that was left out. -/
def MemberLayout.Default (m : MemberLayout) (x : m.shape.Carrier) : Prop :=
  m.absence = .inObject x ∨ m.absence = .allowed x

section Members

variable {P : (m : MemberLayout) → m.shape.Carrier → Prop} {origin : Origin}

/-- No place has a value at first. -/
theorem Slots.each_empty (ms : List MemberLayout) : Slots.Each P ms (Slots.empty ms) := by
  induction ms with
  | nil => trivial
  | cons m rest ih => exact ⟨fun x hx => (by cases hx), ih⟩

/-- **Putting a member into its place** keeps what is true of the places. -/
theorem Slots.each_put {key : String} {repeated : Fault} {part : Part}
    (hpart : ∀ m x, part.read origin m.shape = .ok x → P m x) {ms : List MemberLayout}
    {slots changed : Slots ms} (hslots : Slots.Each P ms slots)
    (h : Slots.put key repeated part origin ms slots = .ok changed) :
    Slots.Each P ms changed := by
  induction ms with
  | nil => trivial
  | cons m rest ih =>
    obtain ⟨slot, slots⟩ := slots
    by_cases hkey : m.key = key
    · cases slot with
      | some x =>
        -- a second member under a key is refused
        simp only [Slots.put, hkey, beq_self_eq_true, if_true] at h
        cases h
      | none =>
        rw [Slots.put_of_eq repeated part slots hkey] at h
        obtain ⟨x, hx, h⟩ := bind_eq_ok h
        obtain rfl := Except.ok.inj h
        refine ⟨fun y hy => ?_, hslots.2⟩
        rw [← Option.some.inj hy]
        exact hpart m x hx
    · rw [Slots.put_of_ne repeated part slot slots hkey] at h
      obtain ⟨others, hothers, h⟩ := bind_eq_ok h
      obtain rfl := Except.ok.inj h
      exact ⟨hslots.1, ih hslots.2 hothers⟩

/-- The values of a record are those of its places, or stand for members that
were left out. -/
theorem Slots.each_values {stop : Nat} {ms : List MemberLayout} {slots : Slots ms}
    {values : Values ms} (hslots : Slots.Each P ms slots)
    (h : Slots.values stop ms slots = .ok values) :
    Values.Each (fun m x => P m x ∨ m.Default x) ms values := by
  induction ms with
  | nil => trivial
  | cons m rest ih =>
    obtain ⟨slot, slots⟩ := slots
    obtain ⟨key, shape, absence⟩ := m
    cases slot with
    | some x =>
      obtain ⟨y, hy, h⟩ := bind_eq_ok h
      obtain rfl := Except.ok.inj hy
      obtain ⟨xs, hxs, h⟩ := bind_eq_ok h
      obtain rfl := Except.ok.inj h
      exact ⟨.inl (hslots.1 x rfl), ih hslots.2 hxs⟩
    | none =>
      -- no member was there, so its default is taken if it has one
      cases absence with
      | required => cases h
      | inObject x =>
        obtain ⟨y, hy, h⟩ := bind_eq_ok h
        obtain rfl := Except.ok.inj hy
        obtain ⟨xs, hxs, h⟩ := bind_eq_ok h
        obtain rfl := Except.ok.inj h
        exact ⟨.inr (.inl rfl), ih hslots.2 hxs⟩
      | allowed x =>
        obtain ⟨y, hy, h⟩ := bind_eq_ok h
        obtain rfl := Except.ok.inj hy
        obtain ⟨xs, hxs, h⟩ := bind_eq_ok h
        obtain rfl := Except.ok.inj h
        exact ⟨.inr (.inr rfl), ih hslots.2 hxs⟩

/-- **The values of a record that is read from an object** come from its
members, or stand for members that were left out. -/
theorem each_of_readMembers {ending : Ending} {parts : List MemberPart} {ms : List MemberLayout}
    (hparts : ∀ part ∈ parts, ∀ m x, part.part.read origin m.shape = .ok x → P m x)
    {slots : Slots ms} (hslots : Slots.Each P ms slots) {values : Values ms}
    (h : readMembers origin ms ending slots parts = .ok values) :
    Values.Each (fun m x => P m x ∨ m.Default x) ms values := by
  induction parts generalizing slots with
  | nil =>
    cases ending with
    | closed stop => exact Slots.each_values hslots h
    | cut => cases h
  | cons part rest ih =>
    obtain ⟨key, -, h⟩ := bind_eq_ok h
    obtain ⟨changed, hchanged, h⟩ := bind_eq_ok h
    exact ih (fun part hpart => hparts part (List.mem_cons_of_mem _ hpart))
      (Slots.each_put (hparts part (List.mem_cons_self ..)) hslots hchanged) h

/-- **The values of a record that is read from an array** come from its items,
or stand for members that were left out. -/
theorem each_of_readPositional {k : RecordKind} {length count : Nat} {ending : Ending}
    {items : List ItemPart} {ms : List MemberLayout}
    (hitems : ∀ item ∈ items, ∀ m x, item.part.read origin m.shape = .ok x → P m x)
    {values : Values ms}
    (h : readPositional origin k length ending count ms items = .ok values) :
    Values.Each (fun m x => P m x ∨ m.Default x) ms values := by
  induction ms generalizing items count with
  | nil => trivial
  | cons m rest ih =>
    cases items with
    | cons item items =>
      obtain ⟨x, hx, h⟩ := bind_eq_ok h
      obtain ⟨xs, hxs, h⟩ := bind_eq_ok h
      obtain rfl := Except.ok.inj h
      exact ⟨.inl (hitems item (List.mem_cons_self ..) m x hx),
        ih (fun item hitem => hitems item (List.mem_cons_of_mem _ hitem)) hxs⟩
    | nil =>
      obtain ⟨key, shape, absence⟩ := m
      cases ending with
      | cut => cases h
      | closed stop =>
        cases absence with
        | allowed x =>
          obtain ⟨xs, hxs, h⟩ := bind_eq_ok h
          obtain rfl := Except.ok.inj h
          exact ⟨.inr (.inr rfl), ih hitems hxs⟩
        | required => cases h
        | inObject => cases h

end Members

/-! ## What readable data is made of -/

/-- **A record that is readable** is built from values that are readable with
one level less, or that stand for what was left out. -/
theorem Readable.record {room : Nat} {k : RecordKind} {x : k.Carrier}
    (h : Readable room (.record k) x) :
    ∃ left values, room = left + 1 ∧ x = k.build values
      ∧ Values.Each (fun m x => Readable left m.shape x ∨ m.Default x) k.layout values := by
  obtain ⟨node, h⟩ := h
  cases node with
  | scalar v start stop => cases v <;> cases h
  | faulty => cases h
  | array start items ending =>
    -- the container takes a level, and its parts are nodes again
    obtain ⟨inner, henter, h⟩ := bind_eq_ok h
    obtain ⟨values, hvalues, hbuild⟩ := bind_eq_ok h
    obtain ⟨left, hroom, rfl⟩ := enter_text_eq_ok henter
    refine ⟨left, values, hroom, (Except.ok.inj hbuild).symm, each_of_readPositional ?_ hvalues⟩
    intro item hitem m x hx
    obtain ⟨node, hnode⟩ := exists_node_of_mem_itemParts hitem
    exact ⟨node, hnode ▸ hx⟩
  | object start entries ending nameless =>
    obtain ⟨inner, henter, h⟩ := bind_eq_ok h
    obtain ⟨values, hvalues, hbuild⟩ := bind_eq_ok h
    obtain ⟨left, hroom, rfl⟩ := enter_text_eq_ok henter
    refine ⟨left, values, hroom, (Except.ok.inj hbuild).symm,
      each_of_readMembers ?_ (Slots.each_empty _) hvalues⟩
    intro part hpart m x hx
    obtain ⟨node, hnode⟩ := exists_node_of_mem_memberParts hpart
    exact ⟨node, hnode ▸ hx⟩

/-- **What is there and may be missing** is readable by itself. -/
theorem Readable.nullable {room : Nat} {s : Shape} {x : s.Carrier}
    (h : Readable room (.nullable s) (some x)) : Readable room s x := by
  obtain ⟨node, h⟩ := h
  refine ⟨node, ?_⟩
  cases node with
  | scalar v start stop =>
    cases v with
    | null => cases h
    | _ =>
      obtain ⟨y, hy, h⟩ := bind_eq_ok h
      rw [← Option.some.inj (Except.ok.inj h)]
      exact hy
  | faulty => cases h
  | array start items ending =>
    obtain ⟨y, hy, h⟩ := bind_eq_ok h
    rw [← Option.some.inj (Except.ok.inj h)]
    exact hy
  | object start entries ending nameless =>
    obtain ⟨y, hy, h⟩ := bind_eq_ok h
    rw [← Option.some.inj (Except.ok.inj h)]
    exact hy

/-- **The items of a list that is readable** are readable with one level
less. -/
theorem Readable.listOrNull {room : Nat} {s : Shape} {xs : List s.Carrier}
    (h : Readable room (.listOrNull s) xs) {x : s.Carrier} (hx : x ∈ xs) :
    ∃ left, room = left + 1 ∧ Readable left s x := by
  obtain ⟨node, h⟩ := h
  cases node with
  | scalar v start stop =>
    cases v with
    | null =>
      obtain rfl := Except.ok.inj h
      cases hx
    | _ => cases h
  | faulty => cases h
  | object => cases h
  | array start items ending =>
    obtain ⟨inner, henter, hitems⟩ := bind_eq_ok h
    obtain ⟨left, hroom, rfl⟩ := enter_text_eq_ok henter
    obtain ⟨item, hitem, hread⟩ := exists_mem_of_readAll hitems hx
    obtain ⟨node, hnode⟩ := exists_node_of_mem_itemParts hitem
    exact ⟨left, hroom, node, hnode ▸ hread⟩

/-- A list that is readable is readable where it may be `null`. -/
theorem Readable.listOrNull_of_list {room : Nat} {s : Shape} {xs : List s.Carrier}
    (h : Readable room (.list s) xs) : Readable room (.listOrNull s) xs := by
  obtain ⟨node, h⟩ := h
  refine ⟨node, ?_⟩
  cases node with
  | scalar v start stop => cases v <;> cases h
  | faulty => cases h
  | object => cases h
  | array start items ending => exact h

/-- **The members of a map that is readable** are readable with one level
less. -/
theorem Readable.map {room : Nat} {s : Shape} {entries : List (String × s.Carrier)}
    (h : Readable room (.map s) entries) {entry : String × s.Carrier} (hentry : entry ∈ entries) :
    ∃ left, room = left + 1 ∧ Readable left s entry.2 := by
  obtain ⟨node, h⟩ := h
  cases node with
  | scalar v start stop => cases v <;> cases h
  | faulty => cases h
  | array => cases h
  | object start members ending nameless =>
    obtain ⟨inner, henter, hmembers⟩ := bind_eq_ok h
    obtain ⟨left, hroom, rfl⟩ := enter_text_eq_ok henter
    rcases exists_mem_of_readMap hmembers hentry with hnone | ⟨part, hpart, hread⟩
    · cases hnone
    · obtain ⟨node, hnode⟩ := exists_node_of_mem_memberParts hpart
      exact ⟨left, hroom, node, hnode ▸ hread⟩

/-- **A map that is readable is sorted.** -/
theorem Readable.sorted {room : Nat} {s : Shape} {entries : List (String × s.Carrier)}
    (h : Readable room (.map s) entries) : Keyed.Sorted entries := by
  obtain ⟨node, h⟩ := h
  cases node with
  | scalar v start stop => cases v <;> cases h
  | faulty => cases h
  | array => cases h
  | object start members ending nameless =>
    obtain ⟨inner, henter, hmembers⟩ := bind_eq_ok h
    exact sorted_of_readMap hmembers .nil

/-- **An instant that is readable is dated.** -/
theorem Readable.isDated {room : Nat} {t : Time.Instant} (h : Readable room .timestamp t) :
    t.IsDated := by
  obtain ⟨node, h⟩ := h
  cases node with
  | scalar v start stop =>
    cases v with
    | string s =>
      have h : readScalar (.string s) start stop (.text (room + 1)) .timestamp = .ok t := h
      simp only [readScalar] at h
      split at h
      · next parsed hparse =>
        rw [← Except.ok.inj h]
        exact Time.Instant.isDated_of_parse hparse
      · cases h
    | _ => cases h
  | faulty => cases h
  | array => cases h
  | object => cases h

/-- **Whether a property holds of every value that is read**, where containers may
be nested a number deep: it holds of scalars, and containers keep it and take a
level. The members of an object that was read are sorted. -/
structure HoldsOfRead (P : Nat → Json → Prop) : Prop where
  /-- It holds of scalars. -/
  scalar : ∀ room scalar, P room (Json.ofScalar scalar)
  /-- It holds of an array if it holds of the items. -/
  array : ∀ room vs, (∀ v ∈ vs, P room v) → P (room + 1) (.array vs)
  /-- It holds of an object if it holds of the members. -/
  object : ∀ room members, Keyed.Sorted members →
    (∀ member ∈ members, P room member.2) → P (room + 1) (.object members)

namespace HoldsOfRead

variable {P : Nat → Json → Prop}

mutual

/-- Such a property holds of a value that is read from a node. -/
theorem node (hP : HoldsOfRead P) : (node : Node) → ∀ {v : Json} {room : Nat},
    (partOf node).read (.text (room + 1)) .any = .ok v → P room v
  | .scalar scalar start stop, v, room, h => by
    obtain rfl := Except.ok.inj h
    exact hP.scalar room scalar
  | .array start items ending, v, room, h => by
    obtain ⟨inner, henter, h⟩ := bind_eq_ok h
    obtain ⟨vs, hvs, hv⟩ := bind_eq_ok h
    obtain ⟨left, rfl, rfl⟩ := enter_text_eq_ok henter
    rw [← Except.ok.inj hv]
    refine hP.array left vs fun item hitem => ?_
    obtain ⟨part, hpart, hread⟩ := exists_mem_of_readAll hvs hitem
    exact hP.items items part hpart hread
  | .object start entries ending nameless, v, room, h => by
    obtain ⟨inner, henter, h⟩ := bind_eq_ok h
    obtain ⟨members, hmembers, hv⟩ := bind_eq_ok h
    obtain ⟨left, rfl, rfl⟩ := enter_text_eq_ok henter
    rw [← Except.ok.inj hv]
    refine hP.object left members (sorted_of_readMap hmembers .nil) fun member hmember => ?_
    rcases exists_mem_of_readMap hmembers hmember with hnone | ⟨part, hpart, hread⟩
    · cases hnone
    · exact hP.members entries part hpart hread
  | .faulty .., _, _, h => by cases h

/-- It holds of every value that is read from an item. -/
theorem items (hP : HoldsOfRead P) : (items : List Item) → ∀ part ∈ itemParts items,
    ∀ {v : Json} {room : Nat}, part.part.read (.text (room + 1)) .any = .ok v → P room v
  | [], part, hpart => by cases hpart
  | .mk node surplus :: rest, part, hpart => by
    intro h
    rcases List.mem_cons.mp hpart with rfl | hpart
    · exact hP.node node h
    · exact hP.items rest part hpart h

/-- It holds of every value that is read from a member. -/
theorem members (hP : HoldsOfRead P) : (entries : List Entry) →
    ∀ part ∈ memberParts entries, ∀ {v : Json} {room : Nat},
      part.part.read (.text (room + 1)) .any = .ok v → P room v
  | [], part, hpart => by cases hpart
  | .mk key keyStop repeated node surplus :: rest, part, hpart => by
    intro h
    rcases List.mem_cons.mp hpart with rfl | hpart
    · exact hP.node node h
    · exact hP.members rest part hpart h

end

end HoldsOfRead

/-- **Induction over a value that is readable.** -/
theorem Readable.holds {P : Nat → Json → Prop} (hP : HoldsOfRead P) {room : Nat} {v : Json}
    (h : Readable room .any v) : P room v := by
  obtain ⟨node, h⟩ := h
  exact hP.node node h

/-- **A value that is readable** is nested no deeper than the text may be. -/
theorem Readable.depth_le {room : Nat} {v : Json} (h : Readable room .any v) : v.depth ≤ room := by
  have hdepth : HoldsOfRead fun room v => v.depth ≤ room :=
    { scalar := fun room scalar => by cases scalar <;> exact Nat.zero_le room
      array := fun room vs hvs => Nat.succ_le_succ ((Json.itemsDepth_le_iff vs room).mpr hvs)
      object := fun room members _ hmembers =>
        Nat.succ_le_succ ((Json.membersDepth_le_iff members room).mpr hmembers) }
  exact h.holds hdepth

/-- **What a value stands for is readable** where the containers of the value
may be nested. -/
theorem readable_of_valueOf? {s : Shape} {v : Json} {x : s.Carrier} {room : Nat}
    (hdepth : v.depth ≤ room) (h : valueOf? s v = some x) : Readable room s x := by
  have hagrees := (agrees_of_value? (nodeOf v) (Node.value?_nodeOf v)
    (Nat.lt_succ_of_le hdepth)).2 s
  rw [h] at hagrees
  refine ⟨nodeOf v, ?_⟩
  cases hread : (partOf (nodeOf v)).read (.text (room + 1)) s with
  | error e =>
    rw [hread] at hagrees
    cases hagrees
  | ok y =>
    rw [hread] at hagrees
    rw [Option.some.inj hagrees]

/-- What is read from a text is readable at its full depth. -/
theorem readable_of_decodeText {s : Shape} {octets : List UInt8} {x : s.Carrier}
    (h : decodeText s octets = .ok x) : Readable 127 s x := by
  obtain ⟨value, hvalue, h⟩ := bind_eq_ok h
  refine ⟨(Json.Document.read octets).root, ?_⟩
  cases htrailing : (Json.Document.read octets).trailing with
  | some fault =>
    rw [htrailing] at h
    cases h
  | none =>
    rw [htrailing] at h
    rw [← Except.ok.inj h]
    exact hvalue

end GraphGateway.Wire
