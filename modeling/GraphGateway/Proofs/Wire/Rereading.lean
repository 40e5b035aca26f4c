import GraphGateway.Proofs.Wire.Free

/-!
# Reading a text twice

A text can be read as data of a shape at once, or as any value first, and then the value as data of
the shape. The value that comes between is not the one that is written: its objects are sorted, and
of members with one key only the last is left. Still nothing is lost on the way. What the text is
read as at once, the value stands for too (`valueOf?_of_decodeText`).

The other way round it need not be so. A record may have members that it does not know, and they are
skipped where the text is read at once; whoever reads any value has to look at them.
-/

namespace GraphGateway

namespace Wire

open Json (Node Item Entry Ending Fault)

/-! ## Values that stand for the same -/

/-- **Whether a value can be read twice**: what it stands for in a shape, it stands for as well when
it was read as any value before. -/
def Rereads (w : Json) : Prop :=
  ∀ v, valueOf? .any w = some v → ∀ (s : Shape) (x : s.Carrier), valueOf? s w = some x →
    valueOf? s v = some x

/-- A scalar stands for itself. -/
theorem rereads_ofScalar (scalar : Json.Scalar) : Rereads (.ofScalar scalar) := by
  intro v hv s x hx
  rw [valueOf?_ofScalar] at hv
  obtain rfl := Option.some.inj hv
  exact hx

section Array

variable {ws vs : List Json}

/-- Items can be read twice, all in one shape. -/
theorem mapM_valueOf?_of_rereads (hws : ∀ w ∈ ws, Rereads w)
    (hvs : ws.mapM (valueOf? .any) = some vs) {s : Shape} {xs : List s.Carrier}
    (hxs : ws.mapM (valueOf? s) = some xs) : vs.mapM (valueOf? s) = some xs := by
  induction ws generalizing vs xs with
  | nil =>
    obtain rfl := Option.some.inj hvs
    exact hxs
  | cons w ws ih =>
    obtain ⟨hw, hws⟩ := List.forall_mem_cons.mp hws
    rw [List.mapM_cons] at hvs hxs
    obtain ⟨v, hv, hvs⟩ := Option.bind_eq_some_iff.mp hvs
    obtain ⟨vs', hvs', hvs⟩ := Option.bind_eq_some_iff.mp hvs
    obtain ⟨x, hx, hxs⟩ := Option.bind_eq_some_iff.mp hxs
    obtain ⟨xs', hxs', hxs⟩ := Option.bind_eq_some_iff.mp hxs
    obtain rfl := Option.some.inj hvs
    rw [List.mapM_cons, hw v hv s x hx, ih hws hvs' hxs']
    exact hxs

/-- Items can be read twice, as the members of a record in their order. -/
theorem positionsOf?_of_rereads (hws : ∀ w ∈ ws, Rereads w)
    (hvs : ws.mapM (valueOf? .any) = some vs) {ms : List MemberLayout} {xs : Values ms}
    (hxs : positionsOf? ms ws = some xs) : positionsOf? ms vs = some xs := by
  induction ms generalizing ws vs with
  | nil =>
    cases ws with
    | nil =>
      obtain rfl := Option.some.inj hvs
      exact hxs
    | cons w ws => cases hxs
  | cons m ms ih =>
    cases ws with
    | nil =>
      obtain rfl := Option.some.inj hvs
      exact hxs
    | cons w ws =>
      obtain ⟨hw, hws⟩ := List.forall_mem_cons.mp hws
      rw [List.mapM_cons] at hvs
      obtain ⟨v, hv, hvs⟩ := Option.bind_eq_some_iff.mp hvs
      obtain ⟨vs', hvs', hvs⟩ := Option.bind_eq_some_iff.mp hvs
      obtain rfl := Option.some.inj hvs
      rw [positionsOf?] at hxs
      obtain ⟨x, hx, hxs⟩ := Option.bind_eq_some_iff.mp hxs
      obtain ⟨ys, hys, hxs⟩ := Option.map_eq_some_iff.mp hxs
      rw [positionsOf?, hw v hv _ x hx, Option.bind_some, ih hws hvs' hys, ← hxs]
      rfl

/-- **An array can be read twice** if its items can. -/
theorem rereads_array (hws : ∀ w ∈ ws, Rereads w) : Rereads (.array ws) := by
  intro v hv s x hx
  rw [valueOf?_array, arrayOf?] at hv
  obtain ⟨vs, hvs, rfl⟩ := Option.map_eq_some_iff.mp hv
  rw [valueOf?_array] at hx ⊢
  induction s with
  | nullable s ih =>
    obtain ⟨y, hy, rfl⟩ := Option.map_eq_some_iff.mp hx
    exact congrArg (Option.map some) (ih y hy)
  | list s => exact mapM_valueOf?_of_rereads hws hvs hx
  | listOrNull s => exact mapM_valueOf?_of_rereads hws hvs hx
  | any =>
    obtain ⟨ys, hys, rfl⟩ := Option.map_eq_some_iff.mp hx
    exact congrArg (Option.map Json.array) (mapM_valueOf?_of_rereads hws hvs hys)
  | record k =>
    obtain ⟨ys, hys, rfl⟩ := Option.map_eq_some_iff.mp hx
    exact congrArg (Option.map k.build) (positionsOf?_of_rereads hws hvs hys)
  | _ => cases hx

end Array

section Object

variable {members entries : List (String × Json)}

/-- What members stand for, one after another. -/
theorem entriesOf?_cons (s : Shape) (member : String × Json) (members : List (String × Json)) :
    entriesOf? s (member :: members) = (valueOf? s member.2).bind fun x =>
      (entriesOf? s members).map fun xs => (member.1, x) :: xs := by
  rw [entriesOf?, List.mapM_cons]
  cases valueOf? s member.2 with
  | none => rfl
  | some x => exact (Option.map_eq_bind ..).symm

/-- Members can be read twice, all in one shape. -/
theorem entriesOf?_of_rereads (hmembers : ∀ member ∈ members, Rereads member.2)
    (hentries : entriesOf? .any members = some entries) {s : Shape}
    {xs : List (String × s.Carrier)} (hxs : entriesOf? s members = some xs) :
    entriesOf? s entries = some xs := by
  induction members generalizing entries xs with
  | nil =>
    obtain rfl := Option.some.inj hentries
    exact hxs
  | cons member members ih =>
    obtain ⟨hmember, hmembers⟩ := List.forall_mem_cons.mp hmembers
    rw [entriesOf?_cons] at hentries hxs
    obtain ⟨v, hv, hentries⟩ := Option.bind_eq_some_iff.mp hentries
    obtain ⟨rest, hrest, rfl⟩ := Option.map_eq_some_iff.mp hentries
    obtain ⟨x, hx, hxs⟩ := Option.bind_eq_some_iff.mp hxs
    obtain ⟨ys, hys, rfl⟩ := Option.map_eq_some_iff.mp hxs
    rw [entriesOf?_cons, hmember v hv s x hx, ih hmembers hrest hys]
    rfl

/-- A member that is put into an object is put into what the object stands for. -/
theorem entriesOf?_insert {s : Shape} {key : String} {v : Json} {x : s.Carrier}
    (hx : valueOf? s v = some x) {xs : List (String × s.Carrier)}
    (hxs : entriesOf? s entries = some xs) :
    entriesOf? s (Keyed.insert key v entries) = some (Keyed.insert key x xs) := by
  induction entries generalizing xs with
  | nil =>
    obtain rfl := Option.some.inj hxs
    rw [Keyed.insert, entriesOf?_cons, hx]
    rfl
  | cons entry entries ih =>
    have hall := hxs
    rw [entriesOf?_cons] at hxs
    obtain ⟨y, hy, hxs⟩ := Option.bind_eq_some_iff.mp hxs
    obtain ⟨ys, hys, rfl⟩ := Option.map_eq_some_iff.mp hxs
    rw [Keyed.insert, Keyed.insert]
    split
    · rw [entriesOf?_cons, hx, hys]
      rfl
    split
    · rw [entriesOf?_cons, hx, hall]
      rfl
    · rw [entriesOf?_cons, hy, ih hys]
      rfl

/-- The map of some members stands for the map of what they stand for. -/
theorem entriesOf?_ofList {s : Shape} {xs : List (String × s.Carrier)}
    (hxs : entriesOf? s entries = some xs) :
    entriesOf? s (Keyed.ofList entries) = some (Keyed.ofList xs) := by
  suffices hfold : ∀ (map : List (String × Json)) (ys : List (String × s.Carrier)),
      entriesOf? s map = some ys →
      entriesOf? s (entries.foldl (fun map entry => Keyed.insert entry.1 entry.2 map) map)
        = some (xs.foldl (fun map entry => Keyed.insert entry.1 entry.2 map) ys) from
    hfold [] [] rfl
  induction entries generalizing xs with
  | nil =>
    obtain rfl := Option.some.inj hxs
    exact fun map ys h => h
  | cons entry entries ih =>
    intro map ys h
    rw [entriesOf?_cons] at hxs
    obtain ⟨y, hy, hxs⟩ := Option.bind_eq_some_iff.mp hxs
    obtain ⟨rest, hrest, rfl⟩ := Option.map_eq_some_iff.mp hxs
    exact ih hrest _ _ (entriesOf?_insert hy h)

/-- The values under a key are read as those under the key. -/
theorem mapM_valuesUnder (key : String) (hentries : entriesOf? .any members = some entries) :
    (valuesUnder key members).mapM (valueOf? .any) = some (valuesUnder key entries) := by
  induction members generalizing entries with
  | nil =>
    obtain rfl := Option.some.inj hentries
    rfl
  | cons member members ih =>
    rw [entriesOf?_cons] at hentries
    obtain ⟨v, hv, hentries⟩ := Option.bind_eq_some_iff.mp hentries
    obtain ⟨rest, hrest, rfl⟩ := Option.map_eq_some_iff.mp hentries
    rw [valuesUnder_cons, valuesUnder_cons]
    split
    · rw [List.mapM_cons, hv, ih hrest]
      rfl
    · exact ih hrest

/-- In a sorted object there is at most one value under a key. -/
theorem valuesUnder_of_sorted (hsorted : Keyed.Sorted members) (key : String) :
    valuesUnder key members = (members.lookup key).toList := by
  induction members with
  | nil => rfl
  | cons member members ih =>
    obtain ⟨hfirst, hsorted⟩ := List.pairwise_cons.mp hsorted
    rw [valuesUnder_cons, Keyed.lookup_cons_eq]
    by_cases hkey : key = member.1
    · -- all further keys are behind this one
      have hnone : members.filter (·.1 == key) = [] :=
        List.filter_eq_nil_iff.mpr fun other hother => by
          simpa [hkey] using (String.ne_of_lt (hfirst other hother)).symm
      rw [if_pos (beq_iff_eq.mpr hkey.symm), if_pos hkey, valuesUnder, hnone]
      rfl
    · rw [if_neg (by simpa using Ne.symm hkey), if_neg hkey, ih hsorted]

/-- In the map of some members, the last value under a key is left. -/
theorem valuesUnder_ofList (key : String) (entries : List (String × Json)) :
    valuesUnder key (Keyed.ofList entries) = (valuesUnder key entries).getLast?.toList := by
  rw [valuesUnder_of_sorted (Keyed.sorted_ofList entries), Keyed.lookup_ofList, valuesUnder]

/-- The values under a key can be read twice, as a member of a record. -/
theorem columnOf?_of_rereads (hmembers : ∀ member ∈ members, Rereads member.2)
    (hentries : entriesOf? .any members = some entries) {m : MemberLayout} {x : m.shape.Carrier}
    (hx : columnOf? m (valuesUnder m.key members) = some x) :
    columnOf? m (valuesUnder m.key (Keyed.ofList entries)) = some x := by
  have hvalues := mapM_valuesUnder m.key hentries
  have hrereads : ∀ w ∈ valuesUnder m.key members, Rereads w := fun w hw => by
    obtain ⟨member, hmember, rfl⟩ := List.mem_map.mp hw
    exact hmembers member (List.mem_filter.mp hmember).1
  rw [valuesUnder_ofList]
  -- a record takes no key twice, and so none of its values is dropped
  match valuesUnder m.key members, hvalues, hrereads, hx with
  | [], hvalues, _, hx =>
    rw [← Option.some.inj hvalues]
    exact hx
  | [w], hvalues, hrereads, hx =>
    rw [List.mapM_cons] at hvalues
    obtain ⟨v, hv, hvalues⟩ := Option.bind_eq_some_iff.mp hvalues
    rw [← Option.some.inj hvalues]
    exact hrereads w (List.mem_singleton_self w) v hv m.shape x hx

/-- Members can be read twice, as those of a record. -/
theorem columnsOf?_of_rereads (hmembers : ∀ member ∈ members, Rereads member.2)
    (hentries : entriesOf? .any members = some entries) {ms : List MemberLayout} {xs : Values ms}
    (hxs : columnsOf? ms members = some xs) : columnsOf? ms (Keyed.ofList entries) = some xs := by
  induction ms with
  | nil => exact hxs
  | cons m ms ih =>
    rw [columnsOf?] at hxs
    obtain ⟨x, hx, hxs⟩ := Option.bind_eq_some_iff.mp hxs
    obtain ⟨ys, hys, rfl⟩ := Option.map_eq_some_iff.mp hxs
    rw [columnsOf?, columnOf?_of_rereads hmembers hentries hx, Option.bind_some, ih hys]
    rfl

/-- **An object can be read twice** if its members can. -/
theorem rereads_object (hmembers : ∀ member ∈ members, Rereads member.2) :
    Rereads (.object members) := by
  intro v hv s x hx
  rw [valueOf?_object, objectOf?] at hv
  obtain ⟨entries, hentries, rfl⟩ := Option.map_eq_some_iff.mp hv
  have hmap {s : Shape} {xs : List (String × s.Carrier)} (hxs : entriesOf? s members = some xs) :
      (entriesOf? s (Keyed.ofList entries)).map Keyed.ofList = some (Keyed.ofList xs) := by
    rw [entriesOf?_ofList (entriesOf?_of_rereads hmembers hentries hxs), Option.map_some,
      Keyed.ofList_eq_self (Keyed.sorted_ofList xs)]
  rw [valueOf?_object] at hx ⊢
  induction s with
  | nullable s ih =>
    obtain ⟨y, hy, rfl⟩ := Option.map_eq_some_iff.mp hx
    exact congrArg (Option.map some) (ih y hy)
  | any =>
    obtain ⟨ys, hys, rfl⟩ := Option.map_eq_some_iff.mp hx
    have hobject := congrArg (Option.map Json.object) (hmap hys)
    rwa [Option.map_map] at hobject
  | members =>
    obtain ⟨ys, hys, rfl⟩ := Option.map_eq_some_iff.mp hx
    exact hmap hys
  | map s =>
    obtain ⟨ys, hys, rfl⟩ := Option.map_eq_some_iff.mp hx
    exact hmap hys
  | record k =>
    obtain ⟨ys, hys, rfl⟩ := Option.map_eq_some_iff.mp hx
    exact congrArg (Option.map k.build) (columnsOf?_of_rereads hmembers hentries hys)
  | choice c =>
    -- a name stands alone, with null behind it
    obtain _ | ⟨⟨key, w⟩, _ | _⟩ := members
    · cases hx
    · rw [entriesOf?_cons] at hentries
      obtain ⟨u, hu, hentries⟩ := Option.bind_eq_some_iff.mp hentries
      obtain rfl := Option.some.inj hentries
      obtain ⟨value, hvalue, hx⟩ := Option.bind_eq_some_iff.mp hx
      obtain ⟨_, hnull, rfl⟩ := Option.map_eq_some_iff.mp hx
      have hagain := List.forall_mem_singleton.mp hmembers u hu .nothing _ hnull
      show ((c.names.lookup key).bind fun x => (valueOf? .nothing u).map fun _ => x) = some value
      rw [hvalue, Option.bind_some, hagain]
      rfl
    · cases hx
  | _ => cases hx

end Object

/-! ## Every value -/

mutual

/-- **Every value can be read twice.** -/
theorem rereads : (w : Json) → Rereads w
  | .null => rereads_ofScalar .null
  | .bool b => rereads_ofScalar (.bool b)
  | .number n => rereads_ofScalar (.number n)
  | .string s => rereads_ofScalar (.string s)
  | .array items => rereads_array (rereads_of_mem_items items)
  | .object members => rereads_object (rereads_of_mem_members members)

/-- Every item can be read twice. -/
theorem rereads_of_mem_items : (items : List Json) → ∀ item ∈ items, Rereads item
  | [] => List.forall_mem_nil _
  | first :: rest => List.forall_mem_cons.mpr ⟨rereads first, rereads_of_mem_items rest⟩

/-- Every member can be read twice. -/
theorem rereads_of_mem_members :
    (members : List (String × Json)) → ∀ member ∈ members, Rereads member.2
  | [] => List.forall_mem_nil _
  | (_, first) :: rest => List.forall_mem_cons.mpr ⟨rereads first, rereads_of_mem_members rest⟩

end

/-! ## Texts that are read as any value -/

/-- Items that were read are all there are, and each of them was read. -/
theorem closed_of_readAll {origin : Origin} {s : Shape} {ending : Ending} {parts : List ItemPart}
    {xs : List s.Carrier} (h : readAll origin s ending parts = .ok xs) :
    (∃ stop, ending = .closed stop)
      ∧ ∀ part ∈ parts, ∃ x, part.part.read origin s = .ok x := by
  induction parts generalizing xs with
  | nil =>
    cases ending with
    | closed stop => exact ⟨⟨stop, rfl⟩, List.forall_mem_nil _⟩
    | cut => cases h
  | cons part rest ih =>
    obtain ⟨x, hx, h⟩ := bind_eq_ok h
    obtain ⟨others, hothers, -⟩ := bind_eq_ok h
    obtain ⟨hending, hrest⟩ := ih hothers
    exact ⟨hending, List.forall_mem_cons.mpr ⟨⟨x, hx⟩, hrest⟩⟩

/-- Members that were read are all there are, and each of them was read. -/
theorem closed_of_readMap {origin : Origin} {s : Shape} {ending : Ending} {parts : List MemberPart}
    {read entries : List (String × s.Carrier)}
    (h : readMap origin s ending read parts = .ok entries) :
    (∃ stop, ending = .closed stop)
      ∧ ∀ part ∈ parts, (∃ key, part.key = .ok key) ∧ ∃ x, part.part.read origin s = .ok x := by
  induction parts generalizing read with
  | nil =>
    cases ending with
    | closed stop => exact ⟨⟨stop, rfl⟩, List.forall_mem_nil _⟩
    | cut => cases h
  | cons part rest ih =>
    obtain ⟨key, hkey, h⟩ := bind_eq_ok h
    obtain ⟨x, hx, h⟩ := bind_eq_ok h
    obtain ⟨hending, hrest⟩ := ih h
    exact ⟨hending, List.forall_mem_cons.mpr ⟨⟨⟨key, hkey⟩, ⟨x, hx⟩⟩, hrest⟩⟩

mutual

/-- **A node that is read as any value** is a value, and the text may nest its containers. -/
theorem exists_value?_of_read : (node : Node) → ∀ {v : Json} {room : Nat},
    (partOf node).read (.text (room + 1)) .any = .ok v →
    ∃ w, node.value? = some w ∧ w.depth ≤ room
  | .scalar scalar start stop, v, room, _ =>
    ⟨.ofScalar scalar, rfl, by cases scalar <;> exact Nat.zero_le room⟩
  | .array start items ending, v, room, h => by
    obtain ⟨inner, henter, h⟩ := bind_eq_ok h
    obtain ⟨vs, hvs, -⟩ := bind_eq_ok h
    obtain ⟨left, rfl, rfl⟩ := enter_text_eq_ok henter
    obtain ⟨⟨stop, rfl⟩, hitems⟩ := closed_of_readAll hvs
    obtain ⟨ws, hws, hdepth⟩ := exists_itemValues?_of_read items hitems
    exact ⟨.array ws, by rw [Node.value?, hws]; rfl, Nat.succ_le_succ hdepth⟩
  | .object start entries ending nameless, v, room, h => by
    obtain ⟨inner, henter, h⟩ := bind_eq_ok h
    obtain ⟨vs, hvs, -⟩ := bind_eq_ok h
    obtain ⟨left, rfl, rfl⟩ := enter_text_eq_ok henter
    obtain ⟨⟨stop, rfl⟩, hmembers⟩ := closed_of_readMap hvs
    obtain ⟨ws, hws, hdepth⟩ := exists_entryValues?_of_read entries hmembers
    exact ⟨.object ws, by rw [Node.value?, hws]; rfl, Nat.succ_le_succ hdepth⟩
  | .faulty .., _, _, h => by cases h

/-- Items that are read as any value are values. -/
theorem exists_itemValues?_of_read : (items : List Item) → ∀ {room : Nat},
    (∀ part ∈ itemParts items, ∃ v, part.part.read (.text (room + 1)) .any = .ok v) →
    ∃ ws, Json.itemValues? items = some ws ∧ Json.itemsDepth ws ≤ room
  | [], room, _ => ⟨[], rfl, Nat.zero_le room⟩
  | .mk node surplus :: rest, room, h => by
    obtain ⟨⟨v, hv⟩, hrest⟩ := List.forall_mem_cons.mp h
    obtain ⟨w, hw, hdepth⟩ := exists_value?_of_read node hv
    obtain ⟨ws, hws, hmore⟩ := exists_itemValues?_of_read rest hrest
    exact ⟨w :: ws, by rw [Json.itemValues?, hw, hws], Nat.max_le.mpr ⟨hdepth, hmore⟩⟩

/-- Members that are read as any value are values. -/
theorem exists_entryValues?_of_read : (entries : List Entry) → ∀ {room : Nat},
    (∀ part ∈ memberParts entries, (∃ key, part.key = .ok key)
      ∧ ∃ v, part.part.read (.text (room + 1)) .any = .ok v) →
    ∃ ws, Json.entryValues? entries = some ws ∧ Json.membersDepth ws ≤ room
  | [], room, _ => ⟨[], rfl, Nat.zero_le room⟩
  | .mk key keyStop repeated node surplus :: rest, room, h => by
    obtain ⟨⟨⟨text, htext⟩, ⟨v, hv⟩⟩, hrest⟩ := List.forall_mem_cons.mp h
    obtain rfl : key = .ok text := htext
    obtain ⟨w, hw, hdepth⟩ := exists_value?_of_read node hv
    obtain ⟨ws, hws, hmore⟩ := exists_entryValues?_of_read rest hrest
    exact ⟨(text, w) :: ws, by rw [Json.entryValues?, hw, hws], Nat.max_le.mpr ⟨hdepth, hmore⟩⟩

end

/-- **What a text is read as in a shape, its value stands for**: a text that is read as any value
can be read a second time from that value. -/
theorem valueOf?_of_decodeText {octets : List UInt8} {v : Json} {s : Shape} {x : s.Carrier}
    (hany : decodeText .any octets = .ok v) (hx : decodeText s octets = .ok x) :
    valueOf? s v = some x := by
  obtain ⟨value, hvalue, hread⟩ := bind_eq_ok hany
  obtain ⟨w, hw, hdepth⟩ := exists_value?_of_read (Json.Document.read octets).root hvalue
  have hdocument : Json.Document.read octets = ⟨(Json.Document.read octets).root, none⟩ := by
    cases htrailing : (Json.Document.read octets).trailing with
    | some fault =>
      rw [htrailing] at hread
      cases hread
    | none => rw [← htrailing]
  have hall (s : Shape) (x : s.Carrier) := decodeText_eq_ok_iff hdocument hw hdepth s x
  exact rereads w v ((hall .any v).mp hany) s x ((hall s x).mp hx)

end Wire

/-! ## Members of objects that were read -/

namespace Json.IsNormal

open Wire

variable {members : List (String × Json)}

/-- The members of an object that stands for itself are the map of what they stand for. -/
theorem exists_entries (h : (object members).IsNormal) :
    ∃ entries, entriesOf? .any members = some entries ∧ members = Keyed.ofList entries := by
  unfold IsNormal at h
  rw [valueOf?_object, objectOf?] at h
  obtain ⟨entries, hentries, hobject⟩ := Option.map_eq_some_iff.mp h
  exact ⟨entries, hentries, (object.inj hobject).symm⟩

/-- The members of an object that stands for itself are sorted. -/
theorem sorted (h : (object members).IsNormal) : Keyed.Sorted members := by
  obtain ⟨entries, -, rfl⟩ := h.exists_entries
  exact Keyed.sorted_ofList entries

/-- **A member of an object that stands for itself** stands for itself. -/
theorem of_lookup (h : (object members).IsNormal) {key : String} {v : Json}
    (hv : members.lookup key = some v) : v.IsNormal := by
  obtain ⟨entries, hentries, hmembers⟩ := h.exists_entries
  have hunder : valuesUnder key members = [v] := by
    rw [valuesUnder_of_sorted h.sorted, hv]
    rfl
  have hvalues := mapM_valuesUnder key hentries
  have hlast := valuesUnder_ofList key entries
  rw [hunder, List.mapM_cons] at hvalues
  obtain ⟨u, hu, hvalues⟩ := Option.bind_eq_some_iff.mp hvalues
  rw [← hmembers, hunder, ← Option.some.inj hvalues] at hlast
  obtain rfl : v = u := List.singleton_inj.mp hlast
  exact hu

end Json.IsNormal

end GraphGateway
