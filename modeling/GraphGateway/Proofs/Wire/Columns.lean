import GraphGateway.Proofs.Except
import GraphGateway.Wire.Decode

/-!
# Members are read by their keys

The members of an object are read one after the other, each into its place. What comes out does
not depend on their order: each member of a record is read from what stands under its key
(`toOption_readMembers`), which is nothing, one value, or more than one, and then it is refused.

So two objects are read alike as a record if what stands under each key of the record is
(`toOption_readMembers_congr`), whatever else is in them.
-/

namespace GraphGateway.Wire

variable {origin : Origin}

/-- **The parts under a key.** -/
def partsUnder (key : String) (parts : List MemberPart) : List Part :=
  (parts.filter fun part => part.key.toOption == some key).map (·.part)

/-- Parts under a key are those of the members with this key. -/
theorem partsUnder_cons (key : String) (part : MemberPart) (parts : List MemberPart) :
    partsUnder key (part :: parts)
      = if part.key.toOption == some key then part.part :: partsUnder key parts
        else partsUnder key parts := by
  rw [partsUnder, List.filter_cons]
  split <;> rfl

/-- **What the parts under the key of a member are read as**: there is at most one of them. -/
def column? (origin : Origin) (m : MemberLayout) : List Part → Option m.shape.Carrier
  | [] =>
    match m.absence with
    | .required => none
    | .inObject x => some x
    | .allowed x => some x
  | [p] => (p.read origin m.shape).toOption
  | _ => none

namespace Slots

/-- What a place and the parts that are still to come under its key are read as. A place with a
value takes no other. -/
def column? (origin : Origin) (m : MemberLayout) :
    Option m.shape.Carrier → List Part → Option m.shape.Carrier
  | none, parts => Wire.column? origin m parts
  | some x, [] => some x
  | some _, _ :: _ => none

/-- What the places of a record and the members that are still to come are read as. -/
def columns? (origin : Origin) : (ms : List MemberLayout) → Slots ms → List MemberPart →
    Option (Values ms)
  | [], (), _ => some ()
  | m :: rest, (slot, slots), parts =>
    (column? origin m slot (partsUnder m.key parts)).bind fun x =>
      (columns? origin rest slots parts).map fun xs => (x, xs)

/-- Without members to come only the places count. -/
theorem toOption_values (stop : Nat) (ms : List MemberLayout) (slots : Slots ms) :
    (values stop ms slots).toOption = columns? origin ms slots [] := by
  induction ms with
  | nil => rfl
  | cons m rest ih =>
    obtain ⟨slot, slots⟩ := slots
    obtain ⟨key, shape, absence⟩ := m
    simp only [values, columns?, ← ih slots]
    cases slot with
    | some x => cases values stop rest slots <;> rfl
    | none =>
      cases absence with
      | required => rfl
      | inObject x => cases values stop rest slots <;> rfl
      | allowed x => cases values stop rest slots <;> rfl

/-- A member counts only for the place with its key. -/
theorem columns?_cons_of_notMem {ms : List MemberLayout} (slots : Slots ms) {part : MemberPart}
    {key : String} (hkey : part.key = .ok key) (parts : List MemberPart)
    (h : key ∉ ms.map MemberLayout.key) :
    columns? origin ms slots (part :: parts) = columns? origin ms slots parts := by
  induction ms with
  | nil => rfl
  | cons m rest ih =>
    obtain ⟨slot, slots⟩ := slots
    rw [List.map_cons, List.mem_cons, not_or] at h
    have hparts : partsUnder m.key (part :: parts) = partsUnder m.key parts := by
      rw [partsUnder_cons, hkey, if_neg (by simpa [Except.toOption] using h.1)]
    simp only [columns?, hparts, ih slots h.2]

/-- A member is put into the first place if that has its key and no value. -/
theorem put_of_eq {key : String} (repeated : Json.Fault) (part : Part) {m : MemberLayout}
    {rest : List MemberLayout} (slots : Slots rest) (h : m.key = key) :
    put key repeated part origin (m :: rest) (none, slots)
      = (part.read origin m.shape >>= fun x => .ok (some x, slots)) := by
  simp only [put, beq_iff_eq, h, if_true]
  rfl

/-- A member is put into a later place if the first has another key. -/
theorem put_of_ne {key : String} (repeated : Json.Fault) (part : Part) {m : MemberLayout}
    {rest : List MemberLayout} (slot : Option m.shape.Carrier) (slots : Slots rest)
    (h : m.key ≠ key) :
    put key repeated part origin (m :: rest) (slot, slots)
      = (put key repeated part origin rest slots >>= fun slots => .ok (slot, slots)) := by
  simp only [put, beq_iff_eq, h, if_false]
  rfl

/-- **One member is put into its place.** -/
theorem toOption_put (repeated : Json.Fault) {part : MemberPart} {key : String}
    (hkey : part.key = .ok key) (hskip : part.part.skip = none) (parts : List MemberPart)
    {ms : List MemberLayout} (hkeys : (ms.map MemberLayout.key).Nodup) (slots : Slots ms) :
    ((put key repeated part.part origin ms slots).toOption.bind fun slots =>
        columns? origin ms slots parts)
      = columns? origin ms slots (part :: parts) := by
  induction ms with
  | nil =>
    rw [put, hskip]
    rfl
  | cons m rest ih =>
    obtain ⟨slot, slots⟩ := slots
    rw [List.map_cons, List.nodup_cons] at hkeys
    -- the key of the member is that of the first place or of none but later ones
    by_cases hm : m.key = key
    · have hparts : partsUnder m.key (part :: parts) = part.part :: partsUnder m.key parts := by
        rw [partsUnder_cons, hkey, if_pos (by simp [Except.toOption, hm])]
      simp only [columns?, hparts, columns?_cons_of_notMem slots hkey parts (hm ▸ hkeys.1)]
      cases slot with
      | some x =>
        simp only [put, hm, beq_self_eq_true, if_true]
        rfl
      | none =>
        rw [put_of_eq repeated part.part slots hm, toOption_bind]
        -- a second value under the key fails, whether the first has the shape or not
        cases hx : part.part.read origin m.shape <;> cases partsUnder m.key parts <;>
          simp [column?, Wire.column?, Except.toOption, hx]
    · have hparts : partsUnder m.key (part :: parts) = partsUnder m.key parts := by
        rw [partsUnder_cons, hkey, if_neg (by simpa [Except.toOption] using Ne.symm hm)]
      rw [put_of_ne repeated part.part slot slots hm, toOption_bind]
      simp only [columns?, hparts, ← ih hkeys.2 slots]
      cases (put key repeated part.part origin rest slots).toOption with
      | none => cases column? origin m slot (partsUnder m.key parts) <;> rfl
      | some slots => rfl

end Slots

/-- **The members of an object are read as those of a record**, each by its key. -/
theorem toOption_readMembers (stop : Nat) {ms : List MemberLayout}
    (hkeys : (ms.map MemberLayout.key).Nodup) {parts : List MemberPart}
    (hparts : ∀ part ∈ parts, part.part.skip = none ∧ ∃ key, part.key = .ok key)
    (slots : Slots ms) :
    (readMembers origin ms (.closed stop) slots parts).toOption
      = slots.columns? origin ms parts := by
  induction parts generalizing slots with
  | nil => exact Slots.toOption_values stop ms slots
  | cons part parts ih =>
    obtain ⟨⟨hskip, key, hkey⟩, hrest⟩ := List.forall_mem_cons.mp hparts
    rw [readMembers, hkey, ← Slots.toOption_put ⟨.repeatedMember key, part.repeated⟩ hkey hskip
      parts hkeys slots]
    show (Slots.put key _ part.part origin ms slots >>= _).toOption = _
    rw [toOption_bind]
    simp only [ih hrest]

/-- Members of which one has no key are not read as a record. -/
theorem toOption_readMembers_of_error (ending : Json.Ending) {ms : List MemberLayout}
    {parts : List MemberPart} {part : MemberPart} (hpart : part ∈ parts)
    (hkey : part.key.toOption = none) (slots : Slots ms) :
    (readMembers origin ms ending slots parts).toOption = none := by
  induction parts generalizing slots with
  | nil => cases hpart
  | cons first parts ih =>
    rw [readMembers, toOption_bind, Option.bind_eq_none_iff]
    intro key hfirst
    rcases List.mem_cons.mp hpart with rfl | hpart
    · rw [hkey] at hfirst
      cases hfirst
    · rw [toOption_bind, Option.bind_eq_none_iff]
      exact fun slots _ => ih hpart slots

/-- Without values in the places only what stands under the keys counts. -/
theorem Slots.columns?_empty_congr {ms : List MemberLayout} {parts parts' : List MemberPart}
    (h : ∀ m ∈ ms, Wire.column? origin m (partsUnder m.key parts)
      = Wire.column? origin m (partsUnder m.key parts')) :
    columns? origin ms (empty ms) parts = columns? origin ms (empty ms) parts' := by
  induction ms with
  | nil => rfl
  | cons m rest ih =>
    obtain ⟨hm, hrest⟩ := List.forall_mem_cons.mp h
    rw [empty, columns?, columns?, ih hrest]
    exact congrArg (Option.bind · _) hm

/-- **Objects are read alike as a record** if they are under each of its keys. -/
theorem toOption_readMembers_congr (stop stop' : Nat) {ms : List MemberLayout}
    (hkeys : (ms.map MemberLayout.key).Nodup) {parts parts' : List MemberPart}
    (hskip : ∀ part ∈ parts, part.part.skip = none)
    (hskip' : ∀ part ∈ parts', part.part.skip = none)
    (hnone : (∃ part ∈ parts, part.key.toOption = none)
      ↔ ∃ part ∈ parts', part.key.toOption = none)
    (h : ∀ m ∈ ms, column? origin m (partsUnder m.key parts)
      = column? origin m (partsUnder m.key parts')) :
    (readMembers origin ms (.closed stop) (Slots.empty ms) parts).toOption
      = (readMembers origin ms (.closed stop') (Slots.empty ms) parts').toOption := by
  have hok : ∀ {parts : List MemberPart}, (∀ part ∈ parts, part.part.skip = none) →
      (¬ ∃ part ∈ parts, part.key.toOption = none) →
      ∀ part ∈ parts, part.part.skip = none ∧ ∃ key, part.key = .ok key := by
    intro parts hskip hall part hpart
    refine ⟨hskip part hpart, ?_⟩
    cases hkey : part.key with
    | ok key => exact ⟨key, rfl⟩
    | error fault => exact absurd ⟨part, hpart, by rw [hkey]; rfl⟩ hall
  by_cases hbad : ∃ part ∈ parts, part.key.toOption = none
  · obtain ⟨part, hpart, hkey⟩ := hbad
    obtain ⟨part', hpart', hkey'⟩ := hnone.mp ⟨part, hpart, hkey⟩
    rw [toOption_readMembers_of_error _ hpart hkey, toOption_readMembers_of_error _ hpart' hkey']
  · rw [toOption_readMembers stop hkeys (hok hskip hbad),
      toOption_readMembers stop' hkeys (hok hskip' (mt hnone.mpr hbad)),
      Slots.columns?_empty_congr h]

/-- The keys of a record's members are all different. -/
theorem RecordKind.layout_keys_nodup (k : RecordKind) : (k.layout.map MemberLayout.key).Nodup := by
  cases k <;> decide

end GraphGateway.Wire
