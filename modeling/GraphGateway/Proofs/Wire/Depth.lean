import GraphGateway.Proofs.Wire.Nesting

/-!
# How deep written records are nested

Writing a record takes no more levels of nesting than were there when it was
read, except for the lists that are written even when they are empty: a
schema takes four levels in any case (`Schema.hasFlatRoots_of_readable`). So what was
read from a text can be written into a text and read again.
-/

namespace GraphGateway

namespace Json

/-- The members of a record are nested up to a bound if each is. -/
@[simp] theorem membersDepth_append_le (first second : List (String × Json)) (n : Nat) :
    membersDepth (first ++ second) ≤ n ↔ membersDepth first ≤ n ∧ membersDepth second ≤ n := by
  simp only [membersDepth_le_iff, List.mem_append, or_imp, forall_and]

@[simp] theorem membersDepth_always_le (key : String) (v : Json) (n : Nat) :
    membersDepth (Wire.always key v) ≤ n ↔ v.depth ≤ n := by
  simp [Wire.always, membersDepth]

@[simp] theorem membersDepth_orNull_le {α : Type} (key : String) (f : α → Json) (x : Option α)
    (n : Nat) :
    membersDepth (Wire.orNull key (x.map f)) ≤ n ↔ ∀ a ∈ x, (f a).depth ≤ n := by
  cases x <;> simp [Wire.orNull, membersDepth, depth]

@[simp] theorem membersDepth_unlessNone_le (key : String) (v : Option Json) (n : Nat) :
    membersDepth (Wire.unlessNone key v) ≤ n ↔ ∀ a ∈ v, a.depth ≤ n := by
  cases v <;> simp [Wire.unlessNone, membersDepth]

@[simp] theorem membersDepth_alwaysList_le (key : String) (vs : List Json) (n : Nat) :
    membersDepth (Wire.alwaysList key vs) ≤ n ↔ (array vs).depth ≤ n :=
  membersDepth_always_le key (array vs) n

@[simp] theorem membersDepth_unlessEmpty_le (key : String) (vs : List Json) (n : Nat) :
    membersDepth (Wire.unlessEmpty key vs) ≤ n ↔ vs = [] ∨ (array vs).depth ≤ n := by
  cases vs with
  | nil => simp [Wire.unlessEmpty, membersDepth]
  | cons v vs => simp [Wire.unlessEmpty, membersDepth]

/-- An array of written items is nested one level deeper than they are. -/
theorem depth_array_map_le {α : Type} (f : α → Json) (xs : List α) (n : Nat) :
    (array (xs.map f)).depth ≤ n + 1 ↔ ∀ a ∈ xs, (f a).depth ≤ n := by
  rw [depth, Nat.succ_le_succ_iff, itemsDepth_le_iff]
  simp

/-- An object is nested one level deeper than its members. -/
theorem depth_object_le (members : List (String × Json)) (n : Nat) :
    (object members).depth ≤ n + 1 ↔ membersDepth members ≤ n := by
  rw [depth, Nat.succ_le_succ_iff]

@[simp] theorem depth_string (s : String) : (string s).depth = 0 := rfl

@[simp] theorem depth_bool (b : Bool) : (bool b).depth = 0 := rfl

end Json

namespace Wire

/-- A member that has to be there is readable. -/
theorem readable_of_need {left : Nat} {key : String} {s : Shape} {x : s.Carrier}
    (h : Readable left (need key s).shape x ∨ (need key s).Default x) : Readable left s x := by
  rcases h with h | h | h
  · exact h
  · cases h
  · cases h

/-- A member that may be missing is readable where it is there. -/
theorem readable_of_may {left : Nat} {key : String} {s : Shape} {x : Option s.Carrier}
    (h : Readable left (may key s).shape x ∨ (may key s).Default x) {a : s.Carrier} (ha : a ∈ x) :
    Readable left s a := by
  obtain rfl := Option.mem_def.mp ha
  rcases h with h | h | h
  · exact h.nullable
  · cases h
  · cases h

/-- The items of a list that may be missing are readable with one level
less. -/
theorem readable_of_many {left : Nat} {key : String} {s : Shape} {xs : List s.Carrier}
    (h : Readable left (many key s).shape xs ∨ (many key s).Default xs) {a : s.Carrier}
    (ha : a ∈ xs) : ∃ less, left = less + 1 ∧ Readable less s a := by
  rcases h with h | h | h
  · exact h.listOrNull ha
  · cases h
  · cases h
    cases ha

/-- **A list that is always written** takes one level more than its items,
which take a level less than the list or a fixed number of levels. -/
theorem depth_array_map_le_max {s : Shape} {f : s.Carrier → Json} {xs : List s.Carrier}
    {left : Nat} (least : Nat) (hread : ∀ a ∈ xs, ∃ less, left = less + 1 ∧ Readable less s a)
    (hdepth : ∀ a less, Readable less s a → (f a).depth ≤ max least less) :
    (Json.array (xs.map f)).depth ≤ max (least + 1) left := by
  cases xs with
  | nil => exact Nat.le_trans (Nat.succ_le_succ (Nat.zero_le least)) (Nat.le_max_left ..)
  | cons first rest =>
    obtain ⟨less, rfl, -⟩ := hread first (List.mem_cons_self ..)
    rw [Nat.succ_max_succ, Json.depth_array_map_le]
    intro a ha
    obtain ⟨less', hless, hreadable⟩ := hread a ha
    obtain rfl := Nat.succ.inj hless
    exact hdepth a less hreadable

/-- **A list that is left out where it is empty** takes one level more than
its items. -/
theorem eq_nil_or_depth_array_map_le {s : Shape} {f : s.Carrier → Json} {xs : List s.Carrier}
    {left : Nat} (hread : ∀ a ∈ xs, ∃ less, left = less + 1 ∧ Readable less s a)
    (hdepth : ∀ a less, Readable less s a → (f a).depth ≤ less) :
    xs.map f = [] ∨ (Json.array (xs.map f)).depth ≤ left := by
  cases xs with
  | nil => exact .inl rfl
  | cons first rest =>
    right
    obtain ⟨less, rfl, -⟩ := hread first (List.mem_cons_self ..)
    rw [Json.depth_array_map_le]
    intro a ha
    obtain ⟨less', hless, hreadable⟩ := hread a ha
    obtain rfl := Nat.succ.inj hless
    exact hdepth a less hreadable

end Wire

open Wire

/-! ## The records of a schema -/

/-- A reference to a type is nested as deep as what it wraps, and a level
more. -/
theorem TypeRef.depth_toJson_mk_le (kind : TypeKind) (name : Option String)
    (inner : Option TypeRef) (n : Nat) :
    (mk kind name inner).toJson.depth ≤ n + 1 ↔ ∀ t ∈ inner, t.toJson.depth ≤ n := by
  cases inner <;> simp [TypeRef.toJson, TypeKind.toJson, Json.depth_object_le]

/-- **A reference to a type is written as deep as it was read.** -/
theorem TypeRef.depth_toJson_le : (t : TypeRef) → {room : Nat} →
    Readable room (.record .typeRef) t → t.toJson.depth ≤ room
  | mk kind name none, room, h => by
    obtain ⟨left, -, rfl, -⟩ := h.record
    exact (TypeRef.depth_toJson_mk_le kind name none left).mpr fun t ht => (by cases ht)
  | mk kind name (some inner), room, h => by
    obtain ⟨left, ⟨kind', name', inner', _⟩, rfl, hbuild, -, -, hinner, -⟩ := h.record
    obtain ⟨rfl, rfl, rfl⟩ := TypeRef.mk.inj hbuild
    refine (TypeRef.depth_toJson_mk_le kind name (some inner) left).mpr fun t ht => ?_
    rw [← Option.some.inj ht]
    exact TypeRef.depth_toJson_le inner (readable_of_may hinner rfl)

/-- **A reference to a root type is written flat**, and was read flat. -/
theorem TypeRef.isFlat_of_readable {t : TypeRef} {room : Nat}
    (h : Readable room (.record .rootType) t) : t.IsFlat ∧ t.toJson.depth ≤ room := by
  obtain ⟨left, ⟨kind, name, _⟩, rfl, rfl, -⟩ := h.record
  exact ⟨rfl, (TypeRef.depth_toJson_mk_le ..).mpr fun t ht => (by cases ht)⟩

/-- An argument is nested as deep as its type, and a level more. -/
theorem InputValue.depth_toJson_le_iff (v : InputValue) (n : Nat) :
    v.toJson.depth ≤ n + 1 ↔ v.type.toJson.depth ≤ n := by
  simp [InputValue.toJson, Json.depth_object_le]

/-- An argument is written as deep as it was read. -/
theorem InputValue.depth_toJson_le {v : InputValue} {room : Nat}
    (h : Readable room (.record .inputValue) v) : v.toJson.depth ≤ room := by
  obtain ⟨left, ⟨name, description, type, defaultValue, _⟩, rfl, rfl, -, -, htype, -⟩ := h.record
  exact (InputValue.depth_toJson_le_iff ..).mpr (TypeRef.depth_toJson_le _ (readable_of_need htype))

/-- A field is nested as deep as its type and its arguments, and a level
more. -/
theorem Field.depth_toJson_le_iff (f : Field) (n : Nat) :
    f.toJson.depth ≤ n + 1
      ↔ (Json.array (f.args.map InputValue.toJson)).depth ≤ n ∧ f.type.toJson.depth ≤ n := by
  simp [Field.toJson, Json.depth_object_le]

/-- A field is written as deep as it was read: its type leaves a level for the
list of its arguments. -/
theorem Field.depth_toJson_le {f : Field} {room : Nat} (h : Readable room (.record .field) f) :
    f.toJson.depth ≤ room := by
  obtain ⟨left, ⟨name, description, args, type, isDeprecated, reason, _⟩, rfl, rfl, -, -, hargs,
    htype, -⟩ := h.record
  have htype := readable_of_need htype
  -- an empty list is written too, and the type makes room for it
  obtain ⟨less, -, hless, -⟩ := htype.record
  have hargs := depth_array_map_le_max 0 (f := InputValue.toJson)
    (fun a ha => readable_of_many hargs ha) fun a less h => by simpa using a.depth_toJson_le h
  refine (Field.depth_toJson_le_iff ..).mpr ⟨Nat.le_trans hargs ?_, TypeRef.depth_toJson_le _ htype⟩
  omega

/-- A value of an enumeration contains no container. -/
theorem EnumValue.depth_toJson_le {v : EnumValue} {room : Nat}
    (h : Readable room (.record .enumValue) v) : v.toJson.depth ≤ room := by
  obtain ⟨left, -, rfl, -⟩ := h.record
  simp [EnumValue.toJson, Json.depth_object_le]

/-- A directive is nested as deep as its arguments, and a level more. -/
theorem Directive.depth_toJson_le_iff (d : Directive) (n : Nat) :
    d.toJson.depth ≤ n + 1
      ↔ (Json.array (d.locations.map Json.string)).depth ≤ n
        ∧ (Json.array (d.args.map InputValue.toJson)).depth ≤ n := by
  simp [Directive.toJson, Json.depth_object_le]

/-- A directive takes two levels for its lists, even when they are empty. -/
theorem Directive.depth_toJson_le {d : Directive} {room : Nat}
    (h : Readable room (.record .directive) d) : d.toJson.depth ≤ max 2 room := by
  obtain ⟨left, ⟨name, description, locations, args, _⟩, rfl, rfl, -, -, hlocations, hargs, -⟩ :=
    h.record
  rw [Nat.succ_max_succ, Directive.depth_toJson_le_iff]
  constructor
  · exact depth_array_map_le_max 0 (s := .text)
      (fun a ha => readable_of_many hlocations ha) fun a less _ => Nat.zero_le _
  · exact depth_array_map_le_max 0 (s := .record .inputValue)
      (fun a ha => readable_of_many hargs ha) fun a less h => by simpa using a.depth_toJson_le h

/-- A definition of a type is nested as deep as the lists that are not left
out, and a level more. -/
theorem TypeDefinition.depth_toJson_le_iff (t : TypeDefinition) (n : Nat) :
    t.toJson.depth ≤ n + 1
      ↔ (t.fields.map Field.toJson = [] ∨ (Json.array (t.fields.map Field.toJson)).depth ≤ n)
        ∧ (t.inputFields.map InputValue.toJson = []
          ∨ (Json.array (t.inputFields.map InputValue.toJson)).depth ≤ n)
        ∧ (t.interfaces.map TypeRef.toJson = []
          ∨ (Json.array (t.interfaces.map TypeRef.toJson)).depth ≤ n)
        ∧ (t.enumValues.map EnumValue.toJson = []
          ∨ (Json.array (t.enumValues.map EnumValue.toJson)).depth ≤ n)
        ∧ (t.possibleTypes.map TypeRef.toJson = []
          ∨ (Json.array (t.possibleTypes.map TypeRef.toJson)).depth ≤ n) := by
  rw [TypeDefinition.toJson, Json.depth_object_le]
  simp only [Json.membersDepth_append_le, Json.membersDepth_always_le,
    Json.membersDepth_orNull_le, Json.membersDepth_unlessEmpty_le, and_assoc]
  simp [TypeKind.toJson]

/-- A definition of a type is written as deep as it was read. -/
theorem TypeDefinition.depth_toJson_le {t : TypeDefinition} {room : Nat}
    (h : Readable room (.record .typeDefinition) t) : t.toJson.depth ≤ room := by
  obtain ⟨left, ⟨kind, name, description, fields, inputFields, interfaces, enumValues,
    possibleTypes, _⟩, rfl, rfl, -, -, -, hfields, hinputs, hinterfaces, hvalues, hpossible, -⟩ :=
    h.record
  -- each list is left out, or its items were read a level further down
  refine (TypeDefinition.depth_toJson_le_iff ..).mpr ⟨?_, ?_, ?_, ?_, ?_⟩
  · exact eq_nil_or_depth_array_map_le (s := .record .field)
      (fun a ha => readable_of_many hfields ha) fun a less h => a.depth_toJson_le h
  · exact eq_nil_or_depth_array_map_le (s := .record .inputValue)
      (fun a ha => readable_of_many hinputs ha) fun a less h => a.depth_toJson_le h
  · exact eq_nil_or_depth_array_map_le (s := .record .typeRef)
      (fun a ha => readable_of_many hinterfaces ha) fun a less h => TypeRef.depth_toJson_le a h
  · exact eq_nil_or_depth_array_map_le (s := .record .enumValue)
      (fun a ha => readable_of_many hvalues ha) fun a less h => a.depth_toJson_le h
  · exact eq_nil_or_depth_array_map_le (s := .record .typeRef)
      (fun a ha => readable_of_many hpossible ha) fun a less h => TypeRef.depth_toJson_le a h

/-- A schema is nested as deep as its root types and its lists, and a level
more. -/
theorem Schema.depth_toJson_le_iff (s : Schema) (n : Nat) :
    s.toJson.depth ≤ n + 1
      ↔ (∀ t ∈ s.queryType, t.toJson.depth ≤ n) ∧ (∀ t ∈ s.mutationType, t.toJson.depth ≤ n)
        ∧ (∀ t ∈ s.subscriptionType, t.toJson.depth ≤ n)
        ∧ (Json.array (s.types.map TypeDefinition.toJson)).depth ≤ n
        ∧ (Json.array (s.directives.map Directive.toJson)).depth ≤ n := by
  rw [Schema.toJson, Json.depth_object_le]
  simp only [Json.membersDepth_append_le, Json.membersDepth_alwaysList_le,
    Json.membersDepth_orNull_le, and_assoc]

/-- **A schema that was read has flat root types** and takes no more levels
than it was read with, except for the four of a directive with its empty
lists. -/
theorem Schema.hasFlatRoots_of_readable {s : Schema} {room : Nat}
    (h : Readable room (.record .schema) s) : s.HasFlatRoots ∧ s.toJson.depth ≤ max 4 room := by
  obtain ⟨left, ⟨query, mutation, subscription, types, directives, _⟩, rfl, rfl, hquery, hmutation,
    hsubscription, htypes, hdirectives, -⟩ := h.record
  have hroot := fun t (h : Readable left (.record .rootType) t) => TypeRef.isFlat_of_readable h
  refine ⟨⟨fun t ht => (hroot t (readable_of_may hquery ht)).1,
    fun t ht => (hroot t (readable_of_may hmutation ht)).1,
    fun t ht => (hroot t (readable_of_may hsubscription ht)).1⟩, ?_⟩
  rw [Nat.succ_max_succ, Schema.depth_toJson_le_iff]
  have hleft := Nat.le_max_right 3 left
  refine ⟨fun t ht => (hroot t (readable_of_may hquery ht)).2.trans hleft,
    fun t ht => (hroot t (readable_of_may hmutation ht)).2.trans hleft,
    fun t ht => (hroot t (readable_of_may hsubscription ht)).2.trans hleft, ?_, ?_⟩
  · exact depth_array_map_le_max 2 (s := .record .typeDefinition)
      (fun a ha => readable_of_many htypes ha)
      fun a less h => (a.depth_toJson_le h).trans (Nat.le_max_right ..)
  · exact depth_array_map_le_max 2 (s := .record .directive)
      (fun a ha => readable_of_many hdirectives ha) fun a less h => a.depth_toJson_le h

end GraphGateway
