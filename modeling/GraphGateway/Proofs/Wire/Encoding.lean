import GraphGateway.Proofs.Time.Rfc3339
import GraphGateway.Proofs.Wire.Meaning
import GraphGateway.Wire.Encode

/-!
# Records are read as they were written

A record is written as an object with a member for each of its values, and it
is read by looking the members up by their keys. So a record is read as it
was written if each of its members is (`valueOf?_record`): a value that is
missing comes back from `null`, and a list that was left out comes back empty.

The records of a schema all come back, from a reference to a type with its
wrappers up to the whole schema (`Schema.valueOf?_toJson`), with one condition:
a root type is read without what it wraps, so it must not wrap anything. A
server comes back if its schema does and its two instants have timestamps
(`Server.valueOf?_toJson`).
-/

namespace GraphGateway

namespace Wire

/-! ## Members as they are written -/

/-- Whether the values under each key stand for the values of a record's
members. -/
def StandFor : (ms : List MemberLayout) → List (String × Json) → Values ms → Prop
  | [], _, () => True
  | m :: rest, members, (x, xs) =>
    columnOf? m (valuesUnder m.key members) = some x ∧ StandFor rest members xs

/-- Members stand for the values that stand under their keys. -/
theorem columnsOf?_of_standFor {ms : List MemberLayout} {members : List (String × Json)}
    {values : Values ms} (h : StandFor ms members values) :
    columnsOf? ms members = some values := by
  induction ms with
  | nil => rfl
  | cons m rest ih =>
    obtain ⟨x, xs⟩ := values
    rw [columnsOf?, h.1, ih h.2]
    rfl

/-- **An object stands for a record** if the values under its keys stand for
the values of the record's members. -/
theorem valueOf?_record (k : RecordKind) {members : List (String × Json)}
    (values : Values k.layout) (h : StandFor k.layout members values) :
    valueOf? (.record k) (.object members) = some (k.build values) := by
  rw [valueOf?_object, objectOf?, columnsOf?_of_standFor h]
  rfl

@[simp] theorem valuesUnder_append (key : String) (first second : List (String × Json)) :
    valuesUnder key (first ++ second) = valuesUnder key first ++ valuesUnder key second := by
  rw [valuesUnder, List.filter_append, List.map_append]
  rfl

@[simp] theorem valuesUnder_always (key key' : String) (v : Json) :
    valuesUnder key (always key' v) = if key' = key then [v] else [] := by
  rw [always, valuesUnder_cons]
  simp [valuesUnder]

@[simp] theorem valuesUnder_orNull (key key' : String) (v : Option Json) :
    valuesUnder key (orNull key' v) = if key' = key then [v.getD .null] else [] :=
  valuesUnder_always key key' _

@[simp] theorem valuesUnder_alwaysList (key key' : String) (vs : List Json) :
    valuesUnder key (alwaysList key' vs) = if key' = key then [.array vs] else [] :=
  valuesUnder_always key key' _

@[simp] theorem valuesUnder_unlessEmpty (key key' : String) (vs : List Json) :
    valuesUnder key (unlessEmpty key' vs)
      = if key' = key then (if vs.isEmpty then [] else [.array vs]) else [] := by
  rw [unlessEmpty]
  cases vs with
  | nil => simp [valuesUnder]
  | cons v vs => exact valuesUnder_always key key' _

@[simp] theorem valuesUnder_unlessNone (key key' : String) (v : Option Json) :
    valuesUnder key (unlessNone key' v) = if key' = key then v.toList else [] := by
  cases v with
  | none => simp [unlessNone, valuesUnder]
  | some v => exact valuesUnder_always key key' v

/-- What a single value under a key stands for. -/
@[simp] theorem columnOf?_singleton (m : MemberLayout) (v : Json) :
    columnOf? m [v] = valueOf? m.shape v := rfl

@[simp] theorem valueOf?_text (s : String) : valueOf? .text (.string s) = some s := rfl

@[simp] theorem valueOf?_flag (b : Bool) : valueOf? .flag (.bool b) = some b := rfl

/-- What a value under a key that may be missing stands for. -/
theorem valueOf?_nullable_of_eq {s : Shape} {v : Json} {x : s.Carrier} (hnull : v ≠ .null)
    (h : valueOf? s v = some x) : valueOf? (.nullable s) v = some (some x) := by
  rw [valueOf?_nullable s hnull, h]
  rfl

/-- **A value that may be missing** is written as itself or as `null`. -/
theorem valueOf?_getD_null {s : Shape} {f : s.Carrier → Json} {x : Option s.Carrier}
    (hnull : ∀ a, f a ≠ .null) (h : ∀ a ∈ x, valueOf? s (f a) = some a) :
    valueOf? (.nullable s) ((x.map f).getD .null) = some x := by
  cases x with
  | none => rfl
  | some a =>
    exact valueOf?_nullable_of_eq (hnull a) (h a rfl)

/-- A text that may be missing is written as itself or as `null`. -/
@[simp] theorem valueOf?_optionalText (x : Option String) :
    valueOf? (.nullable .text) ((x.map Json.string).getD .null) = some x :=
  valueOf?_getD_null (s := .text) (fun a h => by cases h) fun _ _ => rfl

/-- Written items stand for the items. -/
theorem mapM_valueOf? {s : Shape} {f : s.Carrier → Json} {xs : List s.Carrier}
    (h : ∀ a ∈ xs, valueOf? s (f a) = some a) : (xs.map f).mapM (valueOf? s) = some xs := by
  induction xs with
  | nil => rfl
  | cons a xs ih =>
    rw [List.map_cons, List.mapM_cons, h a (List.mem_cons_self ..),
      ih fun b hb => h b (List.mem_cons_of_mem _ hb)]
    rfl

/-- **A list** is written as the array of its items. -/
theorem valueOf?_listOrNull {s : Shape} {f : s.Carrier → Json} {xs : List s.Carrier}
    (h : ∀ a ∈ xs, valueOf? s (f a) = some a) :
    valueOf? (.listOrNull s) (.array (xs.map f)) = some xs := by
  rw [valueOf?_array]
  exact mapM_valueOf? h

/-- **A list that may be left out** is written as the array of its items, or
not at all. -/
theorem columnOf?_unlessEmpty {key : String} {s : Shape} {f : s.Carrier → Json}
    {xs : List s.Carrier} (h : ∀ a ∈ xs, valueOf? s (f a) = some a) :
    columnOf? ⟨key, .listOrNull s, .allowed []⟩
        (if xs = [] then [] else [.array (xs.map f)]) = some xs := by
  cases xs with
  | nil => rfl
  | cons a xs => exact valueOf?_listOrNull h

/-- **A value that may be left out** is written as itself, or not at all. -/
theorem columnOf?_unlessNone {key : String} {s : Shape} {f : s.Carrier → Json}
    {x : Option s.Carrier} (hnull : ∀ a ∈ x, f a ≠ .null)
    (h : ∀ a ∈ x, valueOf? s (f a) = some a) :
    columnOf? ⟨key, .nullable s, .allowed none⟩ (x.map f).toList = some x := by
  cases x with
  | none => rfl
  | some a => exact valueOf?_nullable_of_eq (hnull a rfl) (h a rfl)

end Wire

open Wire

/-! ## The records of a schema -/

/-- A kind of type is written as its name. -/
@[simp] theorem TypeKind.valueOf?_toJson (k : TypeKind) :
    valueOf? (.choice .typeKind) k.toJson = some k := by
  cases k <;> rfl

/-- A kind of type is not written as `null`. -/
@[simp] theorem TypeKind.toJson_ne_null (k : TypeKind) : k.toJson ≠ .null := by
  simp [TypeKind.toJson]

/-- A reference to a type is not written as `null`. -/
theorem TypeRef.toJson_ne_null (t : TypeRef) : t.toJson ≠ .null := by
  obtain ⟨kind, name, inner⟩ := t
  cases inner <;> simp [TypeRef.toJson]

/-- **A reference to a type is read as it was written**, with all its
wrappers. -/
@[simp] theorem TypeRef.valueOf?_toJson : (t : TypeRef) →
    valueOf? (.record .typeRef) t.toJson = some t
  | mk kind name none => by
    refine valueOf?_record .typeRef (kind, name, none, ()) ⟨?_, ?_, ?_, trivial⟩
    all_goals simp [need, may]
    rfl
  | mk kind name (some inner) => by
    have hinner := TypeRef.valueOf?_toJson inner
    refine valueOf?_record .typeRef (kind, name, some inner, ()) ⟨?_, ?_, ?_, trivial⟩
    all_goals simp [need, may]
    exact valueOf?_nullable_of_eq inner.toJson_ne_null hinner

/-- **An argument is read as it was written.** -/
theorem InputValue.valueOf?_toJson (v : InputValue) :
    valueOf? (.record .inputValue) v.toJson = some v := by
  refine valueOf?_record .inputValue (v.name, v.description, v.type, v.defaultValue, ())
    ⟨?_, ?_, ?_, ?_, trivial⟩
  all_goals simp [need, may]

/-- **A field is read as it was written.** -/
theorem Field.valueOf?_toJson (f : Field) : valueOf? (.record .field) f.toJson = some f := by
  refine valueOf?_record .field
    (f.name, f.description, f.args, f.type, f.isDeprecated, f.deprecationReason, ())
    ⟨?_, ?_, ?_, ?_, ?_, ?_, trivial⟩
  all_goals simp [need, may, many]
  exact valueOf?_listOrNull fun v _ => v.valueOf?_toJson

/-- **A value of an enumeration is read as it was written.** -/
theorem EnumValue.valueOf?_toJson (v : EnumValue) :
    valueOf? (.record .enumValue) v.toJson = some v := by
  refine valueOf?_record .enumValue
    (v.name, v.description, v.isDeprecated, v.deprecationReason, ()) ⟨?_, ?_, ?_, ?_, trivial⟩
  all_goals simp [need, may]

/-- **A directive is read as it was written.** -/
theorem Directive.valueOf?_toJson (d : Directive) :
    valueOf? (.record .directive) d.toJson = some d := by
  refine valueOf?_record .directive (d.name, d.description, d.locations, d.args, ())
    ⟨?_, ?_, ?_, ?_, trivial⟩
  all_goals simp [need, may, many]
  · exact valueOf?_listOrNull (s := .text) fun _ _ => rfl
  · exact valueOf?_listOrNull fun v _ => v.valueOf?_toJson

/-- **A definition of a type is read as it was written**, without the lists
that were left out. -/
theorem TypeDefinition.valueOf?_toJson (t : TypeDefinition) :
    valueOf? (.record .typeDefinition) t.toJson = some t := by
  refine valueOf?_record .typeDefinition
    (t.kind, t.name, t.description, t.fields, t.inputFields, t.interfaces, t.enumValues,
      t.possibleTypes, ()) ⟨?_, ?_, ?_, ?_, ?_, ?_, ?_, ?_, trivial⟩
  all_goals simp [need, may, many]
  · exact columnOf?_unlessEmpty fun f _ => f.valueOf?_toJson
  · exact columnOf?_unlessEmpty fun v _ => v.valueOf?_toJson
  · exact columnOf?_unlessEmpty fun t _ => t.valueOf?_toJson
  · exact columnOf?_unlessEmpty fun v _ => v.valueOf?_toJson
  · exact columnOf?_unlessEmpty fun t _ => t.valueOf?_toJson

/-! ## Schemas and servers -/

/-- A reference to a root type is flat: it wraps nothing. -/
def TypeRef.IsFlat (t : TypeRef) : Prop := t.inner = none

/-- **A reference to a root type is read as it was written** if it wraps
nothing. -/
theorem TypeRef.valueOf?_toJson_of_isFlat {t : TypeRef} (h : t.IsFlat) :
    valueOf? (.record .rootType) t.toJson = some t := by
  obtain ⟨kind, name, inner⟩ := t
  obtain rfl : inner = none := h
  refine valueOf?_record .rootType (some kind, name, ()) ⟨?_, ?_, trivial⟩
  all_goals simp [may]
  exact valueOf?_nullable_of_eq kind.toJson_ne_null kind.valueOf?_toJson

/-- **Whether the root types of a schema are flat**, as they are when they
were read. -/
def Schema.HasFlatRoots (s : Schema) : Prop :=
  (∀ t ∈ s.queryType, t.IsFlat) ∧ (∀ t ∈ s.mutationType, t.IsFlat)
    ∧ ∀ t ∈ s.subscriptionType, t.IsFlat

/-- **A schema is read as it was written** if its root types are flat. -/
theorem Schema.valueOf?_toJson {s : Schema} (h : s.HasFlatRoots) :
    valueOf? (.record .schema) s.toJson = some s := by
  obtain ⟨hquery, hmutation, hsubscription⟩ := h
  refine valueOf?_record .schema
    (s.queryType, s.mutationType, s.subscriptionType, s.types, s.directives, ())
    ⟨?_, ?_, ?_, ?_, ?_, trivial⟩
  all_goals simp [may, many]
  · exact valueOf?_getD_null TypeRef.toJson_ne_null fun t ht =>
      TypeRef.valueOf?_toJson_of_isFlat (hquery t ht)
  · exact valueOf?_getD_null TypeRef.toJson_ne_null fun t ht =>
      TypeRef.valueOf?_toJson_of_isFlat (hmutation t ht)
  · exact valueOf?_getD_null TypeRef.toJson_ne_null fun t ht =>
      TypeRef.valueOf?_toJson_of_isFlat (hsubscription t ht)
  · exact valueOf?_listOrNull fun t _ => t.valueOf?_toJson
  · exact valueOf?_listOrNull fun d _ => d.valueOf?_toJson

/-- An instant is written as its timestamp. -/
theorem valueOf?_timestamp {t : Time.Instant} (h : t.IsDated) :
    valueOf? .timestamp (.string t.text) = some t := by
  have hread : readScalar (.string t.text) 0 0 .value .timestamp = .ok t := by
    simp only [readScalar, Time.Instant.parse_text h]
  rw [← Json.ofScalar, valueOf?_ofScalar, hread]
  rfl

/-- **A server is read as it was written** if its instants have timestamps and
the root types of its schema are flat. -/
theorem Server.valueOf?_toJson {s : Server} (hadded : s.addedAt.IsDated)
    (hupdated : s.updatedAt.IsDated) (hschema : ∀ schema ∈ s.schema, schema.HasFlatRoots) :
    valueOf? (.record .server) s.toJson = some s := by
  refine valueOf?_record .server
    (s.id, s.name, s.endpoint, s.description, s.schema, s.addedAt, s.updatedAt, s.isActive, ())
    ⟨?_, ?_, ?_, ?_, ?_, ?_, ?_, ?_, trivial⟩
  all_goals simp [need, may]
  · exact valueOf?_getD_null (fun schema => by simp [Schema.toJson]) fun schema h =>
      Schema.valueOf?_toJson (hschema schema h)
  · exact valueOf?_timestamp hadded
  · exact valueOf?_timestamp hupdated

end GraphGateway
