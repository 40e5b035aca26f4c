import GraphGateway.Proofs.Json.Value
import GraphGateway.Wire.Encode

/-!
# The numbers in written records

A text of a value is read as the value if all its numbers are whole, and the
record of a server has no numbers at all: its instants are texts. So the
record is whole, down to every reference of its schema
(`Server.isWhole_toJson`).
-/

namespace GraphGateway

namespace Json

/-- Items are whole if each of them is. -/
theorem areWhole_iff (items : List Json) :
    areWhole items = true ↔ ∀ item ∈ items, item.isWhole = true := by
  induction items with
  | nil => simp [areWhole]
  | cons item rest ih => simp [areWhole, ih]

/-- Members are whole if each of them is. -/
theorem membersAreWhole_iff (members : List (String × Json)) :
    membersAreWhole members = true ↔ ∀ member ∈ members, member.2.isWhole = true := by
  induction members with
  | nil => simp [membersAreWhole]
  | cons member rest ih => simp [membersAreWhole, ih]

@[simp] theorem isWhole_string (s : String) : (string s).isWhole = true := by
  rw [isWhole]

@[simp] theorem isWhole_bool (b : Bool) : (bool b).isWhole = true := by
  rw [isWhole]

@[simp] theorem isWhole_null : null.isWhole = true := by
  rw [isWhole]

@[simp] theorem membersAreWhole_append (first second : List (String × Json)) :
    membersAreWhole (first ++ second) = (membersAreWhole first && membersAreWhole second) := by
  rw [Bool.eq_iff_iff, Bool.and_eq_true]
  simp only [membersAreWhole_iff, List.mem_append, or_imp, forall_and]

@[simp] theorem membersAreWhole_always (key : String) (v : Json) :
    membersAreWhole (Wire.always key v) = v.isWhole := by
  simp [Wire.always, membersAreWhole]

@[simp] theorem membersAreWhole_alwaysList (key : String) (vs : List Json) :
    membersAreWhole (Wire.alwaysList key vs) = areWhole vs := by
  simp [Wire.alwaysList, membersAreWhole, isWhole]

@[simp] theorem membersAreWhole_unlessEmpty (key : String) (vs : List Json) :
    membersAreWhole (Wire.unlessEmpty key vs) = areWhole vs := by
  cases vs with
  | nil => rfl
  | cons v vs => exact membersAreWhole_alwaysList key (v :: vs)

/-- Written items are whole if each of them is. -/
@[simp] theorem areWhole_map {α : Type} (f : α → Json) (xs : List α) :
    areWhole (xs.map f) = true ↔ ∀ a ∈ xs, (f a).isWhole = true := by
  simp [areWhole_iff]

/-- A value that is `null` where it is missing is whole if it is where it is
there. -/
@[simp] theorem membersAreWhole_orNull {α : Type} (key : String) (f : α → Json) (x : Option α) :
    membersAreWhole (Wire.orNull key (x.map f)) = true ↔ ∀ a ∈ x, (f a).isWhole = true := by
  cases x <;> simp [Wire.orNull, membersAreWhole]

/-- A value that is left out where it is missing is whole if it is where it is
there. -/
@[simp] theorem membersAreWhole_unlessNone (key : String) (v : Option Json) :
    membersAreWhole (Wire.unlessNone key v) = true ↔ ∀ a ∈ v, a.isWhole = true := by
  cases v <;> simp [Wire.unlessNone, membersAreWhole]

end Json

open Json

/-- **A reference to a type is whole.** -/
@[simp] theorem TypeRef.isWhole_toJson : (t : TypeRef) → t.toJson.isWhole = true
  | mk kind name none => by simp [TypeRef.toJson, TypeKind.toJson, isWhole]
  | mk kind name (some inner) => by
    simp [TypeRef.toJson, TypeKind.toJson, isWhole, TypeRef.isWhole_toJson inner]

/-- An argument is whole. -/
@[simp] theorem InputValue.isWhole_toJson (v : InputValue) : v.toJson.isWhole = true := by
  simp [InputValue.toJson, isWhole]

/-- A field is whole. -/
@[simp] theorem Field.isWhole_toJson (f : Field) : f.toJson.isWhole = true := by
  simp [Field.toJson, isWhole]

/-- A value of an enumeration is whole. -/
@[simp] theorem EnumValue.isWhole_toJson (v : EnumValue) : v.toJson.isWhole = true := by
  simp [EnumValue.toJson, isWhole]

/-- A directive is whole. -/
@[simp] theorem Directive.isWhole_toJson (d : Directive) : d.toJson.isWhole = true := by
  simp [Directive.toJson, isWhole]

/-- A definition of a type is whole. -/
@[simp] theorem TypeDefinition.isWhole_toJson (t : TypeDefinition) : t.toJson.isWhole = true := by
  simp [TypeDefinition.toJson, TypeKind.toJson, isWhole]

/-- **A schema is whole.** -/
@[simp] theorem Schema.isWhole_toJson (s : Schema) : s.toJson.isWhole = true := by
  simp [Schema.toJson, isWhole]

/-- **A server is whole.** -/
theorem Server.isWhole_toJson (s : Server) : s.toJson.isWhole = true := by
  simp [Server.toJson, isWhole]

end GraphGateway
