import GraphGateway.Router

/-!
# The names that servers declare

A name may be that of a root type, of a type or of a field. The two look-ups
of a name ask for different ones of these: the first for root types and types
(`Server.DeclaresType`), the second for types and fields
(`Server.DeclaresTypeOrField`). Here both are said by the names themselves, and
`Server.Declares` covers them both.
-/

namespace GraphGateway

/-- The names of the fields, type by type. -/
def Schema.fieldNames (s : Schema) : List String := s.types.flatMap fun t => t.fields.map Field.name

/-- A root type or a type has a name if it is one of theirs. -/
theorem Schema.declaresType_iff (s : Schema) (name : String) :
    s.declaresType name = true ↔ name ∈ s.rootTypeNames ∨ name ∈ s.typeNames := by
  simp [declaresType]

/-- A type or a field has a name if it is one of theirs. -/
theorem Schema.declaresTypeOrField_iff (s : Schema) (name : String) :
    s.declaresTypeOrField name = true ↔ name ∈ s.typeNames ∨ name ∈ s.fieldNames := by
  simp only [declaresTypeOrField, TypeDefinition.hasField, typeNames, fieldNames, List.any_eq_true,
    Bool.or_eq_true, beq_iff_eq, List.mem_map, List.mem_flatMap]
  constructor
  · rintro ⟨t, ht, hname | ⟨field, hfield, hname⟩⟩
    · exact .inl ⟨t, ht, hname⟩
    · exact .inr ⟨t, ht, field, hfield, hname⟩
  · rintro (⟨t, ht, hname⟩ | ⟨t, ht, field, hfield, hname⟩)
    · exact ⟨t, ht, .inl hname⟩
    · exact ⟨t, ht, .inr ⟨field, hfield, hname⟩⟩

namespace Server

/-- **Whether a server declares a name as a root type or a type.** -/
def DeclaresType (s : Server) (name : String) : Prop :=
  ∃ schema ∈ s.schema, name ∈ schema.rootTypeNames ∨ name ∈ schema.typeNames

/-- **Whether a server has a name as a type or a field.** -/
def DeclaresTypeOrField (s : Server) (name : String) : Prop :=
  ∃ schema ∈ s.schema, name ∈ schema.typeNames ∨ name ∈ schema.fieldNames

/-- **Whether a server declares a name** as a root type, a type or a field. -/
def Declares (s : Server) (name : String) : Prop :=
  ∃ schema ∈ s.schema,
    name ∈ schema.rootTypeNames ∨ name ∈ schema.typeNames ∨ name ∈ schema.fieldNames

variable {s : Server} {name : String}

/-- What is declared as a root type or a type is declared. -/
theorem DeclaresType.declares (h : s.DeclaresType name) : s.Declares name := by
  obtain ⟨schema, hschema, hroot | htype⟩ := h
  · exact ⟨schema, hschema, .inl hroot⟩
  · exact ⟨schema, hschema, .inr (.inl htype)⟩

/-- What is declared as a type or a field is declared. -/
theorem DeclaresTypeOrField.declares (h : s.DeclaresTypeOrField name) : s.Declares name := by
  obtain ⟨schema, hschema, h⟩ := h
  exact ⟨schema, hschema, .inr h⟩

end Server

namespace Registry

/-- A test of schemas holds of a server if the server has a schema and the test holds of
it. -/
theorem hasSchema_iff {p : Schema → Bool} {P : Schema → Prop} (h : ∀ s, p s = true ↔ P s)
    (server : Server) : hasSchema p server = true ↔ ∃ schema ∈ server.schema, P schema := by
  unfold hasSchema
  cases server.schema <;> simp [h]

/-- The first look-up asks for root types and types. -/
theorem hasSchema_declaresType_iff (server : Server) (name : String) :
    hasSchema (·.declaresType name) server = true ↔ server.DeclaresType name :=
  hasSchema_iff (fun s => s.declaresType_iff name) server

/-- The second look-up asks for types and fields. -/
theorem hasSchema_declaresTypeOrField_iff (server : Server) (name : String) :
    hasSchema (·.declaresTypeOrField name) server = true ↔ server.DeclaresTypeOrField name :=
  hasSchema_iff (fun s => s.declaresTypeOrField_iff name) server

end Registry

end GraphGateway
