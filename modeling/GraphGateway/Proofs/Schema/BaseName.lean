import GraphGateway.Proofs.Wire.Message
import GraphGateway.Schema

/-!
# The name inside wrappers

A list and a type without its null have no names of their own: they wrap
another type, and what is named is the type inside all wrappers (`Wraps`). So
backends write `null` for the name of a wrapper. Nothing makes them do so: a
reference is read from an answer with whatever name it has there, wrapper or
not.

`TypeRef.baseName` does not look at kinds. It goes inwards as long as it finds
no name, and so it stops at a wrapper that has a name. The name inside the
wrappers is what it finds if and only if the outermost name that a wrapper
has, where one has any, is the same (`baseName_eq_of_wraps`).
-/

namespace GraphGateway

/-- Whether the types of a kind only wrap another type. -/
def TypeKind.IsWrapper (kind : TypeKind) : Prop := kind = .list ∨ kind = .nonNull

namespace TypeRef

/-- **A type of a name inside wrappers**, any number of them. The names that
the wrappers have themselves are listed, the outermost first. -/
inductive Wraps (name : String) : List (Option String) → TypeRef → Prop where
  /-- The type itself, whatever is inside it. -/
  | named {kind : TypeKind} {inner : Option TypeRef} (hkind : ¬ kind.IsWrapper) :
    Wraps name [] (mk kind (some name) inner)
  /-- One wrapper more. -/
  | wrapper {kind : TypeKind} {own : Option String} {owns : List (Option String)}
    {inner : TypeRef} (hkind : kind.IsWrapper) (hinner : Wraps name owns inner) :
    Wraps name (own :: owns) (mk kind own (some inner))

/-- The outermost name that one of some wrappers has. -/
def outermost? (owns : List (Option String)) : Option String := owns.findSome? id

variable {name : String} {owns : List (Option String)} {t : TypeRef}

/-- The way inwards ends at the first name on it. -/
theorem baseName_eq_getD (h : t.Wraps name owns) :
    t.baseName = some ((outermost? owns).getD name) := by
  induction h with
  | named _ => rfl
  | @wrapper _ own _ _ _ _ ih =>
    cases own with
    | none => exact ih
    | some _ => rfl

/-- **The name that is found** is that of the outermost wrapper that has one.
It is the name inside the wrappers if no wrapper has a name, and otherwise only
if it is the same as that of this one. -/
theorem baseName_eq_of_wraps (h : t.Wraps name owns) :
    t.baseName = some ((outermost? owns).getD name)
      ∧ (t.baseName = some name ↔ ∀ own ∈ outermost? owns, own = name)
      ∧ ((∀ own ∈ owns, own = none) → t.baseName = some name) := by
  have hfound := baseName_eq_getD h
  have hiff : t.baseName = some name ↔ ∀ own ∈ outermost? owns, own = name := by
    rw [hfound, Option.some.injEq]
    cases outermost? owns <;> simp
  refine ⟨hfound, hiff, fun hnone => hiff.mpr fun own hown => ?_⟩
  obtain ⟨_, hmem, hsome⟩ := List.exists_of_findSome?_eq_some hown
  cases (hnone _ hmem).symm.trans hsome

/-! ## Wrappers with names are read -/

/-- **A reference is read as it was written**, unless it is nested too deeply
for a text. Its wrappers may have names. -/
theorem decodesAs_compact (h : t.toJson.depth ≤ 127) :
    Wire.DecodesAs (.record .typeRef) (Json.compact t.toJson) t :=
  Wire.decodesAs_compact t.isWhole_toJson h t.valueOf?_toJson

/-- A list of users that may not be null, where the list has a name of its
own. -/
def namedList : TypeRef :=
  wrap .nonNull (mk .list (some "Users") (some (named .object "User")))

/-- The list wraps the type of users. -/
theorem wraps_namedList : namedList.Wraps "User" [none, some "Users"] :=
  .wrapper (.inr rfl) (.wrapper (.inl rfl) (.named (by simp [TypeKind.IsWrapper])))

/-- **The name of a list is found in place of the name inside it.** -/
theorem baseName_namedList :
    namedList.Wraps "User" [none, some "Users"]
      ∧ namedList.baseName = some ((outermost? [none, some "Users"]).getD "User")
      ∧ (namedList.baseName = some "User"
        ↔ ∀ own ∈ outermost? [none, some "Users"], own = "User")
      ∧ ((∀ own ∈ [none, some "Users"], own = none) → namedList.baseName = some "User") :=
  ⟨wraps_namedList, baseName_eq_of_wraps wraps_namedList⟩

/-- **The name inside wrappers is not always found**: a text may give a wrapper
a name. -/
theorem not_baseName_eq :
    ¬ ∀ (text : String) (t : TypeRef) (name : String) (owns : List (Option String)),
      Wire.DecodesAs (.record .typeRef) text t → t.Wraps name owns → t.baseName = some name := by
  intro h
  have hread := decodesAs_compact (t := namedList) (by decide)
  have hfound : namedList.baseName = some "User" := h _ _ _ _ hread wraps_namedList
  exact absurd hfound (by decide)

end TypeRef

end GraphGateway
