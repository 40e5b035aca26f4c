import GraphGateway.Proofs.Wire.Nesting

/-!
# Data of any form

Variables, data and extensions may be any value, and are carried as they are.
Reading such a value sorts the members of its objects, and of members with one key
the last counts. A value that has been read is in this form down to its last
object, and then it **stands for itself** (`Json.IsNormal`): it is read as what it
is (`Readable.isNormal`), also where it is missing or an object
(`Readable.valueOf?_nullable_any`, `Readable.valueOf?_members`).
-/

namespace GraphGateway

open Wire

namespace Json

/-- **Whether a value stands for itself.** -/
def IsNormal (v : Json) : Prop := valueOf? .any v = some v

/-- A scalar stands for itself. -/
theorem isNormal_ofScalar (v : Scalar) : (ofScalar v).IsNormal := by
  unfold IsNormal
  rw [valueOf?_ofScalar]
  rfl

/-- An array stands for itself if its items do. -/
theorem isNormal_array {vs : List Json} (h : ∀ v ∈ vs, v.IsNormal) : (array vs).IsNormal := by
  have hitems : (vs.map id).mapM (valueOf? .any) = some vs := mapM_valueOf? (s := .any) h
  unfold IsNormal
  rw [valueOf?_array, arrayOf?]
  rw [List.map_id] at hitems
  exact congrArg (Option.map array) hitems

/-- Members stand for themselves if their values do. -/
theorem entriesOf?_any {members : List (String × Json)}
    (h : ∀ member ∈ members, member.2.IsNormal) : entriesOf? .any members = some members := by
  induction members with
  | nil => rfl
  | cons member rest ih =>
    obtain ⟨hmember, hrest⟩ := List.forall_mem_cons.mp h
    have hrest := ih hrest
    unfold entriesOf? at hrest ⊢
    rw [List.mapM_cons, hrest, show valueOf? .any member.2 = some member.2 from hmember]
    rfl

/-- **An object stands for itself** if its members are sorted and stand for
themselves. -/
theorem isNormal_object {members : List (String × Json)} (hsorted : Keyed.Sorted members)
    (h : ∀ member ∈ members, member.2.IsNormal) : (object members).IsNormal := by
  unfold IsNormal
  rw [valueOf?_object, objectOf?, entriesOf?_any h]
  show some (object (Keyed.ofList members)) = some (object members)
  rw [Keyed.ofList_eq_self hsorted]

/-- The members of an object that stands for itself are what it stands for. -/
theorem IsNormal.valueOf?_members {members : List (String × Json)}
    (h : (object members).IsNormal) : valueOf? .members (object members) = some members := by
  unfold IsNormal at h
  rw [valueOf?_object] at h ⊢
  rw [objectOf?] at h
  obtain ⟨entries, hentries, hobject⟩ := Option.map_eq_some_iff.mp h
  rw [objectOf?, hentries, Option.map_some, object.inj hobject]

end Json

namespace Wire

variable {room : Nat}

/-- **What was read stands for itself.** -/
theorem Readable.isNormal {v : Json} (h : Readable room .any v) : v.IsNormal := by
  have hnormal : HoldsOfRead fun _ v => v.IsNormal :=
    { scalar := fun _ scalar => Json.isNormal_ofScalar scalar
      array := fun _ _ hvs => Json.isNormal_array hvs
      object := fun _ _ hsorted hmembers => Json.isNormal_object hsorted hmembers }
  exact h.holds hnormal

/-- What was read where it may be missing is not `null`. -/
theorem Readable.ne_null {v : Json} (h : Readable room (.nullable .any) (some v)) : v ≠ .null := by
  obtain ⟨node, h⟩ := h
  cases node with
  | scalar scalar start stop =>
    cases scalar <;> cases h <;> simp [Json.ofScalar]
  | faulty => cases h
  | array start items ending =>
    obtain ⟨y, hy, h⟩ := bind_eq_ok h
    obtain ⟨inner, henter, hy⟩ := bind_eq_ok hy
    obtain ⟨vs, hvs, hy⟩ := bind_eq_ok hy
    rw [← Option.some.inj (Except.ok.inj h), ← Except.ok.inj hy]
    simp
  | object start entries ending nameless =>
    obtain ⟨y, hy, h⟩ := bind_eq_ok h
    obtain ⟨inner, henter, hy⟩ := bind_eq_ok hy
    obtain ⟨members, hmembers, hy⟩ := bind_eq_ok hy
    rw [← Option.some.inj (Except.ok.inj h), ← Except.ok.inj hy]
    simp

/-- The members of any object are readable as the object. -/
theorem Readable.object {members : List (String × Json)} (h : Readable room .members members) :
    Readable room .any (.object members) := by
  obtain ⟨node, h⟩ := h
  refine ⟨node, ?_⟩
  cases node with
  | scalar scalar start stop => cases scalar <;> cases h
  | faulty => cases h
  | array => cases h
  | object start entries ending nameless =>
    obtain ⟨inner, henter, h⟩ := bind_eq_ok h
    show (Origin.enter start (.text (room + 1)) >>= _) = _
    rw [henter]
    show (readMap inner .any ending [] (memberParts entries) >>= _) = _
    rw [h]
    rfl

end Wire

end GraphGateway
