/-!
# Steps that can fail

Readers and the file system work in steps, each of which may fail and end the
whole. A chain of steps succeeds only if every step of it does (`bind_eq_ok`),
which takes a result apart into those of the steps.
-/

namespace GraphGateway

variable {ε α β : Type}

/-- A step that succeeds hands its result on. -/
theorem ok_bind (x : α) (f : α → Except ε β) : ((.ok x : Except ε α) >>= f) = f x := rfl

/-- **A chain of steps succeeds if each of them does.** -/
theorem bind_eq_ok {x : Except ε α} {f : α → Except ε β} {b : β} (h : (x >>= f) = .ok b) :
    ∃ a, x = .ok a ∧ f a = .ok b := by
  cases x with
  | error e => cases h
  | ok a => exact ⟨a, rfl, h⟩

/-- A result that is made of what a step comes to, by what the step can come to. -/
theorem bind_ok_eq_ok_iff {x : Except ε α} {Means : α → Prop} {f : α → β} {b : β}
    (h : ∀ a, x = .ok a ↔ Means a) :
    (x >>= fun a => .ok (f a)) = .ok b ↔ ∃ a, Means a ∧ f a = b := by
  constructor
  · intro hb
    obtain ⟨a, ha, hf⟩ := bind_eq_ok hb
    exact ⟨a, (h a).mp ha, Except.ok.inj hf⟩
  · rintro ⟨a, ha, rfl⟩
    rw [(h a).mpr ha, ok_bind]

/-- A result that was made of another one comes from a step that succeeded. -/
theorem map_eq_ok {x : Except ε α} {f : α → β} {b : β} (h : x.map f = .ok b) :
    ∃ a, x = .ok a ∧ f a = b := by
  cases x with
  | error e => cases h
  | ok a => exact ⟨a, rfl, Except.ok.inj h⟩

/-- Two steps succeed together. -/
theorem toOption_bind (x : Except ε α) (f : α → Except ε β) :
    (x >>= f).toOption = x.toOption.bind fun a => (f a).toOption := by
  cases x <;> rfl

end GraphGateway
