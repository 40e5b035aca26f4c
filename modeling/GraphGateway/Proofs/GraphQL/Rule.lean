import GraphGateway.GraphQL.Rule
import GraphGateway.Proofs.Except

/-!
# What rules have read

A rule that has read a piece of a document has read the pieces that the rule is made of,
each behind the one before. `Rule.Reads` says that a rule reads a value from some tokens
and leaves others, and for each of the ways to make rules of rules there is a lemma that takes
what was read apart.

The reports play no part in this: they tell what went wrong where nothing was read. So
nothing is said here about how a rule fails, except that a rule that may read nothing reads
nothing where its piece is not there.
-/

namespace GraphGateway.GraphQL

variable {α β γ δ ε ζ : Type}

/-- The next token, and the tokens behind it. -/
def Tokens.next? (ts : Tokens) : Option (Token × Tokens) :=
  match ts.list with
  | [] => none
  | (t, _) :: more => some (t, { ts with list := more })

namespace Rule

/-- **Whether a rule reads a value** from some tokens and leaves others. -/
def Reads (r : Rule α) (ts : Tokens) (value : α) (rest : Tokens) : Prop :=
  ∃ moved, r.read ts = .ok moved value rest

variable {ts rest : Tokens}

/-! ## Tokens -/

/-- A token is read if it is the next one. -/
theorem reads_token_iff {p : Token → Bool} {what : String} {t : Token} :
    (token p what).Reads ts t rest ↔ ts.next? = some (t, rest) ∧ p t = true := by
  obtain ⟨list, stop, stopPlace⟩ := ts
  cases list with
  | nil => simp [Reads, token, Tokens.next?]
  | cons first more =>
    obtain ⟨t', place⟩ := first
    by_cases hp : p t' = true
    · simp only [Reads, token, Tokens.next?, hp, if_true, Outcome.ok.injEq, Option.some.injEq,
        Prod.mk.injEq]
      constructor
      · rintro ⟨_, rfl, rfl, rfl⟩
        exact ⟨⟨rfl, rfl⟩, hp⟩
      · rintro ⟨⟨rfl, rfl⟩, -⟩
        exact ⟨true, rfl, rfl, rfl⟩
    · simp only [Reads, token, Tokens.next?, hp, Bool.false_eq_true, if_false, reduceCtorEq,
        exists_false, Option.some.injEq, Prod.mk.injEq, false_iff, not_and]
      rintro ⟨rfl, -⟩
      exact hp

/-- A sign is read if it is the next token. -/
theorem reads_sign_iff {text : String} {t : Token} :
    (sign text).Reads ts t rest ↔ ts.next? = some (t, rest) ∧ t = ⟨.punctuator, text⟩ := by
  unfold sign
  rw [reads_token_iff]
  obtain ⟨kind, text'⟩ := t
  simp

/-- A keyword is read if it is the next token. -/
theorem reads_keyword_iff {text : String} {t : Token} :
    (keyword text).Reads ts t rest ↔ ts.next? = some (t, rest) ∧ t = ⟨.name, text⟩ := by
  unfold keyword
  rw [reads_token_iff]
  obtain ⟨kind, text'⟩ := t
  simp

/-- A name is read if it is the next token. -/
theorem reads_name_iff {text : String} :
    name.Reads ts text rest ↔ ts.next? = some (⟨.name, text⟩, rest) := by
  have hname : name.Reads ts text rest
      ↔ ∃ t, (ofKind .name).Reads ts t rest ∧ t.text = text := by
    unfold Reads name
    dsimp only
    constructor
    · rintro ⟨moved, h⟩
      cases hread : (ofKind .name).read ts with
      | ok moved' t rest' =>
        rw [hread] at h
        obtain ⟨rfl, rfl, rfl⟩ := Outcome.ok.inj h
        exact ⟨t, ⟨moved', rfl⟩, rfl⟩
      | stuck => rw [hread] at h; cases h
      | refused => rw [hread] at h; cases h
    · rintro ⟨t, ⟨moved, hread⟩, rfl⟩
      exact ⟨moved, by rw [hread]⟩
  rw [hname, ofKind]
  simp only [reads_token_iff]
  constructor
  · rintro ⟨⟨kind, text'⟩, ⟨hnext, hkind⟩, rfl⟩
    obtain rfl : kind = .name := eq_of_beq hkind
    exact hnext
  · intro hnext
    exact ⟨_, ⟨hnext, rfl⟩, rfl⟩

/-- The place itself is read without a token. -/
theorem Reads.of_here {place : Place} (h : here.Reads ts place rest) : rest = ts := by
  obtain ⟨moved, h⟩ := h
  exact (Outcome.ok.inj h).2.2.symm

/-! ## Rules around one rule -/

/-- A rule that explains itself reads what it reads. -/
theorem explained_eq_ok_iff {r : Rule α} {moved : Bool} {value : α} :
    explained r ts = .ok moved value rest ↔ r.read ts = .ok moved value rest := by
  unfold explained
  cases r.read ts <;> simp

/-- A rule with a name reads what it reads. -/
theorem reads_named_explained_iff {r : Rule α} {value : α} :
    (named (explained r)).Reads ts value rest ↔ r.Reads ts value rest :=
  exists_congr fun _ => explained_eq_ok_iff

/-- A rule with another value reads what it reads. -/
theorem reads_map_iff {f : α → β} {r : Rule α} {value : β} :
    (map f r).Reads ts value rest ↔ ∃ v, r.Reads ts v rest ∧ f v = value := by
  unfold Reads map
  dsimp only
  cases r.read ts with
  | ok moved v rest' =>
    simp only [Outcome.ok.injEq]
    constructor
    · rintro ⟨_, rfl, rfl, rfl⟩
      exact ⟨v, ⟨moved, rfl, rfl, rfl⟩, rfl⟩
    · rintro ⟨_, ⟨_, rfl, rfl, rfl⟩, rfl⟩
      exact ⟨moved, rfl, rfl, rfl⟩
  | stuck => simp
  | refused => simp

/-! ## Sequences -/

/-- The next part of a sequence was read where the parts before it end. -/
theorem Progress.reads_of_step {p : Progress α} {parts : List Part} {r : Rule β}
    {p' : Progress (α × β)} (h : p.step parts r = .ok p') :
    ∃ value, r.Reads p.rest value p'.rest ∧ p'.value = (p.value, value) := by
  unfold Progress.step at h
  cases hread : r.read p.rest with
  | ok moved value rest =>
    rw [hread] at h
    obtain rfl := Except.ok.inj h
    exact ⟨value, ⟨moved, hread⟩, rfl⟩
  | stuck => rw [hread] at h; cases h
  | refused => rw [hread] at h; cases h

/-- A sequence goes on behind its next part. -/
theorem Progress.of_bind_step {p : Progress α} {parts : List Part} {r : Rule β}
    {next : Progress (α × β) → Except (Outcome Empty) (Progress γ)} {q : Progress γ}
    (h : (p.step parts r >>= next) = .ok q) :
    ∃ p' value, r.Reads p.rest value p'.rest ∧ p'.value = (p.value, value) ∧ next p' = .ok q := by
  obtain ⟨p', hstep, hnext⟩ := bind_eq_ok h
  obtain ⟨value, hread, hvalue⟩ := reads_of_step hstep
  exact ⟨p', value, hread, hvalue, hnext⟩

/-- A sequence that was read has come to its end. -/
theorem Progress.of_outcome {f : α → β} {x : Except (Outcome Empty) (Progress α)} {moved : Bool}
    {value : β} (h : Progress.outcome f x = .ok moved value rest) :
    ∃ p, x = .ok p ∧ f p.value = value ∧ p.rest = rest := by
  cases x with
  | ok p =>
    obtain ⟨-, hvalue, hrest⟩ := Outcome.ok.inj h
    exact ⟨p, rfl, hvalue, hrest⟩
  | error outcome =>
    cases outcome with
    | ok _ value => exact value.elim
    | stuck => cases h
    | refused => cases h

/-- **Two rules** are read one after the other. -/
theorem Reads.of_pair {a : Rule α} {b : Rule β} {value : α × β}
    (h : (pair a b).Reads ts value rest) :
    ∃ t₁, a.Reads ts value.1 t₁ ∧ b.Reads t₁ value.2 rest := by
  obtain ⟨moved, h⟩ := h
  unfold pair ofParts at h
  dsimp only at h
  obtain ⟨p, hp, rfl, rfl⟩ := Progress.of_outcome h
  obtain ⟨p₁, v₁, h₁, hvalue₁, hp⟩ := Progress.of_bind_step hp
  obtain ⟨v₂, h₂, hvalue₂⟩ := Progress.reads_of_step hp
  rw [hvalue₂, hvalue₁]
  exact ⟨p₁.rest, h₁, h₂⟩

/-- Of two rules of which the second is kept, the first is read before it. -/
theorem Reads.of_thenKeep {a : Rule α} {b : Rule β} {value : β}
    (h : (thenKeep a b).Reads ts value rest) :
    ∃ first between, a.Reads ts first between ∧ b.Reads between value rest := by
  obtain ⟨⟨first, _⟩, hpair, rfl⟩ := reads_map_iff.mp h
  obtain ⟨between, hfirst, hsecond⟩ := hpair.of_pair
  exact ⟨first, between, hfirst, hsecond⟩

/-- Of two rules of which the first is kept, the second is read behind it. -/
theorem Reads.of_keepThen {a : Rule α} {b : Rule β} {value : α}
    (h : (keepThen a b).Reads ts value rest) :
    ∃ second between, a.Reads ts value between ∧ b.Reads between second rest := by
  obtain ⟨⟨_, second⟩, hpair, rfl⟩ := reads_map_iff.mp h
  obtain ⟨between, hfirst, hsecond⟩ := hpair.of_pair
  exact ⟨second, between, hfirst, hsecond⟩

/-- **Three rules** are read one after the other. -/
theorem Reads.of_triple {a : Rule α} {b : Rule β} {c : Rule γ} {value : α × β × γ}
    (h : (triple a b c).Reads ts value rest) :
    ∃ t₁ t₂, a.Reads ts value.1 t₁ ∧ b.Reads t₁ value.2.1 t₂ ∧ c.Reads t₂ value.2.2 rest := by
  obtain ⟨moved, h⟩ := h
  unfold triple ofParts at h
  dsimp only at h
  obtain ⟨p, hp, rfl, rfl⟩ := Progress.of_outcome h
  obtain ⟨p₁, v₁, h₁, hvalue₁, hp⟩ := Progress.of_bind_step hp
  obtain ⟨p₂, v₂, h₂, hvalue₂, hp⟩ := Progress.of_bind_step hp
  obtain ⟨v₃, h₃, hvalue₃⟩ := Progress.reads_of_step hp
  rw [hvalue₃, hvalue₂, hvalue₁]
  exact ⟨p₁.rest, p₂.rest, h₁, h₂, h₃⟩

/-- **Five rules** are read one after the other. -/
theorem Reads.of_quintuple {a : Rule α} {b : Rule β} {c : Rule γ} {d : Rule δ} {e : Rule ε}
    {value : α × β × γ × δ × ε} (h : (quintuple a b c d e).Reads ts value rest) :
    ∃ t₁ t₂ t₃ t₄, a.Reads ts value.1 t₁ ∧ b.Reads t₁ value.2.1 t₂ ∧ c.Reads t₂ value.2.2.1 t₃
      ∧ d.Reads t₃ value.2.2.2.1 t₄ ∧ e.Reads t₄ value.2.2.2.2 rest := by
  obtain ⟨moved, h⟩ := h
  unfold quintuple ofParts at h
  dsimp only at h
  obtain ⟨p, hp, rfl, rfl⟩ := Progress.of_outcome h
  obtain ⟨p₁, v₁, h₁, hvalue₁, hp⟩ := Progress.of_bind_step hp
  obtain ⟨p₂, v₂, h₂, hvalue₂, hp⟩ := Progress.of_bind_step hp
  obtain ⟨p₃, v₃, h₃, hvalue₃, hp⟩ := Progress.of_bind_step hp
  obtain ⟨p₄, v₄, h₄, hvalue₄, hp⟩ := Progress.of_bind_step hp
  obtain ⟨v₅, h₅, hvalue₅⟩ := Progress.reads_of_step hp
  rw [hvalue₅, hvalue₄, hvalue₃, hvalue₂, hvalue₁]
  exact ⟨p₁.rest, p₂.rest, p₃.rest, p₄.rest, h₁, h₂, h₃, h₄, h₅⟩

/-- **Six rules** are read one after the other. -/
theorem Reads.of_sextuple {a : Rule α} {b : Rule β} {c : Rule γ} {d : Rule δ} {e : Rule ε}
    {f : Rule ζ} {value : α × β × γ × δ × ε × ζ} (h : (sextuple a b c d e f).Reads ts value rest) :
    ∃ t₁ t₂ t₃ t₄ t₅, a.Reads ts value.1 t₁ ∧ b.Reads t₁ value.2.1 t₂
      ∧ c.Reads t₂ value.2.2.1 t₃ ∧ d.Reads t₃ value.2.2.2.1 t₄
      ∧ e.Reads t₄ value.2.2.2.2.1 t₅ ∧ f.Reads t₅ value.2.2.2.2.2 rest := by
  obtain ⟨moved, h⟩ := h
  unfold sextuple ofParts at h
  dsimp only at h
  obtain ⟨p, hp, rfl, rfl⟩ := Progress.of_outcome h
  obtain ⟨p₁, v₁, h₁, hvalue₁, hp⟩ := Progress.of_bind_step hp
  obtain ⟨p₂, v₂, h₂, hvalue₂, hp⟩ := Progress.of_bind_step hp
  obtain ⟨p₃, v₃, h₃, hvalue₃, hp⟩ := Progress.of_bind_step hp
  obtain ⟨p₄, v₄, h₄, hvalue₄, hp⟩ := Progress.of_bind_step hp
  obtain ⟨p₅, v₅, h₅, hvalue₅, hp⟩ := Progress.of_bind_step hp
  obtain ⟨v₆, h₆, hvalue₆⟩ := Progress.reads_of_step hp
  rw [hvalue₆, hvalue₅, hvalue₄, hvalue₃, hvalue₂, hvalue₁]
  exact ⟨p₁.rest, p₂.rest, p₃.rest, p₄.rest, p₅.rest, h₁, h₂, h₃, h₄, h₅, h₆⟩

/-! ## Choices and repetitions -/

/-- **Of two rules** one or the other is read. -/
theorem Reads.of_orElse {a b : Rule α} {value : α} (h : (orElse a b).Reads ts value rest) :
    a.Reads ts value rest ∨ b.Reads ts value rest := by
  obtain ⟨moved, h⟩ := h
  unfold orElse at h
  dsimp only at h
  cases hfirst : a.read ts with
  | ok moved' value' rest' =>
    rw [hfirst] at h
    obtain ⟨rfl, rfl, rfl⟩ := Outcome.ok.inj h
    exact .inl ⟨_, hfirst⟩
  | refused => rw [hfirst] at h; cases h
  | stuck first =>
    rw [hfirst] at h
    cases hsecond : b.read ts with
    | ok moved' value' rest' =>
      rw [hsecond] at h
      obtain ⟨rfl, rfl, rfl⟩ := Outcome.ok.inj h
      exact .inr ⟨_, hsecond⟩
    | refused => rw [hsecond] at h; cases h
    | stuck => rw [hsecond] at h; cases h

/-- **A rule that may read nothing** reads its piece, or nothing. -/
theorem Reads.of_optional {r : Rule α} {value : Option α}
    (h : (optional r).Reads ts value rest) :
    (∃ v, r.Reads ts v rest ∧ value = some v) ∨ value = none ∧ rest = ts := by
  obtain ⟨moved, h⟩ := h
  unfold optional at h
  dsimp only at h
  cases hread : r.read ts with
  | ok moved' v rest' =>
    rw [hread] at h
    obtain ⟨rfl, rfl, rfl⟩ := Outcome.ok.inj h
    exact .inl ⟨v, ⟨_, hread⟩, rfl⟩
  | stuck =>
    rw [hread] at h
    obtain ⟨-, rfl, rfl⟩ := Outcome.ok.inj h
    exact .inr ⟨rfl, rfl⟩
  | refused => rw [hread] at h; cases h

/-- A repetition comes behind what was read before it. -/
theorem exists_of_readMany {r : Rule α} {fuel : Nat} {moved moved' : Bool} {before values : List α}
    (h : readMany r fuel moved before ts = .ok moved' values rest) :
    ∃ more, values = before.reverse ++ more := by
  induction fuel generalizing moved before ts with
  | zero =>
    obtain ⟨-, rfl, -⟩ := Outcome.ok.inj h
    exact ⟨[], (List.append_nil _).symm⟩
  | succ fuel ih =>
    unfold readMany at h
    cases hread : r.read ts with
    | ok step value rest' =>
      rw [hread] at h
      obtain ⟨more, rfl⟩ := ih h
      exact ⟨value :: more, by rw [List.reverse_cons, List.append_assoc]; rfl⟩
    | stuck =>
      rw [hread] at h
      obtain ⟨-, rfl, -⟩ := Outcome.ok.inj h
      exact ⟨[], (List.append_nil _).symm⟩
    | refused => rw [hread] at h; cases h

/-- A repetition of what is not there reads nothing. -/
theorem Reads.of_many {r : Rule α} {values : List α} (h : (many r).Reads ts values rest)
    (hnone : ∀ value rest, ¬ r.Reads ts value rest) : values = [] ∧ rest = ts := by
  obtain ⟨moved, h⟩ := h
  unfold many at h
  dsimp only at h
  unfold readMany at h
  cases hread : r.read ts with
  | ok moved' value rest' => exact absurd ⟨moved', hread⟩ (hnone value rest')
  | stuck =>
    rw [hread] at h
    obtain ⟨-, rfl, rfl⟩ := Outcome.ok.inj h
    exact ⟨rfl, rfl⟩
  | refused => rw [hread] at h; cases h

/-- **A rule that is read at least once** is read first. -/
theorem Reads.of_oneOrMore {r : Rule α} {values : List α} (h : (oneOrMore r).Reads ts values rest) :
    ∃ first more between, values = first :: more ∧ r.Reads ts first between := by
  obtain ⟨moved, h⟩ := h
  unfold oneOrMore at h
  dsimp only at h
  cases hread : r.read ts with
  | ok moved' first between =>
    rw [hread] at h
    obtain ⟨more, rfl⟩ := exists_of_readMany h
    exact ⟨first, more, between, rfl, ⟨moved', hread⟩⟩
  | stuck => rw [hread] at h; cases h
  | refused => rw [hread] at h; cases h

end Rule

end GraphGateway.GraphQL
