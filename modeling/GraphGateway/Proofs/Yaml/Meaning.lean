import GraphGateway.Proofs.Number.Whole
import GraphGateway.Yaml.Meaning

/-!
# Numbers in scalars

A scalar without quotes names a whole number in digits of base ten, or in
digits of base sixteen, eight or two behind the mark of the base, and a plus
sign may stand before them (`NamesNumber`). Behind a zero no other digits of
base ten may stand: that is how texts such as `007` keep their zeros.
-/

namespace GraphGateway.Yaml

open Whole (NumeralIn)

/-- The marks of bases. -/
def marks : List (Char × Nat) := [('x', 16), ('o', 8), ('b', 2)]

/-- No mark is that of two bases. -/
theorem eq_of_mem_marks {mark : Char} {base base' : Nat} (h : (mark, base) ∈ marks)
    (h' : (mark, base') ∈ marks) : base = base' := by
  simp only [marks, List.mem_cons, Prod.mk.injEq, List.not_mem_nil, or_false] at h h'
  obtain ⟨rfl, rfl⟩ | ⟨rfl, rfl⟩ | ⟨rfl, rfl⟩ := h <;> simpa [eq_comm] using h'

/-- **Whether a text without a sign names a number.** -/
inductive IsNumber : List Char → Nat → Prop where
  /-- Digits of base ten, and no others behind a zero. -/
  | decimal {digits : List Char} {n : Nat} (h : NumeralIn 10 digits n)
    (hzero : ∀ more, digits = '0' :: more → more = []) : IsNumber digits n
  /-- Digits behind the mark of their base. -/
  | marked {mark : Char} {base : Nat} {digits : List Char} {n : Nat}
    (hmark : (mark, base) ∈ marks) (h : NumeralIn base digits n) :
    IsNumber ('0' :: mark :: digits) n

/-- **Whether a text names a number**: a plus sign may stand before it. -/
def NamesNumber (text : List Char) (n : Nat) : Prop :=
  ∃ number, (text = number ∨ text = '+' :: number) ∧ IsNumber number n

/-- The digits of base ten are digits. -/
theorem isDigit_of_numeralIn {digits : List Char} {n : Nat} (h : NumeralIn 10 digits n) :
    ∀ c ∈ digits, c.isDigit = true := by
  obtain ⟨values, -, hvalues, -⟩ := h
  intro c hc
  obtain ⟨i, hi, rfl⟩ := List.getElem_of_mem hc
  obtain ⟨hlt, hdigit⟩ := hvalues.get hi (hvalues.length_eq ▸ hi)
  rw [Whole.IsDigit] at hdigit
  rw [Char.isDigit_iff_toNat]
  have hzero : '0'.toNat = 48 := rfl
  have hnine : '9'.toNat = 57 := rfl
  simp only [List.get_eq_getElem] at hdigit hlt
  omega

/-- A number begins with a digit. -/
theorem IsNumber.exists_cons {number : List Char} {n : Nat} (h : IsNumber number n) :
    ∃ c more, number = c :: more ∧ c.isDigit = true := by
  cases h with
  | decimal h hzero =>
    have hne : number ≠ [] := by
      rintro rfl
      obtain ⟨_, hne, ⟨⟩, -⟩ := h
      exact hne rfl
    obtain ⟨c, more, rfl⟩ := List.exists_cons_of_ne_nil hne
    exact ⟨c, more, rfl, isDigit_of_numeralIn h c (List.mem_cons_self ..)⟩
  | marked => exact ⟨_, _, rfl, rfl⟩

/-- Digits of base ten are a number if they do not stand behind a zero. -/
theorem Meaning.hasLeadingZero_eq_false_iff {text digits : List Char} {n : Nat}
    (h : NumeralIn 10 digits n) (htext : text = digits ∨ text = '+' :: digits) :
    hasLeadingZero text = false ↔ ∀ more, digits = '0' :: more → more = [] := by
  have hall := isDigit_of_numeralIn h
  cases digits with
  | nil => obtain rfl | rfl := htext <;> exact ⟨fun _ => nofun, fun _ => rfl⟩
  | cons c digits =>
    obtain ⟨hc, hdigits⟩ := List.forall_mem_cons.mp hall
    have hplus : c ≠ '+' := by rintro rfl; cases hc
    have hminus : c ≠ '-' := by rintro rfl; cases hc
    have hrest : digits.all Char.isDigit = true := List.all_eq_true.mpr hdigits
    by_cases hzero : c = '0'
    · subst hzero
      obtain rfl | rfl := htext <;> simp [hasLeadingZero, hrest]
    · obtain rfl | rfl := htext <;> simp [hasLeadingZero, hplus, hminus, hzero]

variable {bound n : Nat} {text : List Char}

/-- What is below a bound is kept. -/
theorem Meaning.below_eq_some_iff {n? : Option Nat} :
    below bound n? = some n ↔ n? = some n ∧ n < bound := by
  rw [below, Option.filter_eq_some_iff, decide_eq_true_eq]

/-- Behind its mark a number is read in its base. -/
theorem Meaning.unsigned?_of_mark {mark : Char} {base : Nat} {digits : List Char}
    (hmark : (mark, base) ∈ marks)
    (htext : text = '0' :: mark :: digits ∨ text = '+' :: '0' :: mark :: digits) :
    unsigned? bound text = below bound (Whole.ofDigits? base digits) := by
  -- a mark is no digit of base ten
  have hdecimal (hmark : Whole.ofDigits? 10 ('0' :: mark :: digits) = none) :
      (if hasLeadingZero text then none
        else below bound (Whole.ofDigits? 10 ('0' :: mark :: digits))) = none := by
    rw [hmark]
    exact ite_self none
  simp only [marks, List.mem_cons, Prod.mk.injEq, List.not_mem_nil, or_false] at hmark
  obtain ⟨rfl, rfl⟩ | ⟨rfl, rfl⟩ | ⟨rfl, rfl⟩ := hmark <;> obtain rfl | rfl := htext <;>
    exact (congrArg (Option.or _) (hdecimal rfl)).trans Option.or_none

/-- Without a mark a number is read in base ten, if it has no zero before other digits. -/
theorem Meaning.unsigned?_of_unmarked {number : List Char}
    (htext : text = number ∧ number.head? ≠ some '+' ∨ text = '+' :: number)
    (hmark : ∀ mark base digits, (mark, base) ∈ marks → number ≠ '0' :: mark :: digits) :
    unsigned? bound text =
      if hasLeadingZero text then none else below bound (Whole.ofDigits? 10 number) := by
  unfold unsigned?
  obtain ⟨rfl, hplus⟩ | rfl := htext
  · split
    · exact absurd rfl hplus
    · dsimp only
      split
      · exact (hmark 'x' 16 _ (by decide) rfl).elim
      · exact (hmark 'o' 8 _ (by decide) rfl).elim
      · exact (hmark 'b' 2 _ (by decide) rfl).elim
      · rfl
  · dsimp only
    split
    · next hx => exact (hmark 'x' 16 _ (by decide) hx).elim
    · next ho => exact (hmark 'o' 8 _ (by decide) ho).elim
    · next hb => exact (hmark 'b' 2 _ (by decide) hb).elim
    · rfl

/-- **What stands behind a sign, if there is one, is read as the number that it is.** -/
theorem Meaning.unsigned?_eq_some_iff_isNumber {number : List Char}
    (htext : text = number ∧ number.head? ≠ some '+' ∨ text = '+' :: number) :
    unsigned? bound text = some n ↔ IsNumber number n ∧ n < bound := by
  by_cases hmark : ∃ mark base digits, (mark, base) ∈ marks ∧ number = '0' :: mark :: digits
  · obtain ⟨mark, base, digits, hmark, rfl⟩ := hmark
    rw [unsigned?_of_mark hmark (htext.imp_left And.left), below_eq_some_iff,
      Whole.ofDigits?_eq_some_iff]
    refine and_congr_left fun _ => ⟨.marked hmark, fun h => ?_⟩
    cases h with
    | decimal h hzero => cases hzero _ rfl
    | marked hmark' h =>
      rwa [eq_of_mem_marks hmark hmark']
  · rw [unsigned?_of_unmarked htext fun mark base digits h hnumber =>
      hmark ⟨mark, base, digits, h, hnumber⟩, Option.ite_none_left_eq_some, below_eq_some_iff,
      Whole.ofDigits?_eq_some_iff, Bool.not_eq_true, ← and_assoc]
    refine and_congr_left fun _ => ⟨fun ⟨hlead, h⟩ => .decimal h ?_, fun h => ?_⟩
    · exact (hasLeadingZero_eq_false_iff h (htext.imp_left And.left)).mp hlead
    · cases h with
      | decimal h hzero =>
        exact ⟨(hasLeadingZero_eq_false_iff h (htext.imp_left And.left)).mpr hzero, h⟩
      | marked hmark' h => exact (hmark ⟨_, _, _, hmark', rfl⟩).elim

/-- **A text is read as the number that it names**, if that is below the bound. -/
theorem Meaning.unsigned?_eq_some_iff :
    unsigned? bound text = some n ↔ NamesNumber text n ∧ n < bound := by
  by_cases htext : ∃ more, text = '+' :: more
  · obtain ⟨more, rfl⟩ := htext
    rw [unsigned?_eq_some_iff_isNumber (.inr rfl)]
    refine and_congr_left fun _ => ⟨fun h => ⟨more, .inr rfl, h⟩, ?_⟩
    rintro ⟨number, rfl | hnumber, h⟩
    · obtain ⟨_, _, ⟨⟩, hc⟩ := h.exists_cons
      cases hc
    · rwa [(List.cons.inj hnumber).2]
  · have hhead : text.head? ≠ some '+' := fun h => htext ⟨_, List.eq_cons_of_mem_head? h⟩
    rw [unsigned?_eq_some_iff_isNumber (.inl ⟨rfl, hhead⟩)]
    refine and_congr_left fun _ => ⟨fun h => ⟨text, .inl rfl, h⟩, ?_⟩
    rintro ⟨number, rfl | rfl, h⟩
    · exact h
    · exact (htext ⟨_, rfl⟩).elim

/-- A number names itself as it is written. -/
theorem namesNumber_toString (n : Nat) : NamesNumber (toString n).toList n :=
  ⟨_, .inl rfl, .decimal (Whole.ofDigits?_eq_some_iff.mp (Whole.numeral_toString n).ofDigits?_eq)
    fun _ hzero => Digits.toDigits_head_zero n (by simpa using hzero)⟩

end GraphGateway.Yaml
