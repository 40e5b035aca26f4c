import GraphGateway.Number.Whole
import GraphGateway.Proofs.Number.Digits
import Mathlib.Data.List.Forall2
import Mathlib.Data.Nat.Digits.Defs

/-!
# Whole numbers in texts are read

A `Numeral` of a number is digits of base ten with its value, zeros before
them or not. A whole number up to a greatest one is read from its numerals,
before which a plus sign may stand, and from nothing else
(`read_eq_ok_iff`). Digits only make a number greater, so nothing is refused
on the way that would have come out small enough.

What is written as digits is such a numeral (`numeral_toDigits`), and so is a
number that is written (`numeral_toString`).

In other bases letters go on after the digits of base ten. A `NumeralIn` a base is
read however great its number is (`ofDigits?_eq_some_iff`).
-/

namespace GraphGateway.Whole

/-- **A numeral of a number** in base ten. -/
structure Numeral (digits : List Char) (n : Nat) : Prop where
  /-- There is a digit. -/
  ne_nil : digits ≠ []
  /-- There is nothing else. -/
  isDigit : ∀ c ∈ digits, c.isDigit = true
  /-- What the digits stand for. -/
  value : Nat.ofDigitChars 10 digits 0 = n

/-- The digits of base ten and their values. -/
theorem digit?_ten (c : Char) :
    digit? 10 c = if c.isDigit then some (c.toNat - '0'.toNat) else none := by
  have hiff : ('0' ≤ c && c ≤ '9') = c.isDigit := rfl
  rw [digit?, hiff]
  by_cases hdigit : c.isDigit = true
  · have hle := (Char.isDigit_iff_toNat.mp hdigit).2
    have hlt : c.toNat - '0'.toNat < 10 := by
      have hzero : '0'.toNat = 48 := rfl
      have hnine : '9'.toNat = 57 := rfl
      omega
    simp only [hdigit, if_true, hlt]
  · -- letters go on after nine
    simp only [hdigit]
    split
    · exact absurd ‹_› (by simp)
    · split
      · exact if_neg (by omega)
      · split
        · exact if_neg (by omega)
        · exact if_neg (by omega)

/-- The numeral that digits are written as. -/
theorem numeral_toDigits (n : Nat) : Numeral (Nat.toDigits 10 n) n :=
  ⟨Nat.toDigits_ne_nil, fun _ hc => Nat.isDigit_of_mem_toDigits (by decide) (by decide) hc,
    Nat.ofDigitChars_ten_toDigits⟩

/-- A number is written in the digits of base ten. -/
theorem numeral_toString (n : Nat) : Numeral (toString n).toList n := by
  simpa using numeral_toDigits n

/-- Digits are read as what they go on to. -/
theorem extend?_eq {digits : List Char} (h : ∀ c ∈ digits, c.isDigit = true) (number : Nat) :
    extend? 10 number digits = some (Nat.ofDigitChars 10 digits number) := by
  induction digits generalizing number with
  | nil => rfl
  | cons c digits ih =>
    rw [extend?, digit?_ten, if_pos (h c (List.mem_cons_self ..)), Option.bind_some,
      ih fun x hx => h x (List.mem_cons_of_mem _ hx), Nat.ofDigitChars_cons, Nat.mul_comm]

/-- **A numeral is read**, however great its number. -/
theorem Numeral.ofDigits?_eq {digits : List Char} {n : Nat} (h : Numeral digits n) :
    ofDigits? 10 digits = some n := by
  rw [ofDigits?, if_neg (by simpa using h.ne_nil), extend?_eq h.isDigit, h.value]

/-- **Digits are read up to a greatest number**, and only digits are. -/
theorem readDigits_eq_ok_iff {greatest number n : Nat} (hnumber : number ≤ greatest)
    {digits : List Char} :
    readDigits greatest number digits = .ok n
      ↔ (∀ c ∈ digits, c.isDigit = true) ∧ Nat.ofDigitChars 10 digits number = n
        ∧ n ≤ greatest := by
  induction digits generalizing number with
  | nil =>
    rw [readDigits, Except.ok.injEq]
    exact ⟨fun h => ⟨nofun, h, h ▸ hnumber⟩, fun h => h.2.1⟩
  | cons c digits ih =>
    rw [readDigits, digit?_ten]
    by_cases hdigit : c.isDigit = true
    · rw [if_pos hdigit, Nat.ofDigitChars_cons, Nat.mul_comm 10]
      dsimp only
      split
      · next hlarge =>
        -- more digits would not make the number smaller
        refine ⟨nofun, fun ⟨_, hvalue, hle⟩ => ?_⟩
        have hgrows := Digits.le_ofDigitChars digits (number * 10 + (c.toNat - '0'.toNat))
        omega
      · next hsmall =>
        rw [ih (Nat.le_of_not_lt hsmall), List.forall_mem_cons]
        simp [hdigit]
    · rw [if_neg hdigit]
      exact ⟨nofun, fun ⟨hdigits, _⟩ => absurd (hdigits c (List.mem_cons_self ..)) hdigit⟩

/-- **What a whole number is read from**: its numerals, before which a plus sign
may stand, if it is not too great. -/
theorem read_eq_ok_iff {greatest n : Nat} {text : List Char} :
    read greatest text = .ok n
      ↔ ∃ digits, (text = digits ∨ text = '+' :: digits) ∧ Numeral digits n ∧ n ≤ greatest := by
  have hdigits (digits : List Char) (hne : digits ≠ []) :
      readDigits greatest 0 digits = .ok n ↔ Numeral digits n ∧ n ≤ greatest := by
    rw [readDigits_eq_ok_iff (Nat.zero_le _)]
    exact ⟨fun ⟨hall, hvalue, hle⟩ => ⟨⟨hne, hall, hvalue⟩, hle⟩,
      fun ⟨h, hle⟩ => ⟨h.isDigit, h.value, hle⟩⟩
  have hsign : '+'.isDigit = false := rfl
  constructor
  · intro h
    unfold read at h
    split at h
    · cases h
    · cases h
    · next digits hne =>
      exact ⟨digits, .inr rfl, (hdigits digits (by rintro rfl; exact hne rfl)).mp h⟩
    · next digits hne _ _ => exact ⟨text, .inl rfl, (hdigits text hne).mp h⟩
  · rintro ⟨digits, rfl | rfl, hnumeral, hle⟩
    · obtain ⟨c, rest, rfl⟩ := List.exists_cons_of_ne_nil hnumeral.ne_nil
      have hc : c ≠ '+' := by
        rintro rfl
        exact absurd (hnumeral.isDigit _ (List.mem_cons_self ..)) (by simp [hsign])
      rw [read]
      · exact (hdigits _ hnumeral.ne_nil).mpr ⟨hnumeral, hle⟩
      · nofun
      · rintro ⟨⟩
        exact hc rfl
      · rintro _ ⟨⟩
        exact hc rfl
    · rw [read]
      · exact (hdigits _ hnumeral.ne_nil).mpr ⟨hnumeral, hle⟩
      · exact hnumeral.ne_nil

/-! ## Other bases -/

/-- **Whether a character is the digit of a value.** Letters of either case go on
after nine. -/
def IsDigit (c : Char) (value : Nat) : Prop :=
  value < 10 ∧ c.toNat = '0'.toNat + value
    ∨ 10 ≤ value ∧ value < 36
      ∧ (c.toNat + 10 = 'a'.toNat + value ∨ c.toNat + 10 = 'A'.toNat + value)

/-- **A numeral of a number in a base**, whose digits are those of the greatest places
first. -/
def NumeralIn (base : Nat) (digits : List Char) (n : Nat) : Prop :=
  ∃ values, values ≠ [] ∧ List.Forall₂ (fun c value => value < base ∧ IsDigit c value) digits values
    ∧ Nat.ofDigits base values.reverse = n

/-- The characters that are digits of a base. -/
theorem digit?_eq_some_iff {base : Nat} {c : Char} {value : Nat} :
    digit? base c = some value ↔ value < base ∧ IsDigit c value := by
  have hle (c d : Char) : c ≤ d ↔ c.toNat ≤ d.toNat := UInt32.le_iff_toNat_le
  have hzero : '0'.toNat = 48 := rfl
  have hnine : '9'.toNat = 57 := rfl
  have ha : 'a'.toNat = 97 := rfl
  have hz : 'z'.toNat = 122 := rfl
  have hA : 'A'.toNat = 65 := rfl
  have hZ : 'Z'.toNat = 90 := rfl
  rw [digit?, IsDigit]
  simp only [Bool.and_eq_true, decide_eq_true_eq, hle, hzero, hnine, ha, hz, hA, hZ,
    Option.ite_none_right_eq_some, Option.some.injEq]
  split_ifs <;> omega

/-- Digits go on to what their values add up to behind a number. -/
theorem extend?_eq_some_iff {base number n : Nat} {digits : List Char} :
    extend? base number digits = some n
      ↔ ∃ values, List.Forall₂ (fun c value => value < base ∧ IsDigit c value) digits values
        ∧ values.foldl (fun n value => n * base + value) number = n := by
  induction digits generalizing number with
  | nil => simp [extend?]
  | cons c digits ih =>
    rw [extend?, Option.bind_eq_some_iff]
    constructor
    · rintro ⟨value, hvalue, hn⟩
      obtain ⟨values, hvalues, hn⟩ := ih.mp hn
      exact ⟨value :: values, .cons (digit?_eq_some_iff.mp hvalue) hvalues, hn⟩
    · rintro ⟨_, ⟨⟩ | ⟨hvalue, hvalues⟩, hn⟩
      exact ⟨_, digit?_eq_some_iff.mpr hvalue, ih.mpr ⟨_, hvalues, hn⟩⟩

/-- **The digits of a base are read as the number whose numeral they are.** -/
theorem ofDigits?_eq_some_iff {base n : Nat} {digits : List Char} :
    ofDigits? base digits = some n ↔ NumeralIn base digits n := by
  have hvalue (values : List Nat) :
      Nat.ofDigits base values.reverse = values.foldl (fun n value => n * base + value) 0 := by
    rw [Nat.ofDigits_eq_foldr, List.foldr_reverse]
    simp only [Nat.cast_id, Nat.mul_comm base, Nat.add_comm]
  rw [NumeralIn]
  cases digits with
  | nil =>
    constructor
    · nofun
    · rintro ⟨_, hne, ⟨⟩, -⟩
      exact absurd rfl hne
  | cons c digits =>
    rw [ofDigits?, List.isEmpty_cons, if_neg Bool.false_ne_true, extend?_eq_some_iff]
    simp only [hvalue]
    constructor
    · rintro ⟨_, ⟨⟩ | ⟨hc, hdigits⟩, hn⟩
      exact ⟨_, List.cons_ne_nil _ _, .cons hc hdigits, hn⟩
    · rintro ⟨values, -, h⟩
      exact ⟨values, h⟩

end GraphGateway.Whole
