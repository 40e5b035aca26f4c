import GraphGateway.Json.Node
import GraphGateway.Json.Printer
import GraphGateway.Proofs.Except
import GraphGateway.Proofs.Json.Grammar
import GraphGateway.Proofs.Number.Digits
import GraphGateway.Proofs.Text.Utf8

/-!
# Numerals are read

A numeral of the grammar is found in full wherever it stands, as long as the
octet behind it does not go on with it (`EndsNumeral`, `Numeral.exists_scan`).
The number it stands for is the same at every place, since only faults have
places (`Numeral.toOption_value`).

The digits of a whole number are read as the number that they were written
for. No zero is written before other digits, and a number that fits 64 bits
loses no digit, so the number comes back exactly (`scan_signText`,
`value_digits`). Floating-point numbers are not written here.
-/

namespace GraphGateway.Json

open Grammar
open Text.Utf8 (octetsOf)

/-- **Whether a numeral ends before some octets**: the first of them is no
digit, and opens neither a fraction nor an exponent. -/
def EndsNumeral (rest : List UInt8) : Prop :=
  ∀ b ∈ rest.head?, isDigit b = false ∧ b ≠ 0x2E ∧ b ≠ 0x65 ∧ b ≠ 0x45

/-- A numeral ends where the text does. -/
theorem endsNumeral_nil : EndsNumeral [] := fun b hb => absurd hb (Option.not_mem_none b)

/-- Whether a number is whole. -/
def Number.isWhole : Number → Bool
  | float _ => false
  | _ => true

namespace Numeral

/-! ## The pieces of a numeral -/

/-- **All digits at a place are taken.** -/
theorem digitsFrom_append {digits rest : List UInt8} (h : ∀ b ∈ digits, isDigit b = true)
    (hrest : ∀ b ∈ rest.head?, isDigit b = false) (offset : Nat) :
    digitsFrom offset (digits ++ rest) = (digits, ⟨offset + digits.length, rest⟩) := by
  induction digits generalizing offset with
  | nil =>
    cases rest with
    | nil => rfl
    | cons b rest =>
      show digitsFrom offset (b :: rest) = ([], ⟨offset, b :: rest⟩)
      rw [digitsFrom, if_neg (by simp [hrest b rfl])]
  | cons b digits ih =>
    rw [List.cons_append, digitsFrom, if_pos (h b (List.mem_cons_self ..)),
      ih fun x hx => h x (List.mem_cons_of_mem _ hx)]
    simp only [List.length_cons, Nat.add_assoc, Nat.add_comm 1]

/-- The digits before the point are found. -/
theorem scanWhole_append {whole rest : List UInt8} (h : IsWhole whole)
    (hrest : ∀ b ∈ rest.head?, isDigit b = false) (offset : Nat) :
    scanWhole ⟨offset, whole ++ rest⟩ = .ok (whole, ⟨offset + whole.length, rest⟩) := by
  cases h with
  | zero =>
    rw [scanWhole, digitsAt, digitsFrom_append (by simp [isDigit]) hrest]
    rfl
  | digits hzero hdigits =>
    rw [scanWhole, digitsAt, digitsFrom_append hdigits.2 hrest]
    exact if_neg (by simp [hzero])

/-- Where no point stands there is no fraction. -/
theorem scanFraction_of_ne {rest : List UInt8} (hrest : ∀ b ∈ rest.head?, b ≠ 0x2E)
    (offset : Nat) : scanFraction ⟨offset, rest⟩ = .ok (none, ⟨offset, rest⟩) :=
  if_neg fun hpoint => hrest 0x2E (by simpa [Cursor.peek?] using hpoint) rfl

/-- **A fraction is found**, if it is there. -/
theorem exists_scanFraction {text : List UInt8} (h : IsFraction text) :
    ∃ fraction, ∀ rest : List UInt8, (∀ b ∈ rest.head?, isDigit b = false ∧ b ≠ 0x2E) →
      ∀ offset, scanFraction ⟨offset, text ++ rest⟩
        = .ok (fraction, ⟨offset + text.length, rest⟩) := by
  cases h with
  | none => exact ⟨none, fun rest hrest => scanFraction_of_ne fun b hb => (hrest b hb).2⟩
  | @some digits hdigits =>
    refine ⟨some digits, fun rest hrest offset => ?_⟩
    have hfrom : digitsAt (Cursor.step ⟨offset, 0x2E :: digits ++ rest⟩)
        = (digits, ⟨offset + (0x2E :: digits).length, rest⟩) := by
      rw [List.length_cons, Nat.add_comm digits.length, ← Nat.add_assoc]
      exact digitsFrom_append hdigits.2 (fun b hb => (hrest b hb).1) (offset + 1)
    obtain ⟨b, more, rfl⟩ := List.exists_cons_of_ne_nil hdigits.1
    rw [scanFraction, hfrom]
    rfl

/-- A sign before digits is found, if it is there. -/
theorem sign_append {sign digits : List UInt8} (hsign : sign ∈ [[], [0x2B], [0x2D]])
    (hdigits : Digits digits) (rest : List UInt8) (offset : Nat) :
    let c : Cursor := ⟨offset, sign ++ (digits ++ rest)⟩
    (c.peek? == some 0x2D) = (sign == [0x2D])
      ∧ (if (sign == [0x2D]) || c.peek? == some 0x2B then c.step else c)
        = ⟨offset + sign.length, digits ++ rest⟩ := by
  simp only [List.mem_cons, List.not_mem_nil, or_false] at hsign
  rcases hsign with rfl | rfl | rfl
  · -- without a sign the first octet is a digit
    obtain ⟨b, more, rfl⟩ := List.exists_cons_of_ne_nil hdigits.1
    have hb : ∀ other, isDigit other = false → b ≠ other := by
      rintro other hother rfl
      exact Bool.false_ne_true (hother.symm.trans (hdigits.2 b (List.mem_cons_self ..)))
    simp [Cursor.peek?, hb 0x2D rfl, hb 0x2B rfl]
  · exact ⟨rfl, rfl⟩
  · exact ⟨rfl, rfl⟩

/-- Where a numeral ends there is no exponent. -/
theorem scanExponent_of_endsNumeral {rest : List UInt8} (hrest : EndsNumeral rest)
    (offset : Nat) : scanExponent ⟨offset, rest⟩ = .ok (none, ⟨offset, rest⟩) := by
  refine if_neg fun hletter => ?_
  rw [Bool.or_eq_true, beq_iff_eq, beq_iff_eq] at hletter
  rcases hletter with hletter | hletter
  · exact (hrest 0x65 hletter).2.2.1 rfl
  · exact (hrest 0x45 hletter).2.2.2 rfl

/-- **An exponent is found**, if it is there. -/
theorem exists_scanExponent {text : List UInt8} (h : IsExponent text) :
    ∃ exponent, ∀ rest : List UInt8, EndsNumeral rest →
      ∀ offset, scanExponent ⟨offset, text ++ rest⟩
        = .ok (exponent, ⟨offset + text.length, rest⟩) := by
  cases h with
  | none => exact ⟨none, fun rest hrest => scanExponent_of_endsNumeral hrest⟩
  | @some letter sign digits hletter hsign hdigits =>
    refine ⟨some (sign == [0x2D], digits), fun rest hrest offset => ?_⟩
    obtain ⟨hnegative, hfirst⟩ := sign_append hsign hdigits rest (offset + 1)
    have hfrom : digitsAt ⟨offset + 1 + sign.length, digits ++ rest⟩
        = (digits, ⟨offset + (letter :: (sign ++ digits)).length, rest⟩) := by
      have hlength : offset + (letter :: (sign ++ digits)).length
          = offset + 1 + sign.length + digits.length := by
        rw [List.length_cons, List.length_append]
        omega
      rw [hlength]
      exact digitsFrom_append hdigits.2 (fun b hb => (hrest b hb).1) _
    have hopens : (some letter == some (0x65 : UInt8) || some letter == some 0x45) = true := by
      simpa using hletter
    obtain ⟨b, more, rfl⟩ := List.exists_cons_of_ne_nil hdigits.1
    have hstep : Cursor.step ⟨offset, letter :: (sign ++ (b :: more ++ rest))⟩
        = ⟨offset + 1, sign ++ (b :: more ++ rest)⟩ := rfl
    rw [List.cons_append, List.append_assoc]
    refine (if_pos hopens).trans ?_
    simp only [hstep, hnegative, hfirst, hfrom]

/-! ## Numerals of the grammar -/

/-- What an exponent starts with, or what stands behind it where it is missing, does not go on
with the digits behind the point. -/
theorem head_exponent_append {text rest : List UInt8} (h : IsExponent text)
    (hrest : EndsNumeral rest) : ∀ b ∈ (text ++ rest).head?, isDigit b = false ∧ b ≠ 0x2E := by
  intro b hb
  cases h with
  | none => exact ⟨(hrest b hb).1, (hrest b hb).2.1⟩
  | some hletter =>
    obtain rfl := Option.some.inj hb
    simp only [List.mem_cons, List.not_mem_nil, or_false] at hletter
    rcases hletter with rfl | rfl <;> decide

/-- What a fraction starts with, or what stands behind it where it is missing, does not go on with
the digits before the point. -/
theorem head_fraction_append {text rest : List UInt8} (h : IsFraction text)
    (hrest : ∀ b ∈ rest.head?, isDigit b = false ∧ b ≠ 0x2E) :
    ∀ b ∈ (text ++ rest).head?, isDigit b = false := by
  intro b hb
  cases h with
  | none => exact (hrest b hb).1
  | some =>
    obtain rfl := Option.some.inj hb
    rfl

/-- The rest of a numeral behind its sign. -/
def scanUnsigned (negative : Bool) (c : Cursor) : Except Malformed Numeral := do
  let (whole, behindWhole) ← scanWhole c
  let (fraction, behindFraction) ← scanFraction behindWhole
  let (exponent, stop) ← scanExponent behindFraction
  return { negative, whole, fraction, exponent, stop }

/-- A numeral without a minus sign is scanned from its first digit on. -/
theorem scan_of_isDigit {b : UInt8} (hb : isDigit b = true) (offset : Nat) (rest : List UInt8) :
    scan ⟨offset, b :: rest⟩ = scanUnsigned false ⟨offset, b :: rest⟩ := by
  have hsign : (Cursor.peek? ⟨offset, b :: rest⟩ == some 0x2D) = false := by
    refine beq_eq_false_iff_ne.mpr fun h => ?_
    rw [Option.some.inj h] at hb
    exact absurd hb (by decide)
  rw [scan, hsign]
  rfl

/-- **What stands behind the sign of a numeral** is found. -/
theorem exists_scanUnsigned {whole fractionText exponentText : List UInt8} (hwhole : IsWhole whole)
    (hfraction : IsFraction fractionText) (hexponent : IsExponent exponentText) :
    ∃ fraction exponent, ∀ (negative : Bool) (rest : List UInt8), EndsNumeral rest → ∀ offset,
      scanUnsigned negative ⟨offset, whole ++ fractionText ++ exponentText ++ rest⟩
        = .ok ⟨negative, whole, fraction, exponent,
          ⟨offset + (whole ++ fractionText ++ exponentText).length, rest⟩⟩ := by
  obtain ⟨fraction, hscanFraction⟩ := exists_scanFraction hfraction
  obtain ⟨exponent, hscanExponent⟩ := exists_scanExponent hexponent
  refine ⟨fraction, exponent, fun negative rest hrest offset => ?_⟩
  -- no piece goes on with the one before it
  have hbehind := head_exponent_append hexponent hrest
  rw [List.append_assoc, List.append_assoc, scanUnsigned,
    scanWhole_append hwhole (head_fraction_append hfraction hbehind)]
  simp only [hscanFraction _ hbehind, hscanExponent _ hrest, ok_bind, List.length_append,
    Nat.add_assoc]
  rfl

/-- **A numeral is found**, and its pieces are the same at every place. -/
theorem exists_scan {text : List UInt8} (h : IsNumeral text) :
    ∃ negative whole fraction exponent, ∀ rest : List UInt8, EndsNumeral rest →
      ∀ offset, scan ⟨offset, text ++ rest⟩
        = .ok ⟨negative, whole, fraction, exponent, ⟨offset + text.length, rest⟩⟩ := by
  cases h with
  | @negative whole _ _ hwhole hfraction hexponent =>
    obtain ⟨fraction, exponent, hscan⟩ := exists_scanUnsigned hwhole hfraction hexponent
    refine ⟨true, whole, fraction, exponent, fun rest hrest offset => ?_⟩
    rw [List.length_cons, Nat.add_comm _ 1, ← Nat.add_assoc]
    exact hscan true rest hrest (offset + 1)
  | @positive whole _ _ hwhole hfraction hexponent =>
    obtain ⟨fraction, exponent, hscan⟩ := exists_scanUnsigned hwhole hfraction hexponent
    refine ⟨false, whole, fraction, exponent, fun rest hrest offset => ?_⟩
    rw [← hscan false rest hrest offset]
    obtain ⟨b, more, rfl, hb⟩ := hwhole.exists_cons
    exact scan_of_isDigit hb offset _

/-- **The number of a numeral does not depend on its place.** -/
theorem toOption_value (negative : Bool) (whole : List UInt8) (fraction : Option (List UInt8))
    (exponent : Option (Bool × List UInt8)) (stop stop' : Cursor) :
    (value ⟨negative, whole, fraction, exponent, stop⟩).toOption
      = (value ⟨negative, whole, fraction, exponent, stop'⟩).toOption := by
  cases exponent with
  | some exponent =>
    obtain ⟨negative', digits⟩ := exponent
    simp only [value]
    cases exponentValue 0 0 digits with
    | ok e =>
      dsimp only
      split <;> rfl
    | error read =>
      -- too large an exponent is refused at a digit, unless it does not matter
      simp only [apply_ite Except.toOption]
      rfl
  | none =>
    simp only [value]
    generalize (appendDigits 0 whole).2 = dropped
    cases fraction with
    | some digits =>
      dsimp only
      split <;> rfl
    | none =>
      cases dropped with
      | succ dropped =>
        dsimp only
        split
        · next hzero => exact absurd hzero dropped.succ_ne_zero
        · split <;> rfl
      | zero =>
        have hplace : wholeNumber? ⟨negative, whole, none, none, stop⟩
            = wholeNumber? ⟨negative, whole, none, none, stop'⟩ := rfl
        simp only [hplace]
        cases wholeNumber? ⟨negative, whole, none, none, stop'⟩ (appendDigits 0 whole).1 with
        | some n => rfl
        | none =>
          dsimp only
          split <;> rfl

/-- **The number of a numeral**, if it is not too large. -/
def numberOf? (text : List UInt8) : Option Number :=
  (scan (.start text)).toOption.bind fun numeral => numeral.value.toOption

/-- **A numeral is found, and stands for its number**, wherever it stands. -/
theorem scan_append {text rest : List UInt8} (h : IsNumeral text) (hrest : EndsNumeral rest)
    (offset : Nat) :
    ∃ numeral, scan ⟨offset, text ++ rest⟩ = .ok numeral
      ∧ numeral.stop = ⟨offset + text.length, rest⟩
      ∧ numeral.value.toOption = numberOf? text := by
  obtain ⟨negative, whole, fraction, exponent, hscan⟩ := exists_scan h
  have hstart := hscan [] endsNumeral_nil 0
  rw [List.append_nil] at hstart
  refine ⟨_, hscan rest hrest offset, rfl, ?_⟩
  rw [numberOf?, Cursor.start, hstart]
  exact toOption_value ..

/-! ## Digits -/

/-- A digit is one octet, which is a digit of the same value. -/
theorem utf8EncodeChar_of_isDigit {c : Char} (h : c.isDigit = true) :
    String.utf8EncodeChar c = [UInt8.ofNat c.toNat]
      ∧ isDigit (UInt8.ofNat c.toNat) = true
      ∧ digitValue (UInt8.ofNat c.toNat) = c.toNat - '0'.toNat := by
  rw [Char.isDigit_iff_toNat] at h
  have hnat : (UInt8.ofNat c.toNat).toNat = c.toNat :=
    UInt8.toNat_ofNat_of_lt' (Nat.lt_of_le_of_lt h.2 (by decide))
  refine ⟨Text.Utf8.utf8EncodeChar_of_ascii (Nat.lt_of_le_of_lt h.2 (by decide)), ?_, ?_⟩
  · rw [isDigit, Bool.and_eq_true, decide_eq_true_eq, decide_eq_true_eq, UInt8.le_iff_toNat_le,
      UInt8.le_iff_toNat_le, hnat]
    exact h
  · rw [digitValue, hnat]
    rfl

/-- **No digit is dropped** of a number that fits 64 bits. -/
theorem appendDigits_octetsOf {digits : List Char} (h : ∀ c ∈ digits, c.isDigit = true) {n : Nat}
    (hn : Nat.ofDigitChars 10 digits n ≤ greatestSignificand) :
    appendDigits n (octetsOf digits) = (Nat.ofDigitChars 10 digits n, 0) := by
  induction digits generalizing n with
  | nil => rfl
  | cons c digits ih =>
    obtain ⟨hencode, -, hvalue⟩ := utf8EncodeChar_of_isDigit (h c (List.mem_cons_self ..))
    rw [Nat.ofDigitChars_cons] at hn ⊢
    have hnext : n * 10 + digitValue (UInt8.ofNat c.toNat) = 10 * n + (c.toNat - '0'.toNat) := by
      rw [hvalue, Nat.mul_comm]
    have hle := Nat.le_trans (Digits.le_ofDigitChars digits _) hn
    rw [Text.Utf8.octetsOf_cons, hencode, List.singleton_append, appendDigits, hnext,
      if_neg (Nat.not_lt.mpr hle), ih (fun x hx => h x (List.mem_cons_of_mem _ hx)) hn]

/-- The digits of a number are digits. -/
theorem digits_toDigits (n : Nat) : Digits (octetsOf (Nat.toDigits 10 n)) := by
  have hdigits : ∀ c ∈ Nat.toDigits 10 n, c.isDigit = true :=
    fun c hc => Nat.isDigit_of_mem_toDigits (by decide) (by decide) hc
  constructor
  · intro hnil
    cases hn : Nat.toDigits 10 n with
    | nil => exact Nat.toDigits_ne_nil hn
    | cons c more =>
      obtain ⟨hencode, -, -⟩ := utf8EncodeChar_of_isDigit (hdigits c (hn ▸ List.mem_cons_self ..))
      rw [hn, Text.Utf8.octetsOf_cons, hencode] at hnil
      cases hnil
  · intro b hb
    obtain ⟨c, hc, hb⟩ := List.mem_flatMap.mp hb
    obtain ⟨hencode, hdigit, -⟩ := utf8EncodeChar_of_isDigit (hdigits c hc)
    rw [hencode, List.mem_singleton] at hb
    rw [hb]
    exact hdigit

/-- **The digits of a number may stand before a point**: no zero is written before other digits. -/
theorem isWhole_toDigits (n : Nat) : IsWhole (octetsOf (Nat.toDigits 10 n)) := by
  have hdigits := digits_toDigits n
  cases hn : Nat.toDigits 10 n with
  | nil => exact absurd hn Nat.toDigits_ne_nil
  | cons c more =>
    have hc : c.isDigit = true :=
      Nat.isDigit_of_mem_toDigits (by decide) (by decide) (hn ▸ List.mem_cons_self ..)
    obtain ⟨hencode, -, hvalue⟩ := utf8EncodeChar_of_isDigit hc
    rw [hn, Text.Utf8.octetsOf_cons, hencode] at hdigits
    by_cases hzero : UInt8.ofNat c.toNat = 0x30
    · -- a zero is the digit of zero, which is the whole number
      have hchar : c = '0' := by
        rw [hzero] at hvalue
        refine Char.toNat_inj.mp (Nat.le_antisymm (Nat.le_of_sub_eq_zero hvalue.symm) ?_)
        exact (Char.isDigit_iff_toNat.mp hc).1
      subst hchar
      rw [Digits.toDigits_head_zero n hn]
      exact .zero
    · rw [Text.Utf8.octetsOf_cons, hencode]
      exact .digits hzero hdigits

/-- The sign of a number, as it is written. -/
def signText (negative : Bool) : List Char := if negative then ['-'] else []

/-- A sign with the digits of a number is a numeral. -/
theorem isNumeral_signText (negative : Bool) (n : Nat) :
    IsNumeral (octetsOf (signText negative ++ Nat.toDigits 10 n)) := by
  have hpositive := IsNumeral.positive (isWhole_toDigits n) .none .none
  have hnegative := IsNumeral.negative (isWhole_toDigits n) .none .none
  rw [List.append_nil, List.append_nil] at hpositive hnegative
  cases negative with
  | true => exact hnegative
  | false => exact hpositive

/-- The digits of a number are a numeral without fraction and exponent. -/
theorem scanUnsigned_toDigits (negative : Bool) (n : Nat) {rest : List UInt8}
    (hrest : EndsNumeral rest) (offset : Nat) :
    scanUnsigned negative ⟨offset, octetsOf (Nat.toDigits 10 n) ++ rest⟩
      = .ok ⟨negative, octetsOf (Nat.toDigits 10 n), none, none,
        ⟨offset + (octetsOf (Nat.toDigits 10 n)).length, rest⟩⟩ := by
  rw [scanUnsigned, scanWhole_append (isWhole_toDigits n) fun b hb => (hrest b hb).1]
  simp only [scanFraction_of_ne fun b hb => (hrest b hb).2.1, scanExponent_of_endsNumeral hrest,
    ok_bind]
  rfl

/-- **A sign with the digits of a number is a numeral** without fraction and
exponent. -/
theorem scan_signText (negative : Bool) (n : Nat) {rest : List UInt8} (hrest : EndsNumeral rest)
    (offset : Nat) :
    scan ⟨offset, octetsOf (signText negative ++ Nat.toDigits 10 n) ++ rest⟩
      = .ok ⟨negative, octetsOf (Nat.toDigits 10 n), none, none,
        ⟨offset + (octetsOf (signText negative ++ Nat.toDigits 10 n)).length, rest⟩⟩ := by
  cases negative with
  | true =>
    have hstop : offset + (octetsOf (signText true ++ Nat.toDigits 10 n)).length
        = offset + 1 + (octetsOf (Nat.toDigits 10 n)).length := by
      rw [Nat.add_assoc, Nat.add_comm 1]
      rfl
    rw [hstop]
    exact scanUnsigned_toDigits true n hrest (offset + 1)
  | false =>
    refine Eq.trans ?_ (scanUnsigned_toDigits false n hrest offset)
    show scan ⟨offset, octetsOf (Nat.toDigits 10 n) ++ rest⟩ = _
    obtain ⟨b, more, hdigits, hb⟩ := (isWhole_toDigits n).exists_cons
    rw [hdigits]
    exact scan_of_isDigit hb offset _

/-- **A whole number that fits 64 bits loses no digit.** -/
theorem value_digits (negative : Bool) (n : Nat) (hn : n ≤ greatestSignificand) (stop : Cursor)
    {whole : Number}
    (hwhole : wholeNumber? ⟨negative, octetsOf (Nat.toDigits 10 n), none, none, stop⟩ n
      = some whole) :
    value ⟨negative, octetsOf (Nat.toDigits 10 n), none, none, stop⟩ = .ok whole := by
  have hdigits : appendDigits 0 (octetsOf (Nat.toDigits 10 n)) = (n, 0) := by
    have hvalue := Nat.ofDigitChars_ten_toDigits (n := n)
    rw [appendDigits_octetsOf
      (fun c hc => Nat.isDigit_of_mem_toDigits (by decide) (by decide) hc)
      (Nat.le_trans (Nat.le_of_eq hvalue) hn), hvalue]
  simp only [value, hdigits, hwhole]

end Numeral

open Numeral

/-- The text of a whole number is a sign with digits. -/
theorem exists_text_eq {number : Number} (h : number.isWhole = true) :
    ∃ negative n, number.text.toList = signText negative ++ Nat.toDigits 10 n
      ∧ n ≤ greatestSignificand
      ∧ ∀ stop, wholeNumber? ⟨negative, octetsOf (Nat.toDigits 10 n), none, none, stop⟩ n
        = some number := by
  cases number with
  | float x => exact absurd h Bool.false_ne_true
  | natural n =>
    refine ⟨false, n.toNat, ?_, Nat.le_of_lt_succ n.toNat_lt, fun stop => ?_⟩
    · simp [Number.text, signText]
    · simp [wholeNumber?]
  | negative n =>
    refine ⟨true, n.val + 1, ?_, Nat.le_trans n.isLt (by decide), fun stop => ?_⟩
    · simp [Number.text, signText]
    · exact dif_pos (show 0 < n.val + 1 ∧ n.val + 1 ≤ 9223372036854775808 by omega)

/-- **A whole number is written as a numeral**, which stands for the number again. -/
theorem isNumeral_text {number : Number} (h : number.isWhole = true) :
    IsNumeral (octetsOf number.text.toList)
      ∧ numberOf? (octetsOf number.text.toList) = some number := by
  obtain ⟨negative, n, htext, hn, hwhole⟩ := exists_text_eq h
  have hscan := scan_signText negative n endsNumeral_nil 0
  rw [List.append_nil] at hscan
  rw [htext, numberOf?, Cursor.start, hscan]
  refine ⟨isNumeral_signText negative n, ?_⟩
  show (value _).toOption = _
  rw [value_digits negative n hn _ (hwhole _)]
  rfl

end GraphGateway.Json
