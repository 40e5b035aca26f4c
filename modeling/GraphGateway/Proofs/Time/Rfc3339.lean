import GraphGateway.Proofs.Except
import GraphGateway.Proofs.Number.Digits
import GraphGateway.Proofs.Time.Calendar

/-!
# Timestamps are read back

The timestamp of an instant is read piece by piece: every number is written
with as many digits as its reader takes at most, or is followed by something
that is no digit, and every separator stands where it is expected. So the
instant comes back exactly, to the nanosecond and with its leap second
(`parse_text`).

Not every instant has a timestamp. A **dated** instant (`Instant.IsDated`) has
a date in the years that are allowed and stands before the end of its second,
or in a leap second at the end of a minute; the instants that are read from
texts are all dated (`isDated_of_parse`).
-/

namespace GraphGateway.Time

/-- **Whether an instant has a timestamp.** -/
structure Instant.IsDated (t : Instant) : Prop where
  /-- It is not before the first year. -/
  first : Date.dayNumber ⟨Rfc3339.firstYear, 1, 1⟩ * 86400 ≤ t.seconds
  /-- It is not behind the last year. -/
  last : t.seconds < Date.dayNumber ⟨Rfc3339.lastYear + 1, 1, 1⟩ * 86400
  /-- It is in a second or a leap second. -/
  nanos : t.nanos < 2000000000
  /-- A leap second ends a minute. -/
  leap : 1000000000 ≤ t.nanos → t.seconds % 60 = 59

instance (t : Instant) : Decidable t.IsDated :=
  decidable_of_iff
    (Date.dayNumber ⟨Rfc3339.firstYear, 1, 1⟩ * 86400 ≤ t.seconds
      ∧ t.seconds < Date.dayNumber ⟨Rfc3339.lastYear + 1, 1, 1⟩ * 86400
      ∧ t.nanos < 2000000000 ∧ (1000000000 ≤ t.nanos → t.seconds % 60 = 59))
    ⟨fun ⟨first, last, nanos, leap⟩ => ⟨first, last, nanos, leap⟩,
      fun h => ⟨h.first, h.last, h.nanos, h.leap⟩⟩

namespace Rfc3339

/-! ## Numbers -/

/-- The digits of a number with zeros before it are digits. -/
theorem isDigit_of_mem_padded {width n : Nat} {c : Char} (h : c ∈ padded width n) :
    c.isDigit = true := by
  rw [padded, List.mem_append] at h
  rcases h with h | h
  · rw [List.eq_of_mem_replicate h]
    rfl
  · exact Nat.isDigit_of_mem_toDigits (by decide) (by decide) h

/-- Zeros before a number do not change it. -/
theorem ofDigitChars_padded (width n : Nat) : Nat.ofDigitChars 10 (padded width n) 0 = n := by
  rw [padded, Nat.ofDigitChars_append, Nat.ofDigitChars_replicate_zero, Nat.mul_zero,
    Nat.ofDigitChars_ten_toDigits]

/-- **A number that fits the width has exactly that many digits.** -/
theorem length_padded {width n : Nat} (hwidth : 0 < width) (h : n < 10 ^ width) :
    (padded width n).length = width := by
  have hle := (Nat.length_toDigits_le_iff (by decide) hwidth).mpr h
  rw [padded, List.length_append, List.length_replicate]
  omega

/-- Whether no digit stands at the front of a text. -/
def EndsNumber (s : List Char) : Prop := ∀ c ∈ s.head?, c.isDigit = false

/-- **Digits are read as their number**, if no digit follows or no more are
wanted. -/
theorem readDigits_eq {digits : List Char} (hdigits : ∀ c ∈ digits, c.isDigit = true)
    {rest : List Char} {value limit : Nat}
    (hlimit : digits.length = limit ∨ digits.length ≤ limit ∧ EndsNumber rest)
    (hvalue : Nat.ofDigitChars 10 digits value < 9223372036854775808) :
    readDigits value limit (digits ++ rest) = .ok (Nat.ofDigitChars 10 digits value, rest) := by
  induction digits generalizing value limit with
  | nil =>
    cases limit with
    | zero => cases rest <;> rfl
    | succ limit =>
      -- more digits are wanted, but none follows
      obtain ⟨-, hrest⟩ := hlimit.resolve_left (by simp)
      cases rest with
      | nil => rfl
      | cons c rest =>
        rw [List.nil_append, readDigits, if_neg (by simp [hrest c rfl])]
        rfl
  | cons c digits ih =>
    cases limit with
    | zero => simp at hlimit
    | succ limit =>
      have hnext : value * 10 + digitValue c = 10 * value + (c.toNat - '0'.toNat) := by
        rw [Nat.mul_comm]
        rfl
      rw [Nat.ofDigitChars_cons] at hvalue ⊢
      have hle := Digits.le_ofDigitChars digits (10 * value + (c.toNat - '0'.toNat))
      rw [List.cons_append, readDigits, if_pos (hdigits c (List.mem_cons_self ..)), hnext,
        if_neg (by omega)]
      refine ih (fun x hx => hdigits x (List.mem_cons_of_mem _ hx)) ?_ hvalue
      simpa using hlimit

/-- A number is read if it starts with a digit. -/
theorem readNumber_eq {digits : List Char} (hdigits : ∀ c ∈ digits, c.isDigit = true)
    (hne : digits ≠ []) (rest : List Char) {limit : Nat}
    (hlimit : digits.length = limit ∨ digits.length ≤ limit ∧ EndsNumber rest)
    (hvalue : Nat.ofDigitChars 10 digits 0 < 9223372036854775808) :
    readNumber limit (digits ++ rest) = .ok (Nat.ofDigitChars 10 digits 0, rest) := by
  rw [← readDigits_eq hdigits hlimit hvalue]
  cases digits with
  | nil => exact absurd rfl hne
  | cons c digits => exact if_pos (hdigits c (List.mem_cons_self ..))

/-- A number of a width is not empty. -/
theorem padded_ne_nil (width n : Nat) : padded width n ≠ [] := by
  rw [padded]
  exact List.append_ne_nil_of_right_ne_nil _ Nat.toDigits_ne_nil

/-- **A number of a width is read back** by a reader of that width. -/
theorem readNumber_padded {width n : Nat} (hwidth : 0 < width) (h : n < 10 ^ width)
    (hn : n < 9223372036854775808) (rest : List Char) :
    readNumber width (padded width n ++ rest) = .ok (n, rest) := by
  have hread := readNumber_eq (fun c hc => isDigit_of_mem_padded hc) (padded_ne_nil width n) rest
    (.inl (length_padded hwidth h)) (by rw [ofDigitChars_padded]; exact hn)
  rw [ofDigitChars_padded] at hread
  exact hread

/-! ## Pieces of a timestamp -/

/-- No blank is skipped before what is none. -/
theorem trimStart_cons {c : Char} (h : Text.isBlank c = false) (rest : List Char) :
    Text.trimStart (c :: rest) = c :: rest := by
  rw [Text.trimStart, List.dropWhile_cons, h]
  rfl

/-- A digit is not blank. -/
theorem isBlank_of_isDigit {c : Char} (h : c.isDigit = true) : Text.isBlank c = false := by
  rw [Char.isDigit_iff_toNat] at h
  have hlow : 48 ≤ c.toNat := h.1
  have hhigh : c.toNat ≤ 57 := h.2
  simp only [Text.isBlank, Bool.or_eq_false_iff, Bool.and_eq_false_iff, decide_eq_false_iff_not,
    beq_eq_false_iff_ne]
  omega

/-- No blank is skipped before a number. -/
theorem trimStart_padded (width n : Nat) (rest : List Char) :
    Text.trimStart (padded width n ++ rest) = padded width n ++ rest := by
  cases hn : padded width n with
  | nil => exact absurd hn (padded_ne_nil width n)
  | cons c digits =>
    exact trimStart_cons (isBlank_of_isDigit (isDigit_of_mem_padded (hn ▸ List.mem_cons_self ..)))
      (digits ++ rest)

/-- A part of a date or a time is read back. -/
theorem readField_padded {low high n : Nat} (hlow : low ≤ n) (hhigh : n ≤ high)
    (hlimit : high < 100) (rest : List Char) :
    readField low high (padded 2 n ++ rest) = .ok (n, rest) := by
  rw [readField, trimStart_padded, readNumber_padded (by decide) (by omega) (by omega)]
  exact if_pos (by simp [hlow, hhigh])

/-- A separator is read back. -/
theorem readSeparator_cons {c : Char} (h : Text.isBlank c = false) (rest : List Char) :
    readSeparator c (c :: rest) = .ok ((), rest) := by
  rw [readSeparator, trimStart_cons h]
  exact if_pos (by simp)

/-- A year of the range fits the numbers that a year is read into. -/
theorem year_bounds {year : Int} (hfirst : firstYear ≤ year) (hlast : year ≤ lastYear) :
    (-2147483648 ≤ year && year < 2147483648) = true := by
  unfold firstYear at hfirst
  unfold lastYear at hlast
  rw [Bool.and_eq_true, decide_eq_true_eq, decide_eq_true_eq]
  omega

/-- The digits of a year behind its sign are read up to the separator. -/
theorem readNumber_year {n : Nat} (h : n < 9223372036854775808) (rest : List Char) :
    readNumber (padded 4 n ++ '-' :: rest).length (padded 4 n ++ '-' :: rest)
      = .ok (n, '-' :: rest) := by
  have hends : EndsNumber ('-' :: rest) := fun c hc => by cases hc; rfl
  have hle : (padded 4 n).length ≤ (padded 4 n ++ '-' :: rest).length :=
    (List.sublist_append_left ..).length_le
  have hread := readNumber_eq (fun c hc => isDigit_of_mem_padded hc) (padded_ne_nil 4 n)
    ('-' :: rest) (.inr ⟨hle, hends⟩) (by rw [ofDigitChars_padded]; exact h)
  rw [ofDigitChars_padded] at hread
  exact hread

/-- The letter between the date and the time is read back. -/
theorem readMiddle_cons (rest : List Char) : readMiddle ('T' :: rest) = .ok ((), rest) := rfl

/-- **A year is read back**, of any number of digits. -/
theorem readYear_yearText {year : Int} (hfirst : firstYear ≤ year) (hlast : year ≤ lastYear)
    (rest : List Char) : readYear (yearText year ++ '-' :: rest) = .ok (year, '-' :: rest) := by
  have hbounds := year_bounds hfirst hlast
  have hsmall : year.natAbs < 9223372036854775808 := by
    unfold firstYear at hfirst
    unfold lastYear at hlast
    omega
  rw [yearText]
  by_cases hfour : (0 ≤ year && year ≤ 9999) = true
  · rw [if_pos hfour]
    rw [Bool.and_eq_true, decide_eq_true_eq, decide_eq_true_eq] at hfour
    have hyear : (year.natAbs : Int) = year := by omega
    have hread := readNumber_padded (show 0 < 4 by decide) (show year.natAbs < 10 ^ 4 by omega)
      hsmall ('-' :: rest)
    -- four digits stand without a sign, so neither sign is found before them
    have hsign : ∀ c digits, padded 4 year.natAbs ++ '-' :: rest = c :: digits →
        c.isDigit = true := by
      intro c digits h
      cases hn : padded 4 year.natAbs with
      | nil => exact absurd hn (padded_ne_nil 4 _)
      | cons d more =>
        rw [hn, List.cons_append] at h
        rw [← (List.cons.inj h).1]
        exact isDigit_of_mem_padded (hn ▸ List.mem_cons_self ..)
    simp only [readYear, trimStart_padded]
    split
    · next digits h => exact absurd (hsign '-' digits h) (by decide)
    · next digits h => exact absurd (hsign '+' digits h) (by decide)
    · rw [hread, ok_bind, pure_bind]
      dsimp only
      rw [hyear, if_pos hbounds]
      rfl
  · rw [if_neg hfour]
    -- any other year has a sign, and its digits end at the separator
    have hread := readNumber_year hsmall rest
    by_cases hnegative : year < 0
    · have hyear : -(year.natAbs : Int) = year := by omega
      rw [if_pos hnegative, List.cons_append, readYear]
      simp only [trimStart_cons (show Text.isBlank '-' = false by decide), hread]
      rw [ok_bind, pure_bind]
      dsimp only
      rw [hyear, if_pos hbounds]
      rfl
    · have hyear : (year.natAbs : Int) = year := by omega
      rw [if_neg hnegative, List.cons_append, readYear]
      simp only [trimStart_cons (show Text.isBlank '+' = false by decide), hread]
      rw [ok_bind, pure_bind]
      dsimp only
      rw [hyear, if_pos hbounds]
      rfl

/-- The digits of a fraction are read as so many of the greatest part of a
second. -/
theorem readFraction_padded {width n : Nat} (hwidth : 0 < width) (hlimit : width ≤ 9)
    (h : n < 10 ^ width) (rest : List Char) :
    readFraction ('.' :: (padded width n ++ 'Z' :: rest))
      = .ok (n * Nat.pow 10 (9 - width), 'Z' :: rest) := by
  have hlength := length_padded hwidth h
  have hsmall : n < 9223372036854775808 :=
    Nat.lt_trans (Nat.lt_of_lt_of_le h (Nat.pow_le_pow_right (by decide) hlimit)) (by decide)
  have hends : EndsNumber ('Z' :: rest) := fun c hc => by cases hc; rfl
  have hread := readNumber_eq (fun c hc => isDigit_of_mem_padded hc) (padded_ne_nil width n)
    ('Z' :: rest) (.inr ⟨hlength ▸ hlimit, hends⟩) (by rw [ofDigitChars_padded]; exact hsmall)
  rw [ofDigitChars_padded] at hread
  have hcount : (padded width n ++ 'Z' :: rest).length - ('Z' :: rest).length = width := by
    rw [List.length_append, hlength, Nat.add_sub_cancel]
  rw [readFraction, hread, ok_bind]
  dsimp only
  rw [hcount]
  rfl

/-- **A fraction is read back**, to the nanosecond. -/
theorem readFraction_fractionText {nanos : Nat} (h : nanos < 1000000000) (rest : List Char) :
    readFraction (fractionText nanos ++ 'Z' :: rest) = .ok (nanos, 'Z' :: rest) := by
  rw [fractionText]
  -- as many digits are written as the fraction needs: none, 3, 6, or 9
  by_cases hzero : nanos = 0
  · rw [if_pos (by simp [hzero]), hzero]
    rfl
  rw [if_neg (by simp [hzero])]
  by_cases hmilli : nanos % 1000000 = 0
  · rw [if_pos (by simp [hmilli]), List.cons_append,
      readFraction_padded (by decide) (by decide) (show nanos / 1000000 < 10 ^ 3 by omega)]
    have hnanos : nanos / 1000000 * Nat.pow 10 (9 - 3) = nanos :=
      Nat.div_mul_cancel (Nat.dvd_of_mod_eq_zero hmilli)
    rw [hnanos]
  rw [if_neg (by simp [hmilli])]
  by_cases hmicro : nanos % 1000 = 0
  · rw [if_pos (by simp [hmicro]), List.cons_append,
      readFraction_padded (by decide) (by decide) (show nanos / 1000 < 10 ^ 6 by omega)]
    have hnanos : nanos / 1000 * Nat.pow 10 (9 - 6) = nanos :=
      Nat.div_mul_cancel (Nat.dvd_of_mod_eq_zero hmicro)
    rw [hnanos]
  · rw [if_neg (by simp [hmicro]), List.cons_append,
      readFraction_padded (by decide) (by decide) (show nanos < 10 ^ 9 by omega)]
    have hnanos : nanos * Nat.pow 10 (9 - 9) = nanos := Nat.mul_one nanos
    rw [hnanos]

/-! ## What is read -/

/-- **As many digits as are read bound the number** that they give. -/
theorem lt_of_readDigits {value limit n : Nat} {s behind : List Char}
    (h : readDigits value limit s = .ok (n, behind)) :
    ∃ count, count ≤ limit ∧ s.length = behind.length + count ∧ n < (value + 1) * 10 ^ count := by
  induction limit generalizing value s with
  | zero =>
    obtain ⟨rfl, rfl⟩ := Prod.mk.inj (Except.ok.inj h)
    exact ⟨0, Nat.le_refl 0, rfl, by omega⟩
  | succ limit ih =>
    cases s with
    | nil =>
      obtain ⟨rfl, rfl⟩ := Prod.mk.inj (Except.ok.inj h)
      exact ⟨0, Nat.zero_le _, rfl, by omega⟩
    | cons c rest =>
      rw [readDigits] at h
      split at h
      · next hdigit =>
        dsimp only at h
        split at h
        · cases h
        · obtain ⟨count, hcount, hlength, hn⟩ := ih h
          have hvalue : digitValue c ≤ 9 := by
            rw [Char.isDigit_iff_toNat] at hdigit
            exact Nat.sub_le_sub_right hdigit.2 _
          refine ⟨count + 1, by omega, by rw [List.length_cons, hlength]; rfl, ?_⟩
          calc n < (value * 10 + digitValue c + 1) * 10 ^ count := hn
            _ ≤ ((value + 1) * 10) * 10 ^ count := Nat.mul_le_mul_right _ (by omega)
            _ = (value + 1) * 10 ^ (count + 1) := by rw [Nat.mul_assoc, ← Nat.pow_succ']
      · obtain ⟨rfl, rfl⟩ := Prod.mk.inj (Except.ok.inj h)
        exact ⟨0, Nat.zero_le _, rfl, by omega⟩

/-- A number is read from its digits. -/
theorem readDigits_of_readNumber {limit n : Nat} {s behind : List Char}
    (h : readNumber limit s = .ok (n, behind)) : readDigits 0 limit s = .ok (n, behind) := by
  cases s with
  | nil => cases h
  | cons c rest =>
    rw [readNumber] at h
    split at h
    · exact h
    · cases h

/-- **A fraction is less than a second.** -/
theorem lt_of_readFraction {s behind : List Char} {nanos : Nat}
    (h : readFraction s = .ok (nanos, behind)) : nanos < 1000000000 := by
  rw [readFraction.eq_def] at h
  split at h
  · next rest =>
    obtain ⟨⟨n, stop⟩, hread, h⟩ := bind_eq_ok h
    obtain ⟨count, hcount, hlength, hn⟩ := lt_of_readDigits (readDigits_of_readNumber hread)
    obtain ⟨rfl, -⟩ := Prod.mk.inj (Except.ok.inj h)
    have hdigits : rest.length - stop.length = count := by omega
    rw [hdigits]
    calc n * Nat.pow 10 (9 - count) < (0 + 1) * 10 ^ count * 10 ^ (9 - count) :=
          Nat.mul_lt_mul_of_pos_right hn (Nat.pow_pos (by decide))
      _ = 10 ^ 9 := by rw [Nat.zero_add, Nat.one_mul, ← Nat.pow_add, Nat.add_sub_cancel' hcount]
  · obtain ⟨rfl, -⟩ := Prod.mk.inj (Except.ok.inj h)
    decide

/-- An offset behind its sign. -/
def readSigned (sign : Int) : Reader Int := fun rest => do
  let ((tens, ones), rest) ← readPair rest
  let (minutes, rest) ← readOffsetMinutes (rest.dropWhile isOffsetSeparator)
  return (sign * ((tens * 10 + ones) * 3600 + minutes * 60 : Nat), rest)

/-- An offset behind its sign is a whole number of minutes. -/
theorem emod_of_readSigned {sign : Int} {rest behind : List Char} {offset : Int}
    (h : readSigned sign rest = .ok (offset, behind)) : offset % 60 = 0 := by
  obtain ⟨⟨⟨tens, ones⟩, rest⟩, -, h⟩ := bind_eq_ok h
  obtain ⟨⟨minutes, rest⟩, -, h⟩ := bind_eq_ok h
  obtain ⟨rfl, -⟩ := Prod.mk.inj (Except.ok.inj h)
  have hminutes : ((((tens * 10 + ones) * 3600 + minutes * 60 : Nat) : Int)) % 60 = 0 := by omega
  exact Int.emod_eq_zero_of_dvd (Int.dvd_mul_of_dvd_right (Int.dvd_of_emod_eq_zero hminutes))

/-- **An offset is a whole number of minutes.** -/
theorem emod_of_readOffset {s behind : List Char} {offset : Int}
    (h : readOffset s = .ok (offset, behind)) : offset % 60 = 0 := by
  cases s with
  | nil => cases h
  | cons c rest =>
    rw [readOffset.eq_def] at h
    dsimp only at h
    -- the letters for no offset, or one of the signs
    split at h
    · obtain ⟨rfl, -⟩ := Prod.mk.inj (Except.ok.inj h)
      rfl
    · split at h
      · obtain ⟨rfl, -⟩ := Prod.mk.inj (Except.ok.inj h)
        rfl
      · split at h
        · exact emod_of_readSigned (show readSigned 1 rest = _ from h)
        · split at h
          · exact emod_of_readSigned (show readSigned (-1) rest = _ from h)
          · cases h

end Rfc3339

/-! ## Whole timestamps -/

namespace Instant

open Rfc3339

/-- **The instant of some fields**, the last step of reading a timestamp. -/
def ofFields (date : Date) (hour minute second fraction : Nat) (offset : Int) :
    Except TimeError Instant := do
  let days ← dayOf date
  if offset.natAbs ≥ 86400 then throw .outOfRange
  let leap := second == 60
  let clock : Nat := hour * 3600 + minute * 60 + (if leap then 59 else second)
  let seconds := days * 86400 + clock - offset
  let first := (Date.dayNumber ⟨firstYear, 1, 1⟩) * 86400
  let beyond := (Date.dayNumber ⟨lastYear + 1, 1, 1⟩) * 86400
  if seconds < first || seconds ≥ beyond then throw .impossible
  return { seconds, nanos := fraction + (if leap then 1000000000 else 0) }

/-- A timestamp is read field by field. -/
theorem parse_eq (text : List Char) :
    parse text = (do
      let (year, s) ← readYear text
      let (_, s) ← readSeparator '-' s
      let (month, s) ← readField 1 12 s
      let (_, s) ← readSeparator '-' s
      let (day, s) ← readField 1 31 s
      let (_, s) ← readMiddle s
      let (hour, s) ← readField 0 23 s
      let (_, s) ← readSeparator ':' s
      let (minute, s) ← readField 0 59 s
      let (_, s) ← readSeparator ':' s
      let (second, s) ← readField 0 60 s
      let (fraction, s) ← readFraction s
      let (offset, s) ← readOffset (Text.trimStart s)
      if !Text.isAllBlank s then throw .trailing
      ofFields { year, month, day } hour minute second fraction offset) := rfl

/-- The instant that fields stand for, if there is one. -/
def fieldsInstant (date : Date) (hour minute second fraction : Nat) (offset : Int) : Instant where
  seconds := date.dayNumber * 86400
    + ((hour * 3600 + minute * 60 + if second == 60 then 59 else second : Nat) : Int) - offset
  nanos := fraction + if second == 60 then 1000000000 else 0

/-- **Fields are an instant** if they have a date of the range and so has the
instant. -/
theorem ofFields_eq_ok_iff (date : Date) (hour minute second fraction : Nat) (offset : Int)
    (t : Instant) :
    ofFields date hour minute second fraction offset = .ok t
      ↔ (date.isValid && firstYear ≤ date.year && date.year ≤ lastYear) = true
        ∧ offset.natAbs < 86400
        ∧ Date.dayNumber ⟨firstYear, 1, 1⟩ * 86400 ≤ t.seconds
        ∧ t.seconds < Date.dayNumber ⟨lastYear + 1, 1, 1⟩ * 86400
        ∧ t = fieldsInstant date hour minute second fraction offset := by
  rw [ofFields, dayOf, fieldsInstant]
  generalize Date.dayNumber ⟨firstYear, 1, 1⟩ * 86400 = first
  generalize Date.dayNumber ⟨lastYear + 1, 1, 1⟩ * 86400 = beyond
  by_cases hdate : (date.isValid && firstYear ≤ date.year && date.year ≤ lastYear) = true
  · rw [if_pos hdate, ok_bind]
    dsimp only
    generalize date.dayNumber * 86400
      + ((hour * 3600 + minute * 60 + if second == 60 then 59 else second : Nat) : Int) - offset
        = seconds
    by_cases hoffset : offset.natAbs ≥ 86400
    · rw [if_pos hoffset]
      refine ⟨fun h => (by cases h), fun h => absurd h.2.1 (by omega)⟩
    · rw [if_neg hoffset]
      by_cases hseconds : (decide (seconds < first) || decide (seconds ≥ beyond)) = true
      · rw [if_pos hseconds]
        rw [Bool.or_eq_true, decide_eq_true_eq, decide_eq_true_eq] at hseconds
        refine ⟨fun h => (by cases h), fun h => ?_⟩
        obtain ⟨-, -, hfirst, hlast, rfl⟩ := h
        dsimp only at hfirst hlast
        omega
      · rw [if_neg hseconds]
        rw [Bool.or_eq_true, decide_eq_true_eq, decide_eq_true_eq] at hseconds
        refine ⟨fun h => ?_, fun h => ?_⟩
        · obtain rfl := Except.ok.inj h
          exact ⟨hdate, by omega, by dsimp only; omega, by dsimp only; omega, rfl⟩
        · rw [h.2.2.2.2]
          rfl
  · rw [if_neg hdate]
    exact ⟨fun h => (by cases h), fun h => absurd h.1 hdate⟩

/-- The day of a dated instant is one of the range. -/
theorem day_bounds {t : Instant} (h : t.IsDated) :
    Date.dayNumber ⟨firstYear, 1, 1⟩ ≤ t.seconds / 86400
      ∧ t.seconds / 86400 < Date.dayNumber ⟨lastYear + 1, 1, 1⟩ := by
  have hfirst := h.first
  have hlast := h.last
  generalize Date.dayNumber ⟨firstYear, 1, 1⟩ = first at *
  generalize Date.dayNumber ⟨lastYear + 1, 1, 1⟩ = last at *
  omega

/-- The fields of a timestamp are those of its instant. -/
theorem fieldsInstant_eq {t : Instant} (h : t.IsDated) :
    let clock := (t.seconds % 86400).toNat
    fieldsInstant (Date.ofDayNumber (t.seconds / 86400)) (clock / 3600) (clock / 60 % 60)
      (clock % 60 + t.nanos / 1000000000) (t.nanos % 1000000000) 0 = t := by
  intro clock
  have hclock : (clock : Int) = t.seconds % 86400 := Int.toNat_of_nonneg (by omega)
  have hday : t.seconds / 86400 * 86400 + t.seconds % 86400 = t.seconds := by omega
  have hnanos := h.nanos
  have hleap := h.leap
  have hsplit : clock / 3600 * 3600 + clock / 60 % 60 * 60 + clock % 60 = clock := by omega
  rw [fieldsInstant, Date.dayNumber_ofDayNumber]
  obtain ⟨seconds, nanos⟩ := t
  dsimp only at *
  by_cases hlong : 1000000000 ≤ nanos
  · -- a leap second is the second behind the last of its minute
    have hlast : clock % 60 = 59 := by
      have := hleap hlong
      omega
    have hsecond : clock % 60 + nanos / 1000000000 = 60 := by omega
    rw [hsecond]
    simp only [beq_self_eq_true, if_true, mk.injEq]
    omega
  · have hsecond : clock % 60 + nanos / 1000000000 = clock % 60 := by omega
    have hshort : (clock % 60 == 60) = false := beq_eq_false_iff_ne.mpr (by omega)
    rw [hsecond, hshort]
    simp only [Bool.false_eq_true, if_false, mk.injEq]
    omega

/-- The parts of a date of the calendar are those of a timestamp. -/
theorem date_bounds {date : Date} (h : date.isValid = true) :
    1 ≤ date.month ∧ date.month ≤ 12 ∧ 1 ≤ date.day ∧ date.day ≤ 31 := by
  have hdays : ∀ year month, Date.daysInMonth year month ≤ 31 := by
    intro year month
    rw [Date.daysInMonth]
    split
    · split <;> omega
    · split <;> omega
  simp only [Date.isValid, Bool.and_eq_true, decide_eq_true_eq] at h
  exact ⟨h.1.1.1, h.1.1.2, h.1.2, Nat.le_trans h.2 (hdays ..)⟩

/-- **The timestamp of a dated instant is read as the instant.** -/
theorem parse_text {t : Instant} (h : t.IsDated) : parse t.text.toList = .ok t := by
  obtain ⟨hfirst, hlast⟩ := day_bounds h
  obtain ⟨hfirstYear, hlastYear⟩ := Date.year_ofDayNumber hfirst hlast
  have hvalid := Date.isValid_ofDayNumber (t.seconds / 86400)
  have hfields : ofFields (Date.ofDayNumber (t.seconds / 86400)) _ _ _ _ 0 = .ok t :=
    (ofFields_eq_ok_iff ..).mpr ⟨by simp [hvalid, hfirstYear, hlastYear], by decide, h.first,
      h.last, (fieldsInstant_eq h).symm⟩
  obtain ⟨hmonth, hmonth', hday, hday'⟩ := date_bounds hvalid
  have hsecond : (t.seconds % 86400).toNat % 60 + t.nanos / 1000000000 ≤ 60 := by
    have := h.nanos
    omega
  have hclock : (t.seconds % 86400).toNat < 86400 := by omega
  have hoffset : readOffset (Text.trimStart ['Z']) = .ok (0, []) := rfl
  rw [text, String.toList_ofList, localText, parse_eq]
  generalize Date.ofDayNumber (t.seconds / 86400) = date at *
  generalize (t.seconds % 86400).toNat = clock at *
  -- every piece is read where the piece before it has ended
  simp only [List.append_assoc, List.cons_append, readYear_yearText hfirstYear hlastYear, ok_bind,
    readSeparator_cons (show Text.isBlank '-' = false by decide),
    readSeparator_cons (show Text.isBlank ':' = false by decide), readMiddle_cons,
    readField_padded hmonth hmonth' (by decide), readField_padded hday hday' (by decide),
    readField_padded (Nat.zero_le _) (show clock / 3600 ≤ 23 by omega) (by decide),
    readField_padded (Nat.zero_le _) (show clock / 60 % 60 ≤ 59 by omega) (by decide),
    readField_padded (Nat.zero_le _) hsecond (by decide),
    readFraction_fractionText (show t.nanos % 1000000000 < 1000000000 by omega), hoffset]
  exact hfields

/-- **An instant that was read from a text is dated.** -/
theorem isDated_of_parse {s : List Char} {t : Instant} (h : parse s = .ok t) : t.IsDated := by
  rw [parse_eq] at h
  obtain ⟨⟨year, s⟩, -, h⟩ := bind_eq_ok h
  obtain ⟨⟨_, s⟩, -, h⟩ := bind_eq_ok h
  obtain ⟨⟨month, s⟩, -, h⟩ := bind_eq_ok h
  obtain ⟨⟨_, s⟩, -, h⟩ := bind_eq_ok h
  obtain ⟨⟨day, s⟩, -, h⟩ := bind_eq_ok h
  obtain ⟨⟨_, s⟩, -, h⟩ := bind_eq_ok h
  obtain ⟨⟨hour, s⟩, -, h⟩ := bind_eq_ok h
  obtain ⟨⟨_, s⟩, -, h⟩ := bind_eq_ok h
  obtain ⟨⟨minute, s⟩, -, h⟩ := bind_eq_ok h
  obtain ⟨⟨_, s⟩, -, h⟩ := bind_eq_ok h
  obtain ⟨⟨second, s⟩, -, h⟩ := bind_eq_ok h
  obtain ⟨⟨fraction, s⟩, hfraction, h⟩ := bind_eq_ok h
  obtain ⟨⟨offset, s⟩, hoffset, h⟩ := bind_eq_ok h
  dsimp only at hfraction hoffset h
  split at h
  · cases h
  · have hnanos := lt_of_readFraction hfraction
    have hminutes := emod_of_readOffset hoffset
    obtain ⟨-, -, hfirst, hlast, rfl⟩ := (ofFields_eq_ok_iff ..).mp h
    -- a leap second can only come from the field of the seconds, and offsets are
    -- whole minutes, so it ends a minute
    refine ⟨hfirst, hlast, ?_, fun hleap => ?_⟩
    · rw [fieldsInstant]
      dsimp only
      split <;> omega
    · rw [fieldsInstant] at hleap ⊢
      dsimp only at hleap ⊢
      by_cases hsecond : (second == 60) = true
      · rw [if_pos hsecond]
        omega
      · rw [if_neg hsecond] at hleap
        omega

end Instant

end GraphGateway.Time
