/-!
# Digits of base ten

What both readers of numbers need to know of the digits that a number is
written with: reading on never makes a number smaller, and no zero stands
before other digits.
-/

namespace GraphGateway.Digits

/-- More digits make no number smaller. -/
theorem le_ofDigitChars (digits : List Char) (n : Nat) : n ≤ Nat.ofDigitChars 10 digits n := by
  rw [Nat.ofDigitChars_eq_ofDigitChars_zero]
  have hpow : 1 * n ≤ 10 ^ digits.length * n :=
    Nat.mul_le_mul_right n (Nat.pow_pos (by decide))
  omega

/-- **No zero is written before other digits.** -/
theorem toDigits_head_zero (n : Nat) {more : List Char} (h : Nat.toDigits 10 n = '0' :: more) :
    more = [] := by
  suffices hpos : ∀ n, 0 < n → ∀ more, Nat.toDigits 10 n ≠ '0' :: more by
    rcases Nat.eq_zero_or_pos n with rfl | hn
    · exact (List.cons.inj h).2.symm
    · exact absurd h (hpos n hn more)
  intro n
  induction n using Nat.base_induction 10 (by decide) with
  | single m hm =>
    have hdigit : ∀ d : Nat, d < 10 → 0 < d → d.digitChar ≠ '0' := by decide
    intro hpos more h
    rw [Nat.toDigits_of_lt_base hm] at h
    exact hdigit m hm hpos (List.cons.inj h).1
  | digit m k hk hm ih =>
    intro _ more h
    rw [← Nat.toDigits_append_toDigits (by decide) hm hk] at h
    -- the first digit is that of the number without its last digit
    cases hfirst : Nat.toDigits 10 m with
    | nil => exact Nat.toDigits_ne_nil hfirst
    | cons c cs =>
      rw [hfirst, List.cons_append] at h
      exact ih hm cs (hfirst.trans (by rw [(List.cons.inj h).1]))

end GraphGateway.Digits
