import GraphGateway.Proofs.Text.Utf8
import GraphGateway.Text.Sniffed

/-!
# The text of a body

A body that is the UTF-8 of a text is read as the text (`Sniffed.decode_encode`),
unless the text starts with the mark that is no part of it. The reader takes the
octets of each character together and makes the character of them
(`Utf8.takeChar_utf8EncodeChar`), with one case for each number of octets.
-/

namespace GraphGateway.Text

namespace Utf8

/-- The number that an octet stands for. -/
theorem toNat_ofNat {n : Nat} (h : n < 256) : (UInt8.ofNat n).toNat = n :=
  UInt8.toNat_ofNat_of_lt' h

/-- An octet that continues a character has its payload. -/
theorem tailBits_ofNat {m : Nat} (hm : m < 64) : tailBits (UInt8.ofNat (m + 128)) = m := by
  rw [tailBits, toNat_ofNat (by omega)]
  omega

/-- An octet that continues a character is one. -/
theorem isTail_ofNat {m : Nat} (hm : m < 64) : isTail (UInt8.ofNat (m + 128)) = true := by
  rw [isTail, Bool.and_eq_true, decide_eq_true_eq, decide_eq_true_eq, UInt8.le_iff_toNat_le,
    UInt8.le_iff_toNat_le, toNat_ofNat (by omega)]
  exact ⟨Nat.le_add_left 128 m, by show m + 128 ≤ 191; omega⟩

/-- The bounds behind the first of two octets. -/
theorem secondBounds_two : ∀ n < 32, 2 ≤ n →
    secondBounds (UInt8.ofNat (n + 192)) = some (2, 0x80, 0xBF) := by
  decide

/-- The bounds behind the first of three octets: numbers that are written shorter, and
halves of pairs, are left out. -/
theorem secondBounds_three : ∀ n < 16, secondBounds (UInt8.ofNat (n + 224))
    = some (3, UInt8.ofNat (if n = 0 then 0xA0 else 0x80),
      UInt8.ofNat (if n = 13 then 0x9F else 0xBF)) := by
  decide

/-- The bounds behind the first of four octets: numbers that are written shorter, and
those too large, are left out. -/
theorem secondBounds_four : ∀ n < 5, secondBounds (UInt8.ofNat (n + 240))
    = some (4, UInt8.ofNat (if n = 0 then 0x90 else 0x80),
      UInt8.ofNat (if n = 4 then 0x8F else 0xBF)) := by
  decide

/-- The first of several octets is not ASCII. -/
theorem not_lt_of_le {n : Nat} (hle : 128 ≤ n) (hlt : n < 256) : ¬ UInt8.ofNat n < 0x80 := by
  rw [UInt8.lt_iff_toNat_lt, toNat_ofNat hlt]
  exact Nat.not_lt.mpr hle

/-- Two octets are a character. -/
theorem takeChar_two {n m : Nat} (hn : n < 32) (hlong : 2 ≤ n) (hm : m < 64) (rest : List UInt8) :
    takeChar (UInt8.ofNat (n + 192)) (UInt8.ofNat (m + 128) :: rest)
      = .char (Char.ofNat (n * 64 + m)) 2 := by
  have htail := isTail_ofNat hm
  unfold isTail at htail
  unfold takeChar
  rw [if_neg (not_lt_of_le (by omega) (by omega)), secondBounds_two n hn hlong]
  dsimp only
  rw [htail, tailBits_ofNat hm, toNat_ofNat (by omega)]
  rw [show (n + 192) % 0x20 = n by omega]
  rfl

/-- An octet between two bounds, by its number. -/
theorem between_ofNat (low high n : Nat) (hhigh : high < 256) (hlow : low ≤ n) (hn : n ≤ high) :
    (UInt8.ofNat low ≤ UInt8.ofNat n && UInt8.ofNat n ≤ UInt8.ofNat high) = true := by
  rw [Bool.and_eq_true, decide_eq_true_eq, decide_eq_true_eq, UInt8.le_iff_toNat_le,
    UInt8.le_iff_toNat_le, toNat_ofNat (by omega), toNat_ofNat (by omega), toNat_ofNat hhigh]
  exact ⟨hlow, hn⟩

/-- Three octets are a character. -/
theorem takeChar_three {n m k : Nat} (hn : n < 16) (hlong : n = 0 → 32 ≤ m)
    (hpair : n = 13 → m < 32) (hm : m < 64) (hk : k < 64) (rest : List UInt8) :
    takeChar (UInt8.ofNat (n + 224)) (UInt8.ofNat (m + 128) :: UInt8.ofNat (k + 128) :: rest)
      = .char (Char.ofNat (n * 4096 + m * 64 + k)) 3 := by
  have hsecond := between_ofNat (if n = 0 then 0xA0 else 0x80) (if n = 13 then 0x9F else 0xBF)
    (m + 128)
    (by split <;> omega) (by split <;> omega) (by split <;> omega)
  unfold takeChar
  rw [if_neg (not_lt_of_le (by omega) (by omega)), secondBounds_three n hn]
  dsimp only
  rw [hsecond, isTail_ofNat hk, tailBits_ofNat hm, tailBits_ofNat hk, toNat_ofNat (by omega),
    show (n + 224) % 0x10 = n by omega]
  rfl

/-- Four octets are a character. -/
theorem takeChar_four {n m k l : Nat} (hn : n < 5) (hlong : n = 0 → 16 ≤ m)
    (hlarge : n = 4 → m < 16) (hm : m < 64) (hk : k < 64) (hl : l < 64) (rest : List UInt8) :
    takeChar (UInt8.ofNat (n + 240))
        (UInt8.ofNat (m + 128) :: UInt8.ofNat (k + 128) :: UInt8.ofNat (l + 128) :: rest)
      = .char (Char.ofNat (n * 262144 + m * 4096 + k * 64 + l)) 4 := by
  have hsecond := between_ofNat (if n = 0 then 0x90 else 0x80) (if n = 4 then 0x8F else 0xBF)
    (m + 128)
    (by split <;> omega) (by split <;> omega) (by split <;> omega)
  unfold takeChar
  rw [if_neg (not_lt_of_le (by omega) (by omega)), secondBounds_four n hn]
  dsimp only
  rw [hsecond, isTail_ofNat hk, isTail_ofNat hl, tailBits_ofNat hm, tailBits_ofNat hk,
    tailBits_ofNat hl, toNat_ofNat (by omega), show (n + 240) % 0x08 = n by omega]
  rfl

/-- **The octets of a character are taken together**, as the character. -/
theorem takeChar_utf8EncodeChar (c : Char) (rest : List UInt8) :
    ∃ b more, String.utf8EncodeChar c = b :: more
      ∧ takeChar b (more ++ rest) = .char c (more.length + 1) := by
  have hvalid : c.val.toNat < 0xD800 ∨ 0xDFFF < c.val.toNat ∧ c.val.toNat < 0x110000 := c.valid
  have hchar : ∀ n, n = c.val.toNat → Char.ofNat n = c := fun n hn => by
    rw [hn]
    exact Char.ofNat_toNat c
  unfold String.utf8EncodeChar
  dsimp only
  generalize c.val.toNat = v at hvalid hchar ⊢
  -- one case for each number of octets
  by_cases hone : v ≤ 127
  · rw [if_pos hone]
    refine ⟨_, _, rfl, ?_⟩
    unfold takeChar
    rw [if_pos, toNat_ofNat (by omega), hchar v rfl]
    · rfl
    · rw [UInt8.lt_iff_toNat_lt, toNat_ofNat (by omega)]
      exact Nat.lt_succ_of_le hone
  rw [if_neg hone]
  by_cases htwo : v ≤ 2047
  · rw [if_pos htwo]
    refine ⟨_, _, rfl, (takeChar_two (by omega) (by omega) (by omega) rest).trans ?_⟩
    rw [hchar _ (by omega)]
    rfl
  rw [if_neg htwo]
  by_cases hthree : v ≤ 65535
  · rw [if_pos hthree]
    refine ⟨_, _, rfl,
      (takeChar_three (by omega) (by omega) (by omega) (by omega) (by omega) rest).trans ?_⟩
    rw [hchar _ (by omega)]
    rfl
  · rw [if_neg hthree]
    refine ⟨_, _, rfl, (takeChar_four (by omega) (by omega) (by omega) (by omega) (by omega)
      (by omega) rest).trans ?_⟩
    rw [hchar _ (by omega)]
    rfl

/-- The octets of some characters are read as these characters, with fuel to spare. -/
theorem decodeLossyAux_octetsOf (chars : List Char) :
    ∀ fuel, (octetsOf chars).length ≤ fuel → decodeLossyAux fuel (octetsOf chars) = chars := by
  induction chars with
  | nil => intro fuel _; cases fuel <;> rfl
  | cons c chars ih =>
    intro fuel hfuel
    obtain ⟨b, more, hencode, htake⟩ := takeChar_utf8EncodeChar c (octetsOf chars)
    rw [octetsOf_cons, hencode] at hfuel ⊢
    simp only [List.cons_append, List.length_cons, List.length_append] at hfuel ⊢
    obtain ⟨fuel, rfl⟩ : ∃ f, fuel = f + 1 := ⟨fuel - 1, by omega⟩
    rw [decodeLossyAux, htake]
    dsimp only
    rw [Nat.add_sub_cancel, List.drop_left, ih fuel (by omega)]

/-- **The octets of some characters are read as these characters.** -/
theorem decodeLossy_octetsOf (chars : List Char) :
    decodeLossy (octetsOf chars) = String.ofList chars := by
  rw [decodeLossy, decodeLossyAux_octetsOf chars _ (Nat.le_refl _)]

/-- The first of some characters is taken from their octets. -/
theorem takeChar_of_octetsOf {chars : List Char} {b : UInt8} {rest : List UInt8}
    (h : octetsOf chars = b :: rest) :
    ∃ c n, chars.head? = some c ∧ takeChar b rest = .char c n := by
  cases chars with
  | nil => cases h
  | cons c chars =>
    obtain ⟨first, more, hencode, htake⟩ := takeChar_utf8EncodeChar c (octetsOf chars)
    rw [octetsOf_cons, hencode] at h
    obtain ⟨rfl, rfl⟩ := List.cons.inj h
    exact ⟨c, _, rfl, htake⟩

end Utf8

namespace Sniffed

/-- **A body in UTF-8 is read as its text**, if the text does not start with a mark. -/
theorem decode_encode {s : String} (h : s.toList.head? ≠ some '\uFEFF') :
    decode (Utf8.encode s) = s := by
  have hencode : Utf8.encode s = Utf8.octetsOf s.toList := by
    rw [← Utf8.encode_ofList, String.ofList_toList]
  have hlossy : Utf8.decodeLossy (Utf8.encode s) = s := by
    rw [hencode, Utf8.decodeLossy_octetsOf, String.ofList_toList]
  -- no character is written with the octets of another mark
  unfold decode
  split
  · next hmark =>
    obtain ⟨c, n, hc, htake⟩ := Utf8.takeChar_of_octetsOf (hencode.symm.trans hmark)
    obtain ⟨rfl, -⟩ := Utf8.Step.char.inj htake
    exact absurd hc h
  · next hmark =>
    obtain ⟨c, n, hc, htake⟩ := Utf8.takeChar_of_octetsOf (hencode.symm.trans hmark)
    cases htake
  · next hmark =>
    obtain ⟨c, n, hc, htake⟩ := Utf8.takeChar_of_octetsOf (hencode.symm.trans hmark)
    cases htake
  · exact hlossy

end Sniffed

end GraphGateway.Text
