import GraphGateway.Text.Utf8

/-!
# The octets of characters

A text is written as the octets of its characters, one character after the
other (`encode_ofList`), and reading the octets gives the text back
(`decode?_octetsOf`). Of a character that is not ASCII every octet is at
least `0x80`, so an ASCII octet is always a character of its own.
-/

namespace GraphGateway.Text.Utf8

/-- **The octets of some characters.** -/
def octetsOf (chars : List Char) : List UInt8 := chars.flatMap String.utf8EncodeChar

@[simp] theorem octetsOf_nil : octetsOf [] = [] := rfl

@[simp] theorem octetsOf_cons (c : Char) (rest : List Char) :
    octetsOf (c :: rest) = String.utf8EncodeChar c ++ octetsOf rest := rfl

@[simp] theorem octetsOf_append (first second : List Char) :
    octetsOf (first ++ second) = octetsOf first ++ octetsOf second :=
  List.flatMap_append

/-- A text has the octets of its characters. -/
theorem encode_ofList (chars : List Char) : encode (String.ofList chars) = octetsOf chars := by
  have hbytes : (String.ofList chars).toByteArray = (octetsOf chars).toByteArray := by
    rw [String.toByteArray_ofList]
    rfl
  rw [encode]
  show (String.ofList chars).toByteArray.data.toList = octetsOf chars
  rw [hbytes, List.data_toByteArray]

/-- **The octets of some characters are read as these characters.** -/
theorem decode?_octetsOf (chars : List Char) :
    decode? (octetsOf chars) = some (String.ofList chars) := by
  have hbytes : (⟨(octetsOf chars).toArray⟩ : ByteArray) = (String.ofList chars).toByteArray := by
    rw [String.toByteArray_ofList]
    refine ByteArray.ext ?_
    rw [List.utf8Encode, List.data_toByteArray]
    rfl
  have hvalid : ByteArray.IsValidUTF8 ⟨(octetsOf chars).toArray⟩ := by
    rw [hbytes]
    exact (String.ofList chars).isValidUTF8
  rw [decode?, String.fromUTF8?, dif_pos hvalid]
  exact congrArg some (String.toByteArray_inj.mp hbytes)

/-- **The octets of a text are read as the text.** -/
theorem decode?_encode (s : String) : decode? (encode s) = some s := by
  have hoctets : encode s = octetsOf s.toList := by rw [← encode_ofList, String.ofList_toList]
  rw [hoctets, decode?_octetsOf, String.ofList_toList]

/-- **Only the octets of a text are read**, and as that text. -/
theorem decode?_eq_some_iff {octets : List UInt8} {text : String} :
    decode? octets = some text ↔ octets = encode text := by
  constructor
  · intro h
    rw [decode?, String.fromUTF8?] at h
    split at h
    · next hvalid =>
      obtain rfl := Option.some.inj h
      rfl
    · cases h
  · rintro rfl
    exact decode?_encode text

/-- An ASCII character is one octet. -/
theorem utf8EncodeChar_of_ascii {c : Char} (h : c.toNat < 0x80) :
    String.utf8EncodeChar c = [UInt8.ofNat c.toNat] := by
  have hle : c.val.toNat ≤ 0x7F := Nat.le_of_lt_succ h
  rw [String.utf8EncodeChar]
  simp only [hle, if_true]
  rfl

/-- A character that is not ASCII has no octet of ASCII. -/
theorem le_of_mem_utf8EncodeChar {c : Char} (h : 0x80 ≤ c.toNat) {b : UInt8}
    (hb : b ∈ String.utf8EncodeChar c) : 0x80 ≤ b := by
  have hnot : ¬ c.val.toNat ≤ 0x7F := Nat.not_le.mpr h
  -- every octet is a part of the character with the mark of its place
  have hlead : ∀ n m : Nat, 0x80 ≤ m → n + m < 256 → (0x80 : UInt8) ≤ UInt8.ofNat (n + m) := by
    intro n m hm hlt
    rw [UInt8.le_iff_toNat_le, UInt8.toNat_ofNat_of_lt' hlt]
    exact Nat.le_trans hm (Nat.le_add_left m n)
  simp only [String.utf8EncodeChar, hnot, if_false] at hb
  split at hb
  · simp only [List.mem_cons, List.not_mem_nil, or_false] at hb
    rcases hb with rfl | rfl <;> exact hlead _ _ (by omega) (by omega)
  · split at hb
    · simp only [List.mem_cons, List.not_mem_nil, or_false] at hb
      rcases hb with rfl | rfl | rfl <;> exact hlead _ _ (by omega) (by omega)
    · simp only [List.mem_cons, List.not_mem_nil, or_false] at hb
      rcases hb with rfl | rfl | rfl | rfl <;> exact hlead _ _ (by omega) (by omega)

end GraphGateway.Text.Utf8
