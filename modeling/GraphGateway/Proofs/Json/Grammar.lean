import GraphGateway.Json.Numeral
import GraphGateway.Json.StringLiteral

/-!
# The grammar of JSON

What JSON is does not depend on any reader. The rules of its grammar are stated here
for octets: `IsValue` are the texts of values, and `IsArray` and `IsObject` those of the
two kinds of containers. The numbers may be as large and the containers as deep as
they like, and nothing is asked of a name that comes twice. The octets between two quotes
need not be UTF-8, so that the rules let through more than JSON does, and what holds of
all texts of the grammar holds of all JSON.

A text starts with what it is: no value but an array starts with an opening bracket
(`IsValue.first`).
-/

namespace GraphGateway.Json.Grammar

/-! ## Scalars -/

/-- **Blanks** between the tokens. -/
def Blanks (text : List UInt8) : Prop := ∀ b ∈ text, Cursor.isBlankOctet b = true

/-- There may be no blanks at all. -/
theorem Blanks.nil : Blanks [] := fun _ hb => absurd hb List.not_mem_nil

/-- One or more digits. -/
def Digits (text : List UInt8) : Prop := text ≠ [] ∧ ∀ b ∈ text, isDigit b = true

/-- The digits before the point: a zero, or digits that do not start with it. -/
inductive IsWhole : List UInt8 → Prop where
  /-- A zero. -/
  | zero : IsWhole [0x30]
  /-- A digit that is not zero, and more digits. -/
  | digits {first : UInt8} {rest : List UInt8} (hzero : first ≠ 0x30)
    (hdigits : Digits (first :: rest)) : IsWhole (first :: rest)

/-- The point and the digits behind it, if they are there. -/
inductive IsFraction : List UInt8 → Prop where
  /-- They are not there. -/
  | none : IsFraction []
  /-- They are there. -/
  | some {digits : List UInt8} (hdigits : Digits digits) : IsFraction (0x2E :: digits)

/-- The exponent, if it is there. -/
inductive IsExponent : List UInt8 → Prop where
  /-- It is not there. -/
  | none : IsExponent []
  /-- It is there, perhaps with a sign. -/
  | some {letter : UInt8} {sign digits : List UInt8} (hletter : letter ∈ [0x65, 0x45])
    (hsign : sign ∈ [[], [0x2B], [0x2D]]) (hdigits : Digits digits) :
    IsExponent (letter :: (sign ++ digits))

/-- **A numeral**, perhaps behind a minus sign. -/
inductive IsNumeral : List UInt8 → Prop where
  /-- Behind a minus sign. -/
  | negative {whole fraction exponent : List UInt8} (hwhole : IsWhole whole)
    (hfraction : IsFraction fraction) (hexponent : IsExponent exponent) :
    IsNumeral (0x2D :: (whole ++ fraction ++ exponent))
  /-- Without it. -/
  | positive {whole fraction exponent : List UInt8} (hwhole : IsWhole whole)
    (hfraction : IsFraction fraction) (hexponent : IsExponent exponent) :
    IsNumeral (whole ++ fraction ++ exponent)

/-- What stands between two quotes. -/
inductive AreCharacters : List UInt8 → Prop where
  /-- Nothing. -/
  | nil : AreCharacters []
  /-- An octet that is no control character, no quote and no backslash. -/
  | plain {b : UInt8} {rest : List UInt8} (hcontrol : 0x20 ≤ b) (hquote : b ≠ 0x22)
    (hbackslash : b ≠ 0x5C) (hrest : AreCharacters rest) : AreCharacters (b :: rest)
  /-- A backslash and an octet that together stand for another one. -/
  | escape {b : UInt8} {rest : List UInt8} (hb : (StringLiteral.simpleEscape? b).isSome = true)
    (hrest : AreCharacters rest) : AreCharacters (0x5C :: b :: rest)
  /-- A backslash, the letter `u` and four hexadecimal digits. -/
  | code {digits rest : List UInt8} (hlength : digits.length = 4)
    (hdigits : ∀ b ∈ digits, (StringLiteral.hexValue? b).isSome = true)
    (hrest : AreCharacters rest) : AreCharacters (0x5C :: 0x75 :: (digits ++ rest))

/-- **A string**, in quotes. -/
inductive IsString : List UInt8 → Prop where
  /-- The quotes, and what stands between them. -/
  | mk {characters : List UInt8} (hcharacters : AreCharacters characters) :
    IsString (0x22 :: (characters ++ [0x22]))

/-! ## Values -/

mutual

/-- **A value.** -/
inductive IsValue : List UInt8 → Prop where
  /-- The word `null`. -/
  | nullWord : IsValue [0x6E, 0x75, 0x6C, 0x6C]
  /-- The word `true`. -/
  | trueWord : IsValue [0x74, 0x72, 0x75, 0x65]
  /-- The word `false`. -/
  | falseWord : IsValue [0x66, 0x61, 0x6C, 0x73, 0x65]
  /-- A number. -/
  | number {text : List UInt8} (h : IsNumeral text) : IsValue text
  /-- A string. -/
  | string {text : List UInt8} (h : IsString text) : IsValue text
  /-- An array. -/
  | array {text : List UInt8} (h : IsArray text) : IsValue text
  /-- An object. -/
  | object {text : List UInt8} (h : IsObject text) : IsValue text

/-- **An array**, in brackets. -/
inductive IsArray : List UInt8 → Prop where
  /-- There is nothing in it. -/
  | empty {blanks : List UInt8} (hblanks : Blanks blanks) : IsArray (0x5B :: (blanks ++ [0x5D]))
  /-- There are values in it. -/
  | items {items : List UInt8} (hitems : AreItems items) : IsArray (0x5B :: (items ++ [0x5D]))

/-- The items of an array. -/
inductive AreItems : List UInt8 → Prop where
  /-- One value, among blanks. -/
  | last {before value behind : List UInt8} (hbefore : Blanks before) (hvalue : IsValue value)
    (hbehind : Blanks behind) : AreItems (before ++ value ++ behind)
  /-- One value, among blanks, and more behind a comma. -/
  | more {before value behind rest : List UInt8} (hbefore : Blanks before)
    (hvalue : IsValue value) (hbehind : Blanks behind) (hrest : AreItems rest) :
    AreItems (before ++ value ++ behind ++ 0x2C :: rest)

/-- **An object**, in braces. -/
inductive IsObject : List UInt8 → Prop where
  /-- There is nothing in it. -/
  | empty {blanks : List UInt8} (hblanks : Blanks blanks) : IsObject (0x7B :: (blanks ++ [0x7D]))
  /-- There are members in it. -/
  | members {members : List UInt8} (hmembers : AreMembers members) :
    IsObject (0x7B :: (members ++ [0x7D]))

/-- A name, a colon and a value. -/
inductive IsMember : List UInt8 → Prop where
  /-- The three, among blanks. -/
  | mk {before name behind before' value behind' : List UInt8} (hbefore : Blanks before)
    (hname : IsString name) (hbehind : Blanks behind) (hbefore' : Blanks before')
    (hvalue : IsValue value) (hbehind' : Blanks behind') :
    IsMember (before ++ name ++ behind ++ 0x3A :: (before' ++ value ++ behind'))

/-- The members of an object. -/
inductive AreMembers : List UInt8 → Prop where
  /-- One member. -/
  | last {member : List UInt8} (hmember : IsMember member) : AreMembers member
  /-- One member, and more behind a comma. -/
  | more {member rest : List UInt8} (hmember : IsMember member) (hrest : AreMembers rest) :
    AreMembers (member ++ 0x2C :: rest)

end

/-- **A JSON text**: a value, among blanks. -/
inductive IsDocument : List UInt8 → Prop where
  /-- A value with blanks before it and behind it. -/
  | mk {before value behind : List UInt8} (hbefore : Blanks before) (hvalue : IsValue value)
    (hbehind : Blanks behind) : IsDocument (before ++ (value ++ behind))

/-! ## How texts start -/

/-- An array starts with its bracket. -/
theorem IsArray.head?_eq {text : List UInt8} (h : IsArray text) : text.head? = some 0x5B := by
  cases h <;> rfl

/-- The digits before the point start with a digit. -/
theorem IsWhole.exists_cons {text : List UInt8} (h : IsWhole text) :
    ∃ b rest, text = b :: rest ∧ isDigit b = true := by
  cases h with
  | zero => exact ⟨_, _, rfl, rfl⟩
  | digits _ hdigits => exact ⟨_, _, rfl, hdigits.2 _ (List.mem_cons_self ..)⟩

/-- A numeral starts with a minus sign or a digit. -/
theorem IsNumeral.exists_cons {text : List UInt8} (h : IsNumeral text) :
    ∃ b rest, text = b :: rest ∧ (b = 0x2D ∨ isDigit b = true) := by
  cases h with
  | negative => exact ⟨_, _, rfl, .inl rfl⟩
  | positive hwhole =>
    obtain ⟨b, rest, rfl, hb⟩ := hwhole.exists_cons
    exact ⟨b, _, rfl, .inr hb⟩

/-- **What a value starts with** is no blank, not even the form feed, which JSON does not know
as one, and it is an opening bracket exactly if the value is an array. -/
theorem IsValue.first {text : List UInt8} (h : IsValue text) :
    ∃ b rest, text = b :: rest ∧ (Cursor.isBlankOctet b = false ∧ b ≠ 0x0C)
      ∧ (b = 0x5B ↔ IsArray text) := by
  have hother : ∀ (b : UInt8) (rest : List UInt8), b ≠ 0x5B → (b = 0x5B ↔ IsArray (b :: rest)) :=
    fun b rest hb => ⟨fun hbracket => absurd hbracket hb,
      fun harray => absurd (Option.some.inj harray.head?_eq) hb⟩
  cases h with
  | nullWord => exact ⟨_, _, rfl, by decide, hother _ _ (by decide)⟩
  | trueWord => exact ⟨_, _, rfl, by decide, hother _ _ (by decide)⟩
  | falseWord => exact ⟨_, _, rfl, by decide, hother _ _ (by decide)⟩
  | number hnumeral =>
    obtain ⟨b, rest, rfl, hb⟩ := hnumeral.exists_cons
    have hnot : ∀ other : UInt8, other ≠ 0x2D → isDigit other = false → b ≠ other := by
      rintro other hminus hdigit rfl
      rcases hb with hb | hb
      · exact hminus hb
      · rw [hdigit] at hb
        exact Bool.false_ne_true hb
    refine ⟨b, rest, rfl, ⟨?_, hnot _ (by decide) rfl⟩, hother _ _ (hnot _ (by decide) rfl)⟩
    simp [Cursor.isBlankOctet, hnot 0x20 (by decide) rfl, hnot 0x09 (by decide) rfl,
      hnot 0x0A (by decide) rfl, hnot 0x0D (by decide) rfl]
  | string hstring =>
    cases hstring with
    | mk => exact ⟨_, _, rfl, by decide, hother _ _ (by decide)⟩
  | array harray =>
    have harray' := harray
    cases harray with
    | empty => exact ⟨_, _, rfl, by decide, fun _ => harray', fun _ => rfl⟩
    | items => exact ⟨_, _, rfl, by decide, fun _ => harray', fun _ => rfl⟩
  | object hobject =>
    cases hobject with
    | empty => exact ⟨_, _, rfl, by decide, hother _ _ (by decide)⟩
    | members => exact ⟨_, _, rfl, by decide, hother _ _ (by decide)⟩

end GraphGateway.Json.Grammar
