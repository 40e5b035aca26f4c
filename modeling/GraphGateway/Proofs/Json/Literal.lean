import GraphGateway.Json.Node
import GraphGateway.Json.Printer
import GraphGateway.Proofs.Json.Grammar
import GraphGateway.Proofs.Text.Utf8
import Mathlib.Tactic.IntervalCases

/-!
# String literals are read

A string of the grammar is found up to its closing quote, wherever it stands
and whatever stands behind it, and what it says is the same at every place,
since only faults have places (`scan_characters`). The reader gets from one
character to the next with octets added to its text, or with a fault that it
keeps (`ReadsThrough`).

A text is written as a literal character by character, and the reader gets
from the octets of one written character to the octets of the next with the
octets of the character itself in its text (`scanFrom_escapeChar`). So a
written text is a string of the grammar that says the text again
(`areCharacters_escape`).
-/

namespace GraphGateway.Json

open Grammar
open Text.Utf8 (octetsOf)

namespace StringLiteral

/-! ## Strings of the grammar -/

/-- Where the reader stands between two characters: perhaps behind the first half of a surrogate
pair. -/
def between : Option Nat → State
  | none => .plain
  | some high => .pair high

/-- **What a code says** behind the first half of a surrogate pair, or without one: whether it is
such a half itself, whether it is a half that stands alone, and the octets of its character. -/
def codeEnd : Option Nat → Nat → Option Nat × Bool × List UInt8
  | some high, n =>
    if isLow n then (none, false, codeOctets ((high - 0xD800) * 0x400 + (n - 0xDC00) + 0x10000))
    else (none, true, [])
  | none, n =>
    if isLow n then (none, true, [])
    else if isHigh n then (some n, false, [])
    else (none, false, codeOctets n)

/-- A digit of a code is read. -/
theorem scanFrom_digit {b : UInt8} {d : Nat} (hb : hexValue? b = some d)
    (finish : List UInt8 → Except Fault String) (trouble : Option Fault) (high : Option Nat)
    (left n : Nat) (read : List UInt8) (offset : Nat) (rest : List UInt8) :
    scanFrom finish trouble (.code high (left + 2) (some n)) read offset (b :: rest)
      = scanFrom finish trouble (.code high (left + 1) (some (n * 16 + d))) read (offset + 1)
        rest := by
  rw [scanFrom]
  · rfl
  · exact hb

/-- **The last digit of a code is read**, unless a fault was found before. -/
theorem scanFrom_lastDigit {b : UInt8} {d : Nat} (hb : hexValue? b = some d)
    (finish : List UInt8 → Except Fault String) (trouble : Option Fault) (high : Option Nat)
    (n : Nat) (read : List UInt8) (offset : Nat) (rest : List UInt8) :
    scanFrom finish trouble (.code high 1 (some n)) read offset (b :: rest)
      = if trouble.isSome then scanFrom finish trouble .plain read (offset + 1) rest
        else
          let (high', lone, added) := codeEnd high (n * 16 + d)
          scanFrom finish (if lone then some ⟨.loneSurrogate, offset + 1⟩ else none)
            (between high') (added ++ read) (offset + 1) rest := by
  conv =>
    lhs
    unfold scanFrom
  simp only [hb]
  cases trouble with
  | some fault => simp
  | none =>
    cases high with
    | some high => by_cases hlow : isLow (n * 16 + d) = true <;> simp [codeEnd, between, hlow]
    | none =>
      by_cases hlow : isLow (n * 16 + d) = true
      · simp [codeEnd, between, hlow]
      · by_cases hhigh : isHigh (n * 16 + d) = true <;> simp [codeEnd, between, hlow, hhigh]

/-- **Some octets are read to the same end wherever they stand**: to a place between two
characters, with the same octets added to the text, and with a fault of the text or without one. -/
def ReadsThrough (state : State) (troubled : Bool) (octets : List UInt8) : Prop :=
  ∃ (high : Option Nat) (troubled' : Bool) (added : List UInt8),
    ∀ finish (trouble : Option Fault), trouble.isSome = troubled → ∀ read offset rest,
      ∃ trouble' : Option Fault, trouble'.isSome = troubled'
        ∧ scanFrom finish trouble state read offset (octets ++ rest)
          = scanFrom finish trouble' (between high) (added ++ read) (offset + octets.length) rest

/-- Nothing is read through. -/
theorem readsThrough_nil (high : Option Nat) (troubled : Bool) :
    ReadsThrough (between high) troubled [] :=
  ⟨high, troubled, [], fun _ trouble htrouble _ _ _ => ⟨trouble, htrouble, rfl⟩⟩

/-- One octet is read through before others. -/
theorem readsThrough_cons {state : State} (next : State) {troubled : Bool} {b : UInt8}
    {octets : List UInt8}
    (hb : ∀ finish trouble read offset rest,
      scanFrom finish trouble state read offset (b :: rest)
        = scanFrom finish trouble next read (offset + 1) rest)
    (h : ReadsThrough next troubled octets) : ReadsThrough state troubled (b :: octets) := by
  obtain ⟨high, troubled', added, h⟩ := h
  refine ⟨high, troubled', added, fun finish trouble htrouble read offset rest => ?_⟩
  obtain ⟨trouble', htrouble', hscan⟩ := h finish trouble htrouble read (offset + 1) rest
  refine ⟨trouble', htrouble', ?_⟩
  rw [List.cons_append, hb, hscan, List.length_cons, Nat.add_right_comm, Nat.add_assoc]

/-- **Octets that are read through one after the other** are read through together. -/
theorem readsThrough_append {state : State} {troubled : Bool} {first second : List UInt8}
    (hfirst : ReadsThrough state troubled first)
    (hsecond : ∀ high troubled, ReadsThrough (between high) troubled second) :
    ReadsThrough state troubled (first ++ second) := by
  obtain ⟨high₁, troubled₁, added₁, h₁⟩ := hfirst
  obtain ⟨high₂, troubled₂, added₂, h₂⟩ := hsecond high₁ troubled₁
  refine ⟨high₂, troubled₂, added₂ ++ added₁, fun finish trouble htrouble read offset rest => ?_⟩
  obtain ⟨trouble₁, htrouble₁, hscan₁⟩ := h₁ finish trouble htrouble read offset (second ++ rest)
  obtain ⟨trouble₂, htrouble₂, hscan₂⟩ :=
    h₂ finish trouble₁ htrouble₁ (added₁ ++ read) (offset + first.length) rest
  refine ⟨trouble₂, htrouble₂, ?_⟩
  rw [List.append_assoc, hscan₁, hscan₂, List.append_assoc, List.length_append, Nat.add_assoc]

/-- An octet that stands for itself is read through. -/
theorem readsThrough_plain {b : UInt8} (hcontrol : 0x20 ≤ b) (hquote : b ≠ 0x22)
    (hbackslash : b ≠ 0x5C) (high : Option Nat) (troubled : Bool) :
    ReadsThrough (between high) troubled [b] := by
  have hlt : ¬ b < 0x20 := UInt8.not_lt.mpr hcontrol
  cases high with
  | none =>
    refine ⟨none, troubled, [b], fun finish trouble htrouble read offset rest =>
      ⟨trouble, htrouble, ?_⟩⟩
    show scanFrom finish trouble .plain read offset (b :: rest) = _
    rw [scanFrom]
    simp [hquote, hbackslash, hlt, between]
  | some high =>
    -- the second half of the pair is missing
    refine ⟨none, true, [b], fun finish trouble htrouble read offset rest =>
      ⟨some ⟨.pairUnfinished, offset + 1⟩, rfl, ?_⟩⟩
    show scanFrom finish trouble (.pair high) read offset (b :: rest) = _
    rw [scanFrom]
    simp [hquote, hbackslash, hlt, between]

/-- A backslash with an octet that stands for another one is read through. -/
theorem readsThrough_escape {b : UInt8} (hb : (simpleEscape? b).isSome = true)
    (high : Option Nat) (troubled : Bool) : ReadsThrough (between high) troubled [0x5C, b] := by
  obtain ⟨c, hc⟩ := Option.isSome_iff_exists.mp hb
  have hu : b ≠ 0x75 := by
    rintro rfl
    cases hc
  cases high with
  | none =>
    refine readsThrough_cons .escape (fun _ _ _ _ _ => rfl)
      ⟨none, troubled, [c], fun finish trouble htrouble read offset rest => ⟨trouble, htrouble, ?_⟩⟩
    rw [List.singleton_append, scanFrom]
    simp [hu, hc, between]
  | some high =>
    refine readsThrough_cons (.pairEscape high) (fun _ _ _ _ _ => rfl)
      ⟨none, true, [c], fun finish trouble htrouble read offset rest =>
        ⟨some ⟨.pairUnfinished, offset + 1⟩, rfl, ?_⟩⟩
    rw [List.singleton_append, scanFrom]
    simp [hu, hc, between]

/-- The last digit of a code is read through. -/
theorem readsThrough_lastDigit {b : UInt8} (hb : (hexValue? b).isSome = true) (high : Option Nat)
    (n : Nat) (troubled : Bool) : ReadsThrough (.code high 1 (some n)) troubled [b] := by
  obtain ⟨d, hd⟩ := Option.isSome_iff_exists.mp hb
  cases troubled with
  | true =>
    exact ⟨none, true, [], fun finish trouble htrouble read offset rest =>
      ⟨trouble, htrouble, (scanFrom_lastDigit hd ..).trans (if_pos htrouble)⟩⟩
  | false =>
    refine ⟨(codeEnd high (n * 16 + d)).1, (codeEnd high (n * 16 + d)).2.1, _,
      fun finish trouble htrouble read offset rest =>
        ⟨if (codeEnd high (n * 16 + d)).2.1 then some ⟨.loneSurrogate, offset + 1⟩ else none, ?_,
          (scanFrom_lastDigit hd ..).trans (if_neg (by simp [htrouble]))⟩⟩
    cases (codeEnd high (n * 16 + d)).2.1 <;> rfl

/-- **A code is read through.** -/
theorem readsThrough_code {digits : List UInt8} (hlength : digits.length = 4)
    (hdigits : ∀ b ∈ digits, (hexValue? b).isSome = true) (high : Option Nat) (troubled : Bool) :
    ReadsThrough (between high) troubled (0x5C :: 0x75 :: digits) := by
  obtain ⟨b₁, b₂, b₃, b₄, rfl⟩ : ∃ b₁ b₂ b₃ b₄, digits = [b₁, b₂, b₃, b₄] := by
    match digits, hlength with
    | [b₁, b₂, b₃, b₄], _ => exact ⟨b₁, b₂, b₃, b₄, rfl⟩
  have hdigit : ∀ b ∈ [b₁, b₂, b₃, b₄], ∀ left n octets,
      (∀ n, ReadsThrough (.code high (left + 1) (some n)) troubled octets) →
        ReadsThrough (.code high (left + 2) (some n)) troubled (b :: octets) := by
    intro b hb left n octets h
    obtain ⟨d, hd⟩ := Option.isSome_iff_exists.mp (hdigits b hb)
    exact readsThrough_cons _ (fun _ _ _ _ _ => scanFrom_digit hd ..) (h _)
  have hcode : ReadsThrough (.code high 4 (some 0)) troubled [b₁, b₂, b₃, b₄] :=
    hdigit b₁ (by simp) 2 0 _ fun n => hdigit b₂ (by simp) 1 n _ fun n =>
      hdigit b₃ (by simp) 0 n _ fun n =>
        readsThrough_lastDigit (hdigits b₄ (by simp)) high n troubled
  cases high with
  | none =>
    exact readsThrough_cons .escape (fun _ _ _ _ _ => rfl)
      (readsThrough_cons _ (fun _ _ _ _ _ => rfl) hcode)
  | some high =>
    exact readsThrough_cons (.pairEscape high) (fun _ _ _ _ _ => rfl)
      (readsThrough_cons _ (fun _ _ _ _ _ => rfl) hcode)

/-- **What stands between two quotes is read through.** -/
theorem readsThrough_characters {characters : List UInt8} (h : AreCharacters characters)
    (high : Option Nat) (troubled : Bool) : ReadsThrough (between high) troubled characters := by
  induction h generalizing high troubled with
  | nil => exact readsThrough_nil high troubled
  | plain hcontrol hquote hbackslash _ ih =>
    exact readsThrough_append (readsThrough_plain hcontrol hquote hbackslash high troubled) ih
  | escape hb _ ih => exact readsThrough_append (readsThrough_escape hb high troubled) ih
  | code hlength hdigits _ ih =>
    exact readsThrough_append (readsThrough_code hlength hdigits high troubled) ih

/-- **The text between two quotes**, if it is Unicode. -/
def stringOf? (characters : List UInt8) : Option String :=
  (scan (.start (characters ++ [0x22]))).text.toOption

/-- **A string is found up to its closing quote, and says its text**, wherever it stands. -/
theorem scan_characters {characters : List UInt8} (h : AreCharacters characters) (offset : Nat)
    (rest : List UInt8) :
    (scan ⟨offset, characters ++ 0x22 :: rest⟩).next
        = .ok ⟨offset + characters.length + 1, rest⟩
      ∧ (scan ⟨offset, characters ++ 0x22 :: rest⟩).text.toOption = stringOf? characters := by
  obtain ⟨high, troubled, added, hread⟩ := readsThrough_characters h none false
  -- the end of the reading tells the text, and it is the same at every place
  have hend : ∀ offset rest, (scan ⟨offset, characters ++ 0x22 :: rest⟩).next
        = .ok ⟨offset + characters.length + 1, rest⟩
      ∧ (scan ⟨offset, characters ++ 0x22 :: rest⟩).text.toOption
        = if troubled || high.isSome then none else Text.Utf8.decode? added.reverse := by
    intro offset rest
    obtain ⟨trouble, rfl, hscan⟩ := hread (textOf offset (characters ++ 0x22 :: rest)) none rfl []
      offset (0x22 :: rest)
    rw [List.append_nil, between] at hscan
    rw [scan, hscan]
    cases high with
    | some high =>
      rw [Option.isSome_some, Bool.or_true]
      exact ⟨rfl, rfl⟩
    | none =>
      cases trouble with
      | some fault => exact ⟨rfl, rfl⟩
      | none =>
        refine ⟨rfl, ?_⟩
        show (textOf offset (characters ++ 0x22 :: rest) added.reverse).toOption = _
        rw [textOf]
        cases Text.Utf8.decode? added.reverse <;> rfl
  exact ⟨(hend offset rest).1, (hend offset rest).2.trans (hend 0 []).2.symm⟩

/-! ## Written strings -/

variable (finish : List UInt8 → Except Fault String)

/-- **Octets that are neither a quote, nor a backslash, nor a control** go
into the text as they are. -/
theorem scanFrom_plain (octets : List UInt8)
    (h : ∀ b ∈ octets, b ≠ 0x22 ∧ b ≠ 0x5C ∧ 0x20 ≤ b) (read : List UInt8) (offset : Nat)
    (rest : List UInt8) :
    scanFrom finish none .plain read offset (octets ++ rest)
      = scanFrom finish none .plain (octets.reverse ++ read) (offset + octets.length) rest := by
  induction octets generalizing read offset with
  | nil => rfl
  | cons b octets ih =>
    obtain ⟨hquote, hbackslash, hcontrol⟩ := h b (List.mem_cons_self ..)
    have hstep : scanFrom finish none .plain read offset (b :: (octets ++ rest))
        = scanFrom finish none .plain (b :: read) (offset + 1) (octets ++ rest) := by
      rw [scanFrom]
      simp [hquote, hbackslash, hcontrol]
    rw [List.cons_append, hstep, ih (fun x hx => h x (List.mem_cons_of_mem _ hx)),
      List.length_cons, List.reverse_cons, List.append_assoc, Nat.add_assoc, Nat.add_comm 1]
    rfl

/-- A character that is written as it is has plain octets only. -/
theorem plain_of_mem_utf8EncodeChar {c : Char} (hquote : c ≠ '"') (hbackslash : c ≠ '\\')
    (hcontrol : ¬ c.toNat < 0x20) :
    ∀ b ∈ String.utf8EncodeChar c, b ≠ 0x22 ∧ b ≠ 0x5C ∧ 0x20 ≤ b := by
  intro b hb
  rw [ne_eq, ne_eq, ← UInt8.toNat_inj, ← UInt8.toNat_inj, UInt8.le_iff_toNat_le]
  by_cases hascii : c.toNat < 0x80
  · rw [Text.Utf8.utf8EncodeChar_of_ascii hascii, List.mem_singleton] at hb
    have hnat : b.toNat = c.toNat := by
      rw [hb]
      exact UInt8.toNat_ofNat_of_lt' (Nat.lt_trans hascii (by decide))
    rw [hnat]
    rw [ne_eq, ← Char.toNat_inj] at hquote hbackslash
    exact ⟨hquote, hbackslash, Nat.le_of_not_lt hcontrol⟩
  · -- the octets of a longer character are none of ASCII
    have hle : 0x80 ≤ b.toNat :=
      UInt8.le_iff_toNat_le.mp (Text.Utf8.le_of_mem_utf8EncodeChar (Nat.le_of_not_lt hascii) hb)
    show b.toNat ≠ 0x22 ∧ b.toNat ≠ 0x5C ∧ 0x20 ≤ b.toNat
    omega

/-- A character that is written as it is. -/
theorem octetsOf_escapeChar {c : Char} (hquote : c ≠ '"') (hbackslash : c ≠ '\\')
    (hcontrol : ¬ c.toNat < 0x20) : octetsOf (escapeChar c) = String.utf8EncodeChar c := by
  simp [escapeChar, hquote, hbackslash, hcontrol]

/-- A control is read from its escape. -/
theorem scanFrom_control (c : Char) (h : c.toNat < 0x20) (read : List UInt8) (offset : Nat)
    (rest : List UInt8) :
    scanFrom finish none .plain read offset (octetsOf (escapeChar c) ++ rest)
      = scanFrom finish none .plain ((String.utf8EncodeChar c).reverse ++ read)
        (offset + (octetsOf (escapeChar c)).length) rest := by
  obtain ⟨n, hn, rfl⟩ : ∃ n, n < 0x20 ∧ c = Char.ofNat n := ⟨c.toNat, h, (Char.ofNat_toNat c).symm⟩
  clear h
  interval_cases n <;> rfl

/-- **A character is read from what is written for it**, to the octets that
it has. -/
theorem scanFrom_escapeChar (c : Char) (read : List UInt8) (offset : Nat) (rest : List UInt8) :
    scanFrom finish none .plain read offset (octetsOf (escapeChar c) ++ rest)
      = scanFrom finish none .plain ((String.utf8EncodeChar c).reverse ++ read)
        (offset + (octetsOf (escapeChar c)).length) rest := by
  -- the two characters with an escape of their own, then the controls
  by_cases hquote : c = '"'
  · subst hquote
    rfl
  by_cases hbackslash : c = '\\'
  · subst hbackslash
    rfl
  by_cases hcontrol : c.toNat < 0x20
  · exact scanFrom_control finish c hcontrol read offset rest
  -- every other character is written as its own octets, which are all plain
  rw [octetsOf_escapeChar hquote hbackslash hcontrol]
  exact scanFrom_plain finish _ (plain_of_mem_utf8EncodeChar hquote hbackslash hcontrol) read offset
    rest

/-- **A text is read from what is written for it**, up to the quote behind
it. -/
theorem scanFrom_escape (chars : List Char) (read : List UInt8) (offset : Nat)
    (rest : List UInt8) :
    scanFrom finish none .plain read offset
        (octetsOf (chars.flatMap escapeChar ++ ['"']) ++ rest)
      = { text := finish (read.reverse ++ octetsOf chars)
          next := .ok ⟨offset + (octetsOf (chars.flatMap escapeChar ++ ['"'])).length, rest⟩ } := by
  induction chars generalizing read offset with
  | nil =>
    rw [Text.Utf8.octetsOf_nil, List.append_nil]
    rfl
  | cons c chars ih =>
    rw [List.flatMap_cons, List.append_assoc, Text.Utf8.octetsOf_append, List.append_assoc,
      scanFrom_escapeChar, ih, List.reverse_append, List.reverse_reverse, List.append_assoc,
      List.length_append, Nat.add_assoc]
    rfl

/-! ## Written strings are strings of the grammar -/

/-- Characters before others are characters. -/
theorem areCharacters_append {first second : List UInt8} (hfirst : AreCharacters first)
    (hsecond : AreCharacters second) : AreCharacters (first ++ second) := by
  induction hfirst with
  | nil => exact hsecond
  | plain hcontrol hquote hbackslash _ ih => exact .plain hcontrol hquote hbackslash ih
  | escape hb _ ih => exact .escape hb ih
  | code hlength hdigits _ ih =>
    rw [List.cons_append, List.cons_append, List.append_assoc]
    exact .code hlength hdigits ih

/-- Plain octets are characters. -/
theorem areCharacters_plain (octets : List UInt8)
    (h : ∀ b ∈ octets, b ≠ 0x22 ∧ b ≠ 0x5C ∧ 0x20 ≤ b) : AreCharacters octets := by
  induction octets with
  | nil => exact .nil
  | cons b octets ih =>
    obtain ⟨hquote, hbackslash, hcontrol⟩ := h b (List.mem_cons_self ..)
    exact .plain hcontrol hquote hbackslash (ih fun x hx => h x (List.mem_cons_of_mem _ hx))

/-- The escape of a control is one character. -/
theorem areCharacters_control (c : Char) (h : c.toNat < 0x20) :
    AreCharacters (octetsOf (escapeChar c)) := by
  have hcode : ∀ d₁ d₂ d₃ d₄, [d₁, d₂, d₃, d₄].all (fun b => (hexValue? b).isSome) = true →
      AreCharacters [0x5C, 0x75, d₁, d₂, d₃, d₄] :=
    fun d₁ d₂ d₃ d₄ hdigits =>
      AreCharacters.code (rfl : [d₁, d₂, d₃, d₄].length = 4) (List.all_eq_true.mp hdigits) .nil
  obtain ⟨n, hn, rfl⟩ : ∃ n, n < 0x20 ∧ c = Char.ofNat n := ⟨c.toNat, h, (Char.ofNat_toNat c).symm⟩
  clear h
  -- five controls have an escape of their own, and the others a code
  interval_cases n <;>
    first
    | exact .escape rfl .nil
    | exact hcode _ _ _ _ rfl

/-- What is written for a character is one character. -/
theorem areCharacters_escapeChar (c : Char) : AreCharacters (octetsOf (escapeChar c)) := by
  by_cases hquote : c = '"'
  · subst hquote
    exact .escape rfl .nil
  by_cases hbackslash : c = '\\'
  · subst hbackslash
    exact .escape rfl .nil
  by_cases hcontrol : c.toNat < 0x20
  · exact areCharacters_control c hcontrol
  · rw [octetsOf_escapeChar hquote hbackslash hcontrol]
    exact areCharacters_plain _ (plain_of_mem_utf8EncodeChar hquote hbackslash hcontrol)

/-- **A written text is a string of the grammar**, which says the text again. -/
theorem areCharacters_escape (s : String) :
    AreCharacters (octetsOf (s.toList.flatMap escapeChar))
      ∧ stringOf? (octetsOf (s.toList.flatMap escapeChar)) = some s := by
  constructor
  · induction s.toList with
    | nil => exact .nil
    | cons c chars ih =>
      rw [List.flatMap_cons, Text.Utf8.octetsOf_append]
      exact areCharacters_append (areCharacters_escapeChar c) ih
  · have hquote : octetsOf (s.toList.flatMap escapeChar) ++ [0x22]
        = octetsOf (s.toList.flatMap escapeChar ++ ['"']) ++ [] := by
      rw [Text.Utf8.octetsOf_append, List.append_nil]
      rfl
    rw [stringOf?, hquote, Cursor.start, scan, scanFrom_escape, List.reverse_nil, List.nil_append,
      textOf, Text.Utf8.decode?_octetsOf, String.ofList_toList]
    rfl

end StringLiteral

end GraphGateway.Json
