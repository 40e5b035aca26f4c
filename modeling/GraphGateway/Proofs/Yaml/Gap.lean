import GraphGateway.Yaml.Printer

/-!
# Characters, places and gaps of one line

What is written here is made of printable ASCII characters
(`IsPrintableAscii`), and between two words of a line stand spaces alone. Such
a gap is read as the spaces that it is (`Gap.read_spaces`), and the end of the
line as a gap to the next one (`Gap.read_newline`), as long as something solid
follows: neither a blank nor a break.
-/

namespace GraphGateway.Yaml

/-! ## Characters and places -/

/-- **A printable character of ASCII.** -/
def IsPrintableAscii (c : Char) : Prop := 0x20 ≤ c.toNat ∧ c.toNat ≤ 0x7E

namespace IsPrintableAscii

variable {c : Char}

/-- No other character is printable. -/
theorem ne (h : IsPrintableAscii c) {d : Char} (hd : d.toNat < 0x20 ∨ 0x7E < d.toNat) :
    c ≠ d := by
  rintro rfl
  obtain ⟨hlow, hhigh⟩ := h
  omega

/-- None of the printable characters ends a line. -/
theorem isBreak_eq (h : IsPrintableAscii c) : isBreak c = false := by
  simp [isBreak, h.ne (d := '\n') (by decide), h.ne (d := '\r') (by decide),
    h.ne (d := '\u0085') (by decide), h.ne (d := '\u2028') (by decide),
    h.ne (d := '\u2029') (by decide)]

/-- Of the printable characters the space alone is a blank. -/
theorem isBlank_eq (h : IsPrintableAscii c) : isBlank c = (c == ' ') := by
  simp [isBlank, h.ne (d := '\t') (by decide)]

/-- A printable character is written as itself. -/
theorem isPrintable (h : IsPrintableAscii c) : Printer.isPrintable c = true := by
  obtain ⟨hlow, hhigh⟩ := h
  simp [Printer.isPrintable, hlow, hhigh]

end IsPrintableAscii

/-- The place behind `n` characters that end no line. -/
def Place.forward (p : Place) (n : Nat) : Place := ⟨p.index + n, p.line, p.column + n⟩

namespace Place

@[simp] theorem forward_zero (p : Place) : p.forward 0 = p := rfl

@[simp] theorem forward_column (p : Place) (n : Nat) : (p.forward n).column = p.column + n := rfl

@[simp] theorem next_forward (p : Place) (n : Nat) : p.next.forward n = p.forward (n + 1) := by
  simp [next, forward, Nat.add_comm 1, Nat.add_assoc]

@[simp] theorem forward_forward (p : Place) (m n : Nat) :
    (p.forward m).forward n = p.forward (m + n) := by
  simp [forward, Nat.add_assoc]

end Place

/-- A cursor that stands somewhere on a line is not before a mark between
documents. -/
theorem Cursor.atDocumentMark_of_column_pos {c : Cursor} (h : 0 < c.place.column) :
    c.atDocumentMark = false := by
  simp [Cursor.atDocumentMark, Cursor.atMark, Nat.ne_of_gt h]

/-! ## Gaps -/

/-- Whether neither a blank nor a break begins a text. -/
def BeginsSolid (text : List Char) : Prop :=
  ∀ c ∈ text.head?, isBlank c = false ∧ isBreak c = false

namespace Gap

/-- A gap ends where something solid begins. -/
theorem readFrom_solid {text : List Char} (h : BeginsSolid text) (indent : Nat) (gap : Gap)
    (p : Place) : readFrom indent gap p text = .ok (gap, ⟨text, p⟩) := by
  cases text with
  | nil => rfl
  | cons c rest =>
    obtain ⟨hblank, hbreak⟩ := h c rfl
    have hreturn : c ≠ '\r' := by
      rintro rfl
      cases hbreak
    rw [readFrom]
    · simp [hblank, hbreak]
    · rintro _ rfl
      exact absurd rfl hreturn

/-- Spaces are taken into a gap. -/
theorem readFrom_spaces (indent n : Nat) (cs : List Char) (p : Place) (text : List Char) :
    readFrom indent (.blanks cs) p (List.replicate n ' ' ++ text)
      = readFrom indent (.blanks (cs ++ List.replicate n ' ')) (p.forward n) text := by
  induction n generalizing cs p with
  | zero => simp
  | succ n ih =>
    show readFrom indent (.blanks (cs ++ [' '])) p.next (List.replicate n ' ' ++ text) = _
    rw [ih, Place.next_forward, List.append_assoc]
    rfl

/-- **Spaces before something solid are a gap.** -/
theorem read_spaces {text : List Char} (h : BeginsSolid text) (indent n : Nat) (p : Place) :
    read indent .none ⟨List.replicate n ' ' ++ text, p⟩
      = .ok (.blanks (List.replicate n ' '), ⟨text, p.forward n⟩) := by
  show readFrom indent (.blanks []) p _ = _
  rw [readFrom_spaces, readFrom_solid h]
  rfl

/-- **The end of a line before something solid is a gap** over two lines. -/
theorem read_newline {text : List Char} (h : BeginsSolid text) (indent : Nat) (p : Place) :
    read indent .none ⟨'\n' :: text, p⟩
      = .ok (.lines ['\n'] [], ⟨text, p.nextLine 1⟩) :=
  readFrom_solid h indent _ _

end Gap

end GraphGateway.Yaml
