import GraphGateway.Text.Utf8
import GraphGateway.Json.Cursor

/-!
# String literals

The octets after an opening quote are read one at a time. A literal is
read for its text, or only skipped; skipping accepts halves of surrogate
pairs and octets that are not UTF-8, because it never looks at the text.
`StringLiteral.scan` does both at once: `text` is what a reader of the
text gets, `next` what a reader that skips the literal gets.
-/

namespace GraphGateway.Json

/-- **A string literal**, read from behind its opening quote. -/
structure StringLiteral where
  /-- The text, or why it cannot be read. -/
  text : Except Fault String
  /-- The place behind the closing quote, or why the literal cannot even
  be skipped. -/
  next : Except Fault Cursor

namespace StringLiteral

/-- The value of a hexadecimal digit. -/
def hexValue? (b : UInt8) : Option Nat :=
  if 0x30 ≤ b && b ≤ 0x39 then some (b.toNat - 0x30)
  else if 0x41 ≤ b && b ≤ 0x46 then some (b.toNat - 0x37)
  else if 0x61 ≤ b && b ≤ 0x66 then some (b.toNat - 0x57)
  else none

/-- The octet that a backslash and the given octet stand for. -/
def simpleEscape? (b : UInt8) : Option UInt8 :=
  if b == 0x22 || b == 0x5C || b == 0x2F then some b
  else if b == 0x62 then some 0x08
  else if b == 0x66 then some 0x0C
  else if b == 0x6E then some 0x0A
  else if b == 0x72 then some 0x0D
  else if b == 0x74 then some 0x09
  else none

/-- **Where in a literal** the reader stands. -/
inductive State where
  /-- Between characters. -/
  | plain
  /-- Behind a backslash. -/
  | escape
  /-- Inside the four digits of a code: the digits left to read, and the
  code so far, none once a digit was bad. The first half of a surrogate
  pair is kept in `high`. -/
  | code (high : Option Nat) (left : Nat) (value : Option Nat)
  /-- Behind the first half of a surrogate pair. -/
  | pair (high : Nat)
  /-- Behind the first half of a surrogate pair and a backslash. -/
  | pairEscape (high : Nat)

/-- Whether a code is a first half of a surrogate pair. -/
def isHigh (n : Nat) : Bool := 0xD800 ≤ n && n ≤ 0xDBFF

/-- Whether a code is a second half of a surrogate pair. -/
def isLow (n : Nat) : Bool := 0xDC00 ≤ n && n ≤ 0xDFFF

/-- The octets of a character given by its code, in reverse. -/
def codeOctets (n : Nat) : List UInt8 :=
  (Text.Utf8.encode (String.singleton (Char.ofNat n))).reverse

/-- What the octets of a literal that starts at `offset` say, without
regard to escapes having been read from them. -/
def textOf (offset : Nat) (raw octets : List UInt8) : Except Fault String :=
  match Text.Utf8.decode? octets with
  | some s => .ok s
  | none => .error ⟨.badUnicode, offset + Text.Utf8.wellFormedLength raw + 1⟩

/-- The result of a literal that breaks a rule in both readings;
`trouble` is the first fault that only a reader of the text sees. -/
def stop (trouble : Option Fault) (strict loose : Fault) : StringLiteral :=
  ⟨.error (trouble.getD strict), .error loose⟩

/-- Reads on from a state. `read` are the octets of the text so far, in
reverse; `trouble` is the first fault that only a reader of the text
sees, after which the literal is skipped; `finish` closes the text. -/
def scanFrom (finish : List UInt8 → Except Fault String) (trouble : Option Fault) (state : State)
    (read : List UInt8) (offset : Nat) : List UInt8 → StringLiteral
  | [] => stop trouble ⟨.endInString, offset⟩ ⟨.endInString, offset⟩
  | b :: rest =>
    -- the reading of an octet between characters and behind a backslash
    let plain := fun (trouble : Option Fault) =>
      if b == 0x22 then
        { text := match trouble with
            | some fault => .error fault
            | none => finish read.reverse
          next := .ok ⟨offset + 1, rest⟩ }
      else if b == 0x5C then scanFrom finish trouble .escape read (offset + 1) rest
      else if b < 0x20 then stop trouble ⟨.controlCharacter, offset + 1⟩ ⟨.controlCharacter, offset⟩
      else scanFrom finish trouble .plain (b :: read) (offset + 1) rest
    let escape := fun (trouble : Option Fault) =>
      if b == 0x75 then scanFrom finish trouble (.code none 4 (some 0)) read (offset + 1) rest
      else
        match simpleEscape? b with
        | some c => scanFrom finish trouble .plain (c :: read) (offset + 1) rest
        | none => stop trouble ⟨.badEscape, offset + 1⟩ ⟨.badEscape, offset + 1⟩
    match state with
    | .plain => plain trouble
    | .escape => escape trouble
    | .code high left value =>
      let value := match value, hexValue? b with
        | some n, some d => some (n * 16 + d)
        | _, _ => none
      if left > 1 then scanFrom finish trouble (.code high (left - 1) value) read (offset + 1) rest
      else
        match value with
        | none => stop trouble ⟨.badEscape, offset + 1⟩ ⟨.badEscape, offset + 1⟩
        | some n =>
          let lone := some (trouble.getD ⟨.loneSurrogate, offset + 1⟩)
          if trouble.isSome then scanFrom finish trouble .plain read (offset + 1) rest
          else
            match high with
            | some h =>
              if isLow n then
                scanFrom finish none .plain
                  (codeOctets ((h - 0xD800) * 0x400 + (n - 0xDC00) + 0x10000) ++ read)
                  (offset + 1) rest
              else scanFrom finish lone .plain read (offset + 1) rest
            | none =>
              if isLow n then scanFrom finish lone .plain read (offset + 1) rest
              else if isHigh n then scanFrom finish none (.pair n) read (offset + 1) rest
              else scanFrom finish none .plain (codeOctets n ++ read) (offset + 1) rest
    | .pair h =>
      if b == 0x5C then scanFrom finish trouble (.pairEscape h) read (offset + 1) rest
      else plain (some ⟨.pairUnfinished, offset + 1⟩)
    | .pairEscape h =>
      if b == 0x75 then scanFrom finish trouble (.code (some h) 4 (some 0)) read (offset + 1) rest
      else escape (some ⟨.pairUnfinished, offset + 1⟩)

/-- **Reads a literal** from behind its opening quote. -/
def scan (c : Cursor) : StringLiteral :=
  scanFrom (textOf c.offset c.rest) none .plain [] c.offset c.rest

end StringLiteral

end GraphGateway.Json
