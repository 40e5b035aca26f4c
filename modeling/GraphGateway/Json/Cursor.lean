import GraphGateway.Json.Fault

/-!
# Places in a JSON text

A `Cursor` is a place in a text that is being read: the octets still to
come, and how many came before. A fault is reported either at the cursor
or just behind the octet that the cursor stands before.
-/

namespace GraphGateway.Json

/-- **A place in a text.** -/
structure Cursor where
  /-- The number of octets before the place. -/
  offset : Nat
  /-- The octets after it. -/
  rest : List UInt8

namespace Cursor

/-- The start of a text. -/
def start (text : List UInt8) : Cursor := ⟨0, text⟩

/-- The place behind the next octet, or the same place at the end. -/
def step (c : Cursor) : Cursor :=
  match c.rest with
  | [] => c
  | _ :: rest => ⟨c.offset + 1, rest⟩

/-- The next octet. -/
def peek? (c : Cursor) : Option UInt8 := c.rest.head?

/-- The fault of a cause at the place. -/
def fault (c : Cursor) (cause : Cause) : Fault := ⟨cause, c.offset⟩

/-- The fault of a cause that the next octet shows. -/
def faultAhead (c : Cursor) (cause : Cause) : Fault := ⟨cause, c.step.offset⟩

/-- Whether an octet is a blank between the tokens. -/
def isBlankOctet (b : UInt8) : Bool := b == 0x20 || b == 0x09 || b == 0x0A || b == 0x0D

/-- Skips blanks in `rest`, of which `offset` octets came before. -/
def skipFrom (offset : Nat) : List UInt8 → Cursor
  | [] => ⟨offset, []⟩
  | b :: rest => if isBlankOctet b then skipFrom (offset + 1) rest else ⟨offset, b :: rest⟩

/-- The place of the next token. -/
def skipBlanks (c : Cursor) : Cursor := skipFrom c.offset c.rest

end Cursor

end GraphGateway.Json
