import GraphGateway.Text.Hidden

/-!
# Quoted text

Messages show a foreign text between double quotes and a foreign
character between single quotes, escaped so that its extent and its
characters can be seen: the quote that delimits it and the backslash
after a backslash, the common controls by a letter, and every other
hidden character by its code in braces.
-/

namespace GraphGateway.Text

/-- The digits of a code in base sixteen, in lower case. -/
def hexDigits (n : Nat) : List Char := Nat.toDigits 16 n

/-- One character of a text quoted with `quote`. -/
def quoteChar (quote c : Char) : List Char :=
  if c == quote || c == '\\' then ['\\', c]
  else
    match c with
    | '\x00' => ['\\', '0']
    | '\t' => ['\\', 't']
    | '\n' => ['\\', 'n']
    | '\r' => ['\\', 'r']
    | _ => if isHidden c then ['\\', 'u', '\x7b'] ++ hexDigits c.toNat ++ ['\x7d'] else [c]

/-- **A text between double quotes.** -/
def quoted (s : String) : String :=
  String.ofList ('"' :: s.toList.flatMap (quoteChar '"') ++ ['"'])

/-- **A character between single quotes.** -/
def quotedChar (c : Char) : String := String.ofList ('\'' :: quoteChar '\'' c ++ ['\''])

end GraphGateway.Text
