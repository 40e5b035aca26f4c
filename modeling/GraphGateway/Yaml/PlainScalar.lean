import GraphGateway.Yaml.Token

/-!
# Scalars without quotes

A plain scalar is a run of words. A word ends at a blank, at a break, at a
colon with a blank behind it, and in brackets at their signs; the scalar
goes on behind a gap as long as what follows is indented more than the
node around it.
-/

namespace GraphGateway.Yaml.PlainScalar

/-- Reads a word. A colon before a sign of brackets is refused inside
brackets, and its place given. -/
def wordFrom (inFlow : Bool) (place : Place) : List Char → Except Place (List Char × Cursor)
  | [] => .ok ([], ⟨[], place⟩)
  | c :: rest =>
    let beforeSign := rest.head?.any fun d => isFlowSign d || d == '?'
    if isBlank c || isBreak c then .ok ([], ⟨c :: rest, place⟩)
    else if inFlow && c == ':' && beforeSign then .error place
    else if (c == ':' && isBlankOrEnd rest.head?) || (inFlow && isFlowSign c) then
      .ok ([], ⟨c :: rest, place⟩)
    else
      match wordFrom inFlow place.next rest with
      | .ok (word, behind) => .ok (c :: word, behind)
      | .error e => .error e

/-- A plain scalar that has been read. -/
structure Result where
  /-- Its text. -/
  text : List Char
  /-- The place behind its last word. -/
  stop : Place
  /-- Whether the cursor is on a later line than its last word. -/
  onLaterLine : Bool
  /-- The place behind the gap after the last word. -/
  cursor : Cursor

/-- Reads on in a scalar of which `text` has been read up to `stop` and
`gap` follows that; `fuel` is more than the number of characters left. -/
def readFrom (inFlow : Bool) (indent : Nat) (start : Place) :
    Nat → List Char → Place → Gap → Cursor → Except Fault Result
  | 0, text, stop, gap, c => .ok ⟨text, stop, gap.spansLines, c⟩
  | fuel + 1, text, stop, gap, c =>
    if c.atDocumentMark || c.peek? == some '#' then .ok ⟨text, stop, gap.spansLines, c⟩
    else
      match wordFrom inFlow c.place c.rest with
      | .error place => .error (.during .plainScalar start .colonNotAllowed place)
      | .ok ([], _) => .ok ⟨text, stop, gap.spansLines, c⟩
      | .ok (word, behind) =>
        let text := text ++ gap.text ++ word
        match Gap.read indent .none behind with
        | .error place => .error (.during .plainScalar start .tabBeforeIndentation place)
        | .ok (.blanks [], c) => .ok ⟨text, behind.place, false, c⟩
        | .ok (gap, c) =>
          if !inFlow && c.place.column < indent then .ok ⟨text, behind.place, gap.spansLines, c⟩
          else readFrom inFlow indent start fuel text behind.place gap c

/-- **Reads a plain scalar**; its further lines have at least `indent`
blanks. -/
def read (inFlow : Bool) (indent : Nat) (c : Cursor) : Except Fault Result :=
  readFrom inFlow indent c.place (c.rest.length + 1) [] c.place .none c

end GraphGateway.Yaml.PlainScalar
