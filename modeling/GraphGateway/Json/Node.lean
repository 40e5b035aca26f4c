import GraphGateway.Json.Numeral
import GraphGateway.Json.StringLiteral

/-!
# Nodes of a JSON text

A text is read into a `Node` before anything is asked of its shape. A
node keeps places, because a value of a wrong shape is reported where it
stands; and it keeps faults, because the first of them in the order of
the text decides what is reported, and a value that is skipped is held to
fewer rules than a value that is looked at.

So reading never fails. `Document.read` gives a node for every text; what
a reader of a certain shape makes of it is decided later.
-/

namespace GraphGateway.Json

/-- **How a container ends.** -/
inductive Ending where
  /-- With its closing bracket, behind which the given place lies. -/
  | closed (stop : Nat)
  /-- With a fault: the one that a reader meets who asks for one more
  part, the one that a reader meets who skips the container, and the one
  that a reader meets who has all the parts it wants. -/
  | cut (strict loose surplus : Fault)

mutual

/-- **A value of a text**, with its places and faults. -/
inductive Node where
  /-- A scalar between two places. -/
  | scalar (value : Scalar) (start stop : Nat)
  /-- An array, starting at a place. -/
  | array (start : Nat) (items : List Item) (ending : Ending)
  /-- An object, starting at a place; `nameless` is the fault of a reader
  that wants a name as the first thing in it and does not find one. -/
  | object (start : Nat) (entries : List Entry) (ending : Ending) (nameless : Fault)
  /-- No value that can be looked at: the fault of a reader that looks at
  it, that of one that wants a name, and that of one that skips it, which
  may have none. What starts like `null` is never taken for a name by a
  reader that accepts `null`. -/
  | faulty (likeNull : Bool) (strict name : Fault) (loose : Option Fault)

/-- **An item of an array**; `surplus` is the fault of a reader that did
not want it. -/
inductive Item where
  /-- An item. -/
  | mk (value : Node) (surplus : Fault)

/-- **A member of an object.** The key is always looked at and ends at
`keyStop`; `repeated` is the place where a repeated key is reported,
`surplus` the fault of a reader that wants nothing behind the member. -/
inductive Entry where
  /-- A member. -/
  | mk (key : Except Fault String) (keyStop repeated : Nat) (value : Node) (surplus : Fault)

end

/-- A value read from a text and the place behind it, none when no reader
gets beyond it. -/
abbrev Read := Node × Option Cursor

/-- A value that no reader gets beyond, with the same fault for all that
do not want a name. -/
def unreadable (c : Cursor) (strict loose : Fault) : Read :=
  (.faulty (c.peek? == some 0x6E) strict (c.faultAhead .valueExpected) (some loose), none)

/-- Reads the remaining octets of a word; an octet that is not the word's
is reported as read. -/
def readWord (c : Cursor) : List UInt8 → Except Fault Cursor
  | [] => .ok c
  | expected :: word =>
    match c.rest with
    | [] => .error (c.fault .endInValue)
    | b :: rest =>
      if b == expected then readWord ⟨c.offset + 1, rest⟩ word
      else .error (c.faultAhead .wordExpected)

/-- Reads one of the three words. -/
def readNamed (c : Cursor) (word : String) (value : Scalar) : Read :=
  match readWord c (Text.Utf8.encode word) with
  | .ok stop => (.scalar value c.offset stop.offset, some stop)
  | .error fault => unreadable c fault fault

/-- Reads a number. -/
def readNumber (c : Cursor) : Read :=
  match Numeral.scan c with
  | .error malformed => unreadable c malformed.strict malformed.loose
  | .ok numeral =>
    match numeral.value with
    | .ok n => (.scalar (.number n) c.offset numeral.stop.offset, some numeral.stop)
    | .error fault => (.faulty false fault (c.faultAhead .valueExpected) none, some numeral.stop)

/-- Reads a string from its opening quote. -/
def readString (c : Cursor) : Read :=
  let literal := StringLiteral.scan c.step
  match literal.text, literal.next with
  | .ok s, .ok stop => (.scalar (.string s) c.offset stop.offset, some stop)
  | .error fault, .ok stop => (.faulty false fault fault none, some stop)
  | .error strict, .error loose => (.faulty false strict strict (some loose), none)
  | .ok _, .error loose => (.faulty false loose loose (some loose), none)

/-- Reads a value that is not a container, if one starts with the octet
`b` at the place. -/
def readScalar? (b : UInt8) (c : Cursor) : Option Read :=
  if b == 0x6E then some (readNamed c "null" .null)
  else if b == 0x74 then some (readNamed c "true" (.bool true))
  else if b == 0x66 then some (readNamed c "false" (.bool false))
  else if b == 0x2D || isDigit b then some (readNumber c)
  else if b == 0x22 then some (readString c)
  else none

/-- The fault of a reader that wants a name where no string starts. Of a
value of another kind it says which kind. -/
def namelessFault (c : Cursor) : Fault :=
  let wanted := "variant identifier"
  match c.peek? with
  | none => c.fault .endInValue
  | some b =>
    match readScalar? b c with
    | some (.scalar v _ stop, _) => ⟨.wrongKind (.scalar v) wanted, stop⟩
    | some (.faulty _ strict _ _, _) => strict
    | _ =>
      if b == 0x5B then c.fault (.wrongKind .array wanted)
      else if b == 0x7B then c.fault (.wrongKind .object wanted)
      else c.faultAhead .valueExpected

/-- What a reader that has all the items it wants makes of the place
behind an item. -/
def surplusItem (c : Cursor) : Fault :=
  match c.peek? with
  | none => c.fault .endInArray
  | some b =>
    if b == 0x2C then
      let next := c.step.skipBlanks
      if next.peek? == some 0x5D then next.faultAhead .trailingComma
      else next.faultAhead .trailingCharacters
    else c.faultAhead .trailingCharacters

/-- What a reader that wants nothing behind a member makes of the place
behind it. -/
def surplusMember (c : Cursor) : Fault :=
  if c.rest.isEmpty then c.fault .endInObject else c.fault .valueExpected

/-- The place where a repeated key is reported: behind the key and the
blanks after it, or behind the bracket that closes the object there. -/
def repeatedPlace (c : Cursor) : Nat :=
  if c.peek? == some 0x7D then c.step.offset else c.offset

mutual

/-- Reads a value at a place where no blank stands; `fuel` is more than twice
the number of octets. -/
def readValue (fuel : Nat) (c : Cursor) : Read :=
  match fuel with
  | 0 => unreadable c (c.fault .tooDeep) (c.fault .tooDeep)
  | fuel + 1 =>
    match c.peek? with
    | none =>
      let fault := c.fault .endInValue
      (.faulty false fault fault (some fault), none)
    | some b =>
      match readScalar? b c with
      | some read => read
      | none =>
        let first := c.step.skipBlanks
        if b == 0x5B then
          let (items, ending, stop) := readItems fuel first (first.peek? == some 0x5D) true
          (.array c.offset items ending, stop)
        else if b == 0x7B then
          let (entries, ending, stop) := readEntries fuel first true
          (.object c.offset entries ending (namelessFault first), stop)
        else unreadable c (c.faultAhead .valueExpected) (c.faultAhead .valueExpected)

/-- Reads the items of an array from the place behind an item, or behind
the opening bracket when `first`; `done` says that the array is closed
there. -/
def readItems (fuel : Nat) (c : Cursor) (done first : Bool) : List Item × Ending × Option Cursor :=
  match fuel with
  | 0 => ([], .cut (c.fault .tooDeep) (c.fault .tooDeep) (c.fault .tooDeep), none)
  | fuel + 1 =>
    let cut := fun (strict loose : Fault) =>
      (([] : List Item), Ending.cut strict loose (surplusItem c), (none : Option Cursor))
    let one := fun (place : Cursor) =>
      let (value, next) := readValue fuel place
      match next with
      | none => ([Item.mk value (surplusItem c)], Ending.closed 0, none)
      | some stop =>
        let behind := stop.skipBlanks
        let (items, ending, stop) := readItems fuel behind (behind.peek? == some 0x5D) false
        (Item.mk value (surplusItem c) :: items, ending, stop)
    if done then ([], .closed c.step.offset, some c.step)
    else
      match c.peek? with
      | none => cut (c.fault .endInArray) (c.fault .endInArray)
      | some b =>
        if first then one c
        else if b == 0x2C then
          let place := c.step.skipBlanks
          match place.peek? with
          | none => cut (place.fault .endInValue) (place.fault .endInValue)
          | some next =>
            if next == 0x5D then
              cut (place.faultAhead .trailingComma) (place.faultAhead .valueExpected)
            else one place
        else
          cut (c.faultAhead .arrayCommaOrEndExpected) (c.faultAhead .arrayCommaOrEndExpected)

/-- Reads the members of an object from the place behind a member, or
behind the opening bracket when `first`. -/
def readEntries (fuel : Nat) (c : Cursor) (first : Bool) : List Entry × Ending × Option Cursor :=
  match fuel with
  | 0 => ([], .cut (c.fault .tooDeep) (c.fault .tooDeep) (c.fault .tooDeep), none)
  | fuel + 1 =>
    let cut := fun (strict loose : Fault) =>
      (([] : List Entry), Ending.cut strict loose strict, (none : Option Cursor))
    -- a member whose key starts at the place
    let one := fun (place : Cursor) =>
      let key := StringLiteral.scan place.step
      match key.next with
      | .error loose =>
        match key.text with
        | .error strict => cut strict loose
        | .ok _ => cut loose loose
      | .ok stop =>
        let colon := stop.skipBlanks
        let entry := fun (value : Node) (behind : Cursor) =>
          Entry.mk key.text stop.offset (repeatedPlace colon) value (surplusMember behind)
        if colon.peek? == some 0x3A then
          let (value, next) := readValue fuel colon.step.skipBlanks
          match next with
          | none => ([entry value colon], Ending.closed 0, none)
          | some stop =>
            let behind := stop.skipBlanks
            let (entries, ending, stop) := readEntries fuel behind false
            (entry value behind :: entries, ending, stop)
        else
          let fault :=
            if colon.rest.isEmpty then colon.fault .endInObject
            else colon.faultAhead .colonExpected
          ([entry (.faulty false fault fault (some fault)) colon], Ending.closed 0, none)
    match c.peek? with
    | none => cut (c.fault .endInObject) (c.fault .endInObject)
    | some b =>
      if b == 0x7D then ([], .closed c.step.offset, some c.step)
      else if first then
        if b == 0x22 then one c
        else cut (c.faultAhead .keyNotString) (c.faultAhead .keyNotString)
      else if b == 0x2C then
        let place := c.step.skipBlanks
        match place.peek? with
        | none => cut (place.fault .endInValue) (place.fault .endInObject)
        | some next =>
          if next == 0x22 then one place
          else if next == 0x7D then
            cut (place.faultAhead .trailingComma) (place.faultAhead .keyNotString)
          else cut (place.faultAhead .keyNotString) (place.faultAhead .keyNotString)
      else cut (c.faultAhead .objectCommaOrEndExpected) (c.faultAhead .objectCommaOrEndExpected)

end

/-- **A text that was read**: its value, and the fault of whatever stands
behind the value. -/
structure Document where
  /-- The value. -/
  root : Node
  /-- The fault of more text behind the value. -/
  trailing : Option Fault

/-- **Reads a text.** -/
def Document.read (text : List UInt8) : Document :=
  let (root, next) := readValue (2 * text.length + 2) (Cursor.start text).skipBlanks
  let trailing := next.bind fun stop =>
    let behind := stop.skipBlanks
    if behind.rest.isEmpty then none else some (behind.faultAhead .trailingCharacters)
  { root, trailing }

end GraphGateway.Json
