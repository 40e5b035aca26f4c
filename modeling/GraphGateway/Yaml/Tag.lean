import GraphGateway.Text.Utf8
import GraphGateway.Number.Whole
import GraphGateway.Yaml.Token

/-!
# Tags and directives

A tag says what kind of thing a node is. It is written with a handle, which
a directive before the document gives a meaning, or without one in angle
brackets. The address in a tag is a run of octets: the characters allowed
in addresses, and any other octet by a percent sign and two digits.
-/

namespace GraphGateway.Yaml

namespace Tag

/-- A character that may stand in an address; commas and square brackets
may only in angle brackets and directives. -/
def isAddress (wide : Bool) (c : Char) : Bool :=
  isWord c || ";/?:@&=+$.%!~*'()".toList.contains c || (wide && ",[]".toList.contains c)

/-- The number of octets of the character that an octet begins. -/
def width? (b : Nat) : Option Nat :=
  if b < 0x80 then some 1
  else if 0xC0 ≤ b && b < 0xE0 then some 2
  else if 0xE0 ≤ b && b < 0xF0 then some 3
  else if 0xF0 ≤ b && b < 0xF8 then some 4
  else none

/-- Reads the octets of one character, each behind a percent sign;
`missing` is the number of octets to come, or none before the first. -/
def readEscapes (fault : Problem → Place → Fault) :
    Nat → Option Nat → List UInt8 → Cursor → Except Fault (List UInt8 × Cursor)
  | 0, _, octets, c => .ok (octets, c)
  | fuel + 1, missing, octets, c =>
    match c.rest with
    | '%' :: high :: low :: _ =>
      match Whole.digit? 16 high, Whole.digit? 16 low with
      | some h, some l =>
        let b := h * 16 + l
        let left? : Except Problem Nat := match missing with
          | none => (width? b).elim (.error .badLeadingOctet) .ok
          | some n => if 0x80 ≤ b && b < 0xC0 then .ok n else .error .badTrailingOctet
        match left? with
        | .error problem => .error (fault problem c.place)
        | .ok left =>
          let octets := octets ++ [b.toUInt8]
          if left ≤ 1 then .ok (octets, c.skipMany 3)
          else readEscapes fault fuel (some (left - 1)) octets (c.skipMany 3)
      | _, _ => .error (fault .addressEscapeExpected c.place)
    | _ => .error (fault .addressEscapeExpected c.place)

/-- Reads on in an address of which `octets` have been read; `fuel` is
more than the number of characters left. -/
def addressFrom (fault : Problem → Place → Fault) (wide : Bool) :
    Nat → List UInt8 → Cursor → Except Fault (List UInt8 × Cursor)
  | 0, octets, c => .ok (octets, c)
  | fuel + 1, octets, c =>
    match c.rest with
    | [] => .ok (octets, c)
    | ch :: _ =>
      if !isAddress wide ch then .ok (octets, c)
      else if ch == '%' then
        match readEscapes fault 4 none octets c with
        | .ok (octets, c) => addressFrom fault wide fuel octets c
        | .error e => .error e
      else addressFrom fault wide fuel (octets ++ [ch.toNat.toUInt8]) c.skip

/-- Reads an address that begins with `head`, which has to have a
character unless `mayBeEmpty`. An octet zero ends it. -/
def readAddress (fault : Problem → Place → Fault) (wide mayBeEmpty : Bool) (head : List UInt8)
    (c : Cursor) : Except Fault (List UInt8 × Cursor) := do
  let (octets, behind) ← addressFrom fault wide (c.rest.length + 1) head c
  if behind.place.index == c.place.index && !mayBeEmpty then
    throw (fault .addressExpected behind.place)
  return (octets.takeWhile (· != 0), behind)

/-- Reads a handle: a mark and letters, and the mark again if it is there. -/
def readHandle (c : Cursor) : List Char × Cursor :=
  let (letters, behind) := c.skip.takeWhile isWord
  if behind.peek? == some '!' then ('!' :: letters ++ ['!'], behind.skip)
  else ('!' :: letters, behind)

/-- Reads a tag up to its end. -/
def readParts (start : Place) (c : Cursor) : Except Fault (String × List UInt8 × Cursor) := do
  let fault := Fault.during .tagAddress start
  if c.at? 1 == some '<' then
    let (address, c) ← readAddress fault true false [] (c.skipMany 2)
    if c.peek? != some '>' then throw (.during .tag start .tagCloseExpected c.place)
    return ("", address, c.skip)
  else
    let (handle, c) := readHandle c
    if handle.length > 1 && handle.getLast? == some '!' then
      let (address, c) ← readAddress fault false false [] c
      return (String.ofList handle, address, c)
    else
      let read := Text.Utf8.encode (String.ofList (handle.drop 1))
      let (address, c) ← readAddress fault false true read c
      if address.isEmpty then return ("", Text.Utf8.encode "!", c)
      else return ("!", address, c)

/-- **Reads a tag**, at its mark. -/
def read (inFlow : Bool) (c : Cursor) : Except Fault (Token × Cursor) := do
  let start := c.place
  let (handle, rest, c) ← readParts start c
  if isBlankOrEnd c.peek? || (inFlow && c.peek? == some ',') then return (.tag handle rest, c)
  else throw (.during .tag start .tagEndExpected c.place)

end Tag

namespace Directive

/-- Reads a number of at most nine digits of a version. -/
def readNumber (start : Place) (c : Cursor) : Except Fault (Nat × Cursor) :=
  let fault := Fault.during .versionDirective start
  let (digits, behind) := c.takeWhile Char.isDigit
  if digits.length > 9 then .error (fault .versionTooLong (c.skipMany 9).place)
  else if digits.isEmpty then .error (fault .versionExpected c.place)
  else .ok (digits.foldl (fun n d => n * 10 + (d.toNat - '0'.toNat)) 0, behind)

/-- Reads the version of a directive. -/
def readVersion (start : Place) (c : Cursor) : Except Fault (Token × Cursor) := do
  let (major, c) ← readNumber start (c.skipWhile isBlank)
  if c.peek? != some '.' then
    throw (.during .versionDirective start .versionPointExpected c.place)
  let (minor, c) ← readNumber start c.skip
  return (.version major minor, c)

/-- Reads the handle of a directive and what it stands for. -/
def readMeaning (start : Place) (c : Cursor) : Except Fault (Token × Cursor) := do
  let c := c.skipWhile isBlank
  if c.peek? != some '!' then
    throw (.during .tagDirectiveHandle start .tagMarkExpected c.place)
  let (handle, c) := Tag.readHandle c
  if handle.length > 1 && handle.getLast? != some '!' then
    throw (.during .tagDirectiveHandleEnd start .tagMarkExpected c.place)
  if !(c.peek?.any isBlank) then throw (.during .tagDirective start .blankExpected c.place)
  let fault := Fault.during .tagDirectiveAddress start
  let (address, c) ← Tag.readAddress fault true false [] (c.skipWhile isBlank)
  if !isBlankOrEnd c.peek? then throw (.during .tagDirective start .addressEndExpected c.place)
  return (.tagMeaning (String.ofList handle) address, c)

/-- **Reads a directive**, at its percent sign: the token, the place
behind it, and the cursor on the next line. -/
def read (c : Cursor) : Except Fault (Token × Place × Cursor) := do
  let start := c.place
  let fault := Fault.during .directive start
  let (name, c) := c.skip.takeWhile isWord
  if name.isEmpty then throw (fault .directiveNameExpected c.place)
  if !isBlankOrEnd c.peek? then throw (fault .directiveNameEndExpected c.place)
  let (token, c) ←
    if name == "YAML".toList then readVersion start c
    else if name == "TAG".toList then readMeaning start c
    else throw (fault .unknownDirective c.place)
  let behind := (c.skipWhile isBlank).skipComment
  if isBreakOrEnd behind.peek? then return (token, c.place, behind.skipBreak)
  else throw (fault .lineEndExpected behind.place)

end Directive

end GraphGateway.Yaml
