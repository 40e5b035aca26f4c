import GraphGateway.Json.Node
import GraphGateway.Keyed
import GraphGateway.Time.Rfc3339
import GraphGateway.Wire.Shape

/-!
# Reading data of a shape

`Node.part` turns a node into a `Part`: a reader that can be asked for any
shape, and the fault of skipping the node. The part of a container is made
from the parts of its items or members, so the function is a fold over the
node, and every reader below works on parts alone.

A node comes from a text or from a value that was read before, and the two
`Origin`s differ in a few rules: a text may not nest containers too
deeply, has places for faults, and lets a name stand for itself in an
object in a form of its own.
-/

namespace GraphGateway.Wire

open Json (Node Item Entry Ending Fault Cause Scalar Found)
open Time (Instant)

/-- **Where a node comes from.** -/
inductive Origin where
  /-- From a text, of which containers may be nested `depth - 1` deep from
  here on. -/
  | text (depth : Nat)
  /-- From a value. -/
  | value

/-- Containers in a text are nested at most 127 deep. -/
def Origin.document : Origin := .text 128

/-- The origin of the parts of a container that starts at a place. -/
def Origin.enter (start : Nat) : Origin → Except Fault Origin
  | text depth => if depth ≤ 1 then .error ⟨.tooDeep, start + 1⟩ else .ok (.text (depth - 1))
  | value => .ok value

/-- A reader that can be asked for any shape. -/
abbrev Reader := Origin → (s : Shape) → Except Fault s.Carrier

/-- **What can be done with a node**: look at it, or skip it. -/
structure Part where
  /-- Looks at the node. -/
  read : Reader
  /-- The fault of skipping the node. -/
  skip : Option Fault

/-- An item of an array as a part. -/
structure ItemPart where
  /-- The item. -/
  part : Part
  /-- The fault of a reader that did not want it. -/
  surplus : Fault

/-- A member of an object as a part. -/
structure MemberPart where
  /-- The key. -/
  key : Except Fault String
  /-- The place behind the key. -/
  keyStop : Nat
  /-- The place where a repeated key is reported. -/
  repeated : Nat
  /-- The value. -/
  part : Part
  /-- The fault of a reader that wants nothing behind the member. -/
  surplus : Fault

/-- The fault of a value that does not have the shape. A name is found to
be missing before anything is known about the value. -/
def mismatch (origin : Origin) (found : Found) (start stop : Nat) (s : Shape) : Fault :=
  match s, origin with
  | .choice _, .text _ => ⟨.valueExpected, start + 1⟩
  | _, _ => ⟨.wrongKind found s.expected, stop⟩

/-! ## Scalars -/

/-- The value that a name stands for. -/
def chosen (c : Choice) (name : String) (place : Nat) : Except Fault c.Carrier :=
  match c.names.lookup name with
  | some value => .ok value
  | none => .error ⟨.unknownName name (c.names.map Prod.fst), place⟩

/-- Looks at a scalar between two places. -/
def readScalar (v : Scalar) (start stop : Nat) (origin : Origin) :
    (s : Shape) → Except Fault s.Carrier
  | .nullable s =>
    match v with
    | .null => .ok none
    | _ => do
      let value ← readScalar v start stop origin s
      return some value
  | .listOrNull s =>
    match v with
    | .null => .ok []
    | _ => .error (mismatch origin (.scalar v) start stop (.listOrNull s))
  | .any => .ok (Json.ofScalar v)
  | .nothing =>
    match v with
    | .null => .ok ()
    | _ => .error (mismatch origin (.scalar v) start stop .nothing)
  | .text =>
    match v with
    | .string s => .ok s
    | _ => .error (mismatch origin (.scalar v) start stop .text)
  | .path =>
    match v with
    | .string s => .ok s
    | _ => .error (mismatch origin (.scalar v) start stop .path)
  | .timestamp =>
    match v with
    | .string s =>
      match Instant.parse s.toList with
      | .ok t => .ok t
      | .error e => .error ⟨.rejected e.message, stop⟩
    | _ => .error (mismatch origin (.scalar v) start stop .timestamp)
  | .flag =>
    match v with
    | .bool b => .ok b
    | _ => .error (mismatch origin (.scalar v) start stop .flag)
  | .whole w =>
    match v with
    | .number (.natural n) =>
      match w.ofNat? n.toNat with
      | some value => .ok value
      | none => .error ⟨.wrongValue (.scalar v) w.name, stop⟩
    | .number (.negative _) => .error ⟨.wrongValue (.scalar v) w.name, stop⟩
    | _ => .error (mismatch origin (.scalar v) start stop (.whole w))
  | .choice c =>
    match v with
    | .string s => chosen c s stop
    | _ => .error (mismatch origin (.scalar v) start stop (.choice c))
  | s => .error (mismatch origin (.scalar v) start stop s)

/-! ## Records -/

/-- A place for the value of every member. -/
abbrev Slots : List MemberLayout → Type
  | [] => Unit
  | m :: rest => Option m.shape.Carrier × Slots rest

/-- No value for any member. -/
def Slots.empty : (ms : List MemberLayout) → Slots ms
  | [] => ()
  | _ :: rest => (none, Slots.empty rest)

/-- Puts the value of a member into its place, or leaves the places alone
where no member has the key. The member must not have a value yet. -/
def Slots.put (key : String) (repeated : Fault) (part : Part) (origin : Origin) :
    (ms : List MemberLayout) → Slots ms → Except Fault (Slots ms)
  | [], slots =>
    match part.skip with
    | some fault => .error fault
    | none => .ok slots
  | m :: rest, (slot, slots) =>
    if m.key == key then
      match slot with
      | some _ => .error repeated
      | none => do
        let value ← part.read origin m.shape
        return (some value, slots)
    else do
      let slots ← Slots.put key repeated part origin rest slots
      return (slot, slots)

/-- The values of the members, each from its place or from its absence. -/
def Slots.values (stop : Nat) : (ms : List MemberLayout) → Slots ms → Except Fault (Values ms)
  | [], () => .ok ()
  | m :: rest, (slot, slots) => do
    let value ← match slot, m.absence with
      | some value, _ => pure value
      | none, .allowed value => pure value
      | none, .inObject value => pure value
      | none, .required => throw ⟨.missingMember m.key, stop⟩
    let values ← Slots.values stop rest slots
    return (value, values)

/-- Reads the members of an object into their places. -/
def readMembers (origin : Origin) (ms : List MemberLayout) (ending : Ending) :
    Slots ms → List MemberPart → Except Fault (Values ms)
  | slots, [] =>
    match ending with
    | .closed stop => Slots.values stop ms slots
    | .cut strict _ _ => .error strict
  | slots, member :: rest => do
    let key ← member.key
    let repeated : Fault := ⟨.repeatedMember key, member.repeated⟩
    let slots ← Slots.put key repeated member.part origin ms slots
    readMembers origin ms ending slots rest

/-- Reads the items of an array as the members of a record, in their
order; `count` members come before. -/
def readPositional (origin : Origin) (k : RecordKind) (length : Nat) (ending : Ending)
    (count : Nat) : (ms : List MemberLayout) → List ItemPart → Except Fault (Values ms)
  | [], [] =>
    match ending with
    | .closed _ => .ok ()
    | .cut _ _ surplus => .error surplus
  | [], item :: _ =>
    match origin with
    | .text _ => .error item.surplus
    | .value => .error ⟨.wrongLength length "fewer elements in array", 0⟩
  | m :: rest, item :: items => do
    let value ← item.part.read origin m.shape
    let values ← readPositional origin k length ending (count + 1) rest items
    return (value, values)
  | m :: rest, [] =>
    match ending, m.absence with
    | .cut strict _ _, _ => .error strict
    | .closed _, .allowed value => do
      let values ← readPositional origin k length ending (count + 1) rest []
      return (value, values)
    | .closed stop, _ =>
      let size := k.layout.length
      let elements := toString size ++ (if size == 1 then " element" else " elements")
      .error ⟨.wrongLength count ("struct " ++ k.name ++ " with " ++ elements), stop⟩

/-! ## Containers -/

/-- Reads all items of an array, up to its end. -/
def readAll (origin : Origin) (s : Shape) (ending : Ending) :
    List ItemPart → Except Fault (List s.Carrier)
  | [] =>
    match ending with
    | .closed _ => .ok []
    | .cut strict _ _ => .error strict
  | item :: rest => do
    let value ← item.part.read origin s
    let values ← readAll origin s ending rest
    return value :: values

/-- Looks at an array. -/
def readArray (start : Nat) (items : List ItemPart) (ending : Ending) (origin : Origin) :
    (s : Shape) → Except Fault s.Carrier
  | .nullable s => do
    let value ← readArray start items ending origin s
    return some value
  | .list s => do
    let inner ← origin.enter start
    readAll inner s ending items
  | .listOrNull s => do
    let inner ← origin.enter start
    readAll inner s ending items
  | .any => do
    let inner ← origin.enter start
    let values ← readAll inner .any ending items
    return Json.array values
  | .record k => do
    let inner ← origin.enter start
    let values ← readPositional inner k items.length ending 0 k.layout items
    return k.build values
  | s => .error (mismatch origin .array start start s)

/-- Reads all members of an object, up to its end; of members with one key
the last counts. -/
def readMap (origin : Origin) (s : Shape) (ending : Ending) (read : List (String × s.Carrier)) :
    List MemberPart → Except Fault (List (String × s.Carrier))
  | [] =>
    match ending with
    | .closed _ => .ok read
    | .cut strict _ _ => .error strict
  | member :: rest => do
    let key ← member.key
    let value ← member.part.read origin s
    readMap origin s ending (Keyed.insert key value read) rest

/-- Reads a name that stands in an object, as a key with `null`. -/
def readNamed (origin : Origin) (c : Choice) (members : List MemberPart) (ending : Ending)
    (nameless : Fault) : Except Fault c.Carrier :=
  let one := fun (member : MemberPart) => do
    let key ← member.key
    let value ← chosen c key member.keyStop
    member.part.read origin .nothing
    return value
  match origin, members with
  | .text _, [] => .error nameless
  | .text _, member :: rest => do
    let value ← one member
    match rest, ending with
    | [], .closed _ => return value
    | _, _ => throw member.surplus
  | .value, [member] => one member
  | .value, _ => .error ⟨.wrongValue .object "map with a single key", 0⟩

/-- Looks at an object. -/
def readObject (start : Nat) (members : List MemberPart) (ending : Ending) (nameless : Fault)
    (origin : Origin) : (s : Shape) → Except Fault s.Carrier
  | .nullable s => do
    let value ← readObject start members ending nameless origin s
    return some value
  | .any => do
    let inner ← origin.enter start
    let values ← readMap inner .any ending [] members
    return Json.object values
  | .members => do
    let inner ← origin.enter start
    readMap inner .any ending [] members
  | .map s => do
    let inner ← origin.enter start
    readMap inner s ending [] members
  | .record k => do
    let inner ← origin.enter start
    let values ← readMembers inner k.layout ending (Slots.empty k.layout) members
    return k.build values
  | .choice c => do
    let inner ← origin.enter start
    readNamed inner c members ending nameless
  | s => .error (mismatch origin .object start start s)

/-! ## Nodes -/

/-- The fault of looking at a value that cannot be looked at. -/
def faultOf (likeNull : Bool) (strict name : Fault) : Shape → Fault
  | .choice _ => name
  | .nullable s => if likeNull then strict else faultOf likeNull strict name s
  | _ => strict

/-- The fault of skipping a container: that of its first part that cannot
be skipped, or that of its end. -/
def skipContainer (parts : List Part) (ending : Ending) : Option Fault :=
  match parts.findSome? Part.skip, ending with
  | some fault, _ => some fault
  | none, .cut _ loose _ => some loose
  | none, .closed _ => none

mutual

/-- **What can be done with a node.** -/
def partOf : Node → Part
  | .scalar v start stop => { read := readScalar v start stop, skip := none }
  | .array start items ending =>
    let parts := itemParts items
    { read := readArray start parts ending, skip := skipContainer (parts.map (·.part)) ending }
  | .object start entries ending nameless =>
    let parts := memberParts entries
    { read := readObject start parts ending nameless
      skip := skipContainer (parts.map (·.part)) ending }
  | .faulty likeNull strict name loose =>
    { read := fun _ s => .error (faultOf likeNull strict name s), skip := loose }

/-- What can be done with the items of an array. -/
def itemParts : List Item → List ItemPart
  | [] => []
  | .mk value surplus :: rest => { part := partOf value, surplus } :: itemParts rest

/-- What can be done with the members of an object. -/
def memberParts : List Entry → List MemberPart
  | [] => []
  | .mk key keyStop repeated value surplus :: rest =>
    { key, keyStop, repeated, part := partOf value, surplus } :: memberParts rest

end

/-! ## Texts and values -/

/-- **Reads a text as data of a shape.** -/
def decodeText (s : Shape) (text : List UInt8) : Except Fault s.Carrier := do
  let document := Json.Document.read text
  let value ← (partOf document.root).read .document s
  match document.trailing with
  | some fault => throw fault
  | none => return value

/-- The fault that no value has. -/
def noFault : Fault := ⟨.trailingCharacters, 0⟩

mutual

/-- The node of a value. It has no places, and no faults. -/
def nodeOf : Json → Node
  | .null => .scalar .null 0 0
  | .bool b => .scalar (.bool b) 0 0
  | .number n => .scalar (.number n) 0 0
  | .string s => .scalar (.string s) 0 0
  | .array items => .array 0 (itemsOf items) (.closed 0)
  | .object members => .object 0 (entriesOf members) (.closed 0) noFault

/-- The items of an array of values. -/
def itemsOf : List Json → List Item
  | [] => []
  | item :: rest => .mk (nodeOf item) noFault :: itemsOf rest

/-- The members of an object of values. -/
def entriesOf : List (String × Json) → List Entry
  | [] => []
  | (key, value) :: rest => .mk (.ok key) 0 0 (nodeOf value) noFault :: entriesOf rest

end

/-- **Reads a value as data of a shape.** -/
def decodeValue (s : Shape) (value : Json) : Except Cause s.Carrier :=
  ((partOf (nodeOf value)).read .value s).mapError Fault.cause

end GraphGateway.Wire
