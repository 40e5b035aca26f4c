import GraphGateway.Yaml.TokenStream

/-!
# The events of a document

A document is a tree of nodes. Its tokens are read as the **events** of a
walk through the tree: a scalar, an alias, and the start and the end of
every sequence and mapping. Nodes that are left out, such as the value of
a key without a value, are empty plain scalars.

What has been opened and is not yet closed is a list of **goals**, the
innermost first; `Goal.step` takes one goal, reads the tokens of one event,
and says what is to be read before the goals that are left.
-/

namespace GraphGateway.Yaml

/-- A scalar as it is written. -/
structure Scalar where
  /-- Its tag, as octets. -/
  tag : Option (List UInt8)
  /-- Its text. -/
  text : String
  /-- How it is written. -/
  style : Style
  deriving DecidableEq, Repr

/-- **An event**; `ref` is what an alias refers by. -/
inductive Event (ref : Type) where
  /-- A node that is written elsewhere. -/
  | reference (target : ref)
  /-- A scalar. -/
  | scalar (s : Scalar)
  /-- The start of a sequence, with its tag. -/
  | sequenceStart (tag : Option (List UInt8))
  /-- The end of a sequence. -/
  | sequenceEnd
  /-- The start of a mapping, with its tag. -/
  | mappingStart (tag : Option (List UInt8))
  /-- The end of a mapping. -/
  | mappingEnd
  deriving DecidableEq, Repr

/-- **An event at its place**, with the name that its node is given. -/
structure Part (ref : Type) where
  /-- The event. -/
  event : Event ref
  /-- The place where it starts. -/
  place : Place
  /-- The name of its node, if it has one. -/
  anchor : Option String := none
  deriving DecidableEq, Repr

/-- **What is to be read.** A goal that knows where its collection opened
shows that place in its faults. -/
inductive Goal where
  /-- The node of a document. -/
  | root
  /-- The node of a document that no line starts. -/
  | bareRoot
  /-- An item of an indented sequence, or its end. -/
  | blockItem (opened : Place)
  /-- An item of a sequence that is indented like its key, or its end. -/
  | indentlessItem
  /-- A key of an indented mapping, or its end. -/
  | blockKey (opened : Place)
  /-- The value of a key of an indented mapping. -/
  | blockValue (opened : Place)
  /-- An item in brackets, or their end. -/
  | flowItem (opened : Place) (first : Bool)
  /-- The key of a mapping of one entry, which stands as an item in
  brackets. -/
  | pairKey
  /-- The value of such a mapping. -/
  | pairValue
  /-- The end of such a mapping. -/
  | pairEnd
  /-- A key in braces, or their end. -/
  | flowKey (opened : Place) (first : Bool)
  /-- The value of a key in braces. -/
  | flowValue
  /-- The value of a node in braces that is no key. -/
  | flowNoValue
  deriving DecidableEq, Repr

/-- The tokens that are left, and what the handles of tags stand for. -/
structure Source where
  /-- The tokens. -/
  stream : TokenStream
  /-- The handles. -/
  handles : List (String × List UInt8)

namespace Source

/-- The next token. -/
def peek (s : Source) : Except Fault Placed :=
  match s.stream.tokens, s.stream.ending with
  | t :: _, _ => .ok t
  | [], .ok place => .ok ⟨.streamEnd, place, place⟩
  | [], .error fault => .error fault

/-- The tokens behind the next. -/
def skip (s : Source) : Source :=
  { s with stream := { s.stream with tokens := s.stream.tokens.tail } }

/-- The tag that a handle and the rest of a tag stand for. -/
def tag? (s : Source) (handle : String) (rest : List UInt8) : Option (List UInt8) :=
  if handle.isEmpty then some rest else (s.handles.lookup handle).map (· ++ rest)

end Source

/-- What is read for one goal: an event, what is to be read next, and what
is left. -/
abbrev Reading := Except Fault (Part String × List Goal × Source)

/-! ## Nodes -/

/-- The name and the tag before a node. -/
structure Properties where
  /-- The name. -/
  anchor : Option String
  /-- The tag as it is written, and its place. -/
  tag : Option (String × List UInt8 × Place)
  /-- The place of the first of the two, or of the node. -/
  start : Place

/-- Reads the name and the tag before a node, in either order. -/
def readProperties (s : Source) : Except Fault (Properties × Source) := do
  let t ← s.peek
  match t.token with
  | .anchor name =>
    let next ← s.skip.peek
    match next.token with
    | .tag handle rest =>
      return (⟨some name, some (handle, rest, next.start), t.start⟩, s.skip.skip)
    | _ => return (⟨some name, none, t.start⟩, s.skip)
  | .tag handle rest =>
    let next ← s.skip.peek
    match next.token with
    | .anchor name => return (⟨some name, some (handle, rest, t.start), t.start⟩, s.skip.skip)
    | _ => return (⟨none, some (handle, rest, t.start), t.start⟩, s.skip)
  | _ => return (⟨none, none, t.start⟩, s)

/-- The tag that properties stand for. -/
def Properties.resolve (p : Properties) (s : Source) : Except Fault (Option (List UInt8)) :=
  match p.tag with
  | none => .ok none
  | some (handle, rest, place) =>
    match s.tag? handle rest with
    | some tag => .ok (some tag)
    | none => .error (.during .node p.start .unknownHandle place)

/-- An empty scalar in the place of a node that is left out. -/
def emptyNode (place : Place) : Part String := { event := .scalar ⟨none, "", .plain⟩, place }

/-- Reads a node that is no alias. Outside brackets, `isBlock`, it may be
indented, and where it may be `indentless` its items may stand in the
column of its key. -/
def readTagged (isBlock indentless : Bool) (s : Source) : Reading := do
  let (p, s) ← readProperties s
  let tag ← p.resolve s
  let t ← s.peek
  let part (event : Event String) : Part String := ⟨event, p.start, p.anchor⟩
  match t.token with
  | .scalar text style =>
    let tag := if tag == some (Text.Utf8.encode "!") then none else tag
    return (part (.scalar ⟨tag, text, style⟩), [], s.skip)
  | .flowSequenceStart => return (part (.sequenceStart tag), [.flowItem t.start true], s.skip)
  | .flowMappingStart => return (part (.mappingStart tag), [.flowKey t.start true], s.skip)
  | .blockEntry =>
    if indentless then return (part (.sequenceStart tag), [.indentlessItem], s)
    else missing p tag t s
  | .blockSequenceStart =>
    if isBlock then return (part (.sequenceStart tag), [.blockItem t.start], s.skip)
    else missing p tag t s
  | .blockMappingStart =>
    if isBlock then return (part (.mappingStart tag), [.blockKey t.start], s.skip)
    else missing p tag t s
  | _ => missing p tag t s
where
  /-- A node with properties alone is empty, and one without is no node. -/
  missing (p : Properties) (tag : Option (List UInt8)) (t : Placed) (s : Source) : Reading :=
    if p.anchor.isSome || tag.isSome then
      .ok (⟨.scalar ⟨tag, "", .plain⟩, p.start, p.anchor⟩, [], s)
    else
      .error (.during (if isBlock then .blockNode else .flowNode) p.start .nodeExpected t.start)

/-- **Reads the first event of a node.** -/
def readNode (isBlock indentless : Bool) (s : Source) : Reading := do
  let t ← s.peek
  match t.token with
  | .reference name => return ({ event := .reference name, place := t.start }, [], s.skip)
  | _ => readTagged isBlock indentless s

/-- Reads a node, and `goal` after it. -/
def nodeThen (isBlock indentless : Bool) (goal : Goal) (s : Source) : Reading := do
  let (part, goals, s) ← readNode isBlock indentless s
  return (part, goals ++ [goal], s)

/-! ## Goals -/

namespace Goal

/-- Reads an item of an indented sequence, or its end. -/
def readBlockItem (opened : Place) (s : Source) : Reading := do
  let t ← s.peek
  match t.token with
  | .blockEntry =>
    let next ← s.skip.peek
    if next.token matches .blockEntry | .blockEnd then
      return (emptyNode t.stop, [.blockItem opened], s.skip)
    else nodeThen true false (.blockItem opened) s.skip
  | .blockEnd => return ({ event := .sequenceEnd, place := t.start }, [], s.skip)
  | _ => throw (.during .blockSequence opened .itemExpected t.start)

/-- Reads an item of a sequence that is indented like its key, or its
end. -/
def readIndentlessItem (s : Source) : Reading := do
  let t ← s.peek
  match t.token with
  | .blockEntry =>
    let next ← s.skip.peek
    if next.token matches .blockEntry | .key | .value | .blockEnd then
      return (emptyNode t.stop, [.indentlessItem], s.skip)
    else nodeThen true false .indentlessItem s.skip
  | _ => return ({ event := .sequenceEnd, place := t.start }, [], s)

/-- Reads a key of an indented mapping, or its end. -/
def readBlockKey (opened : Place) (s : Source) : Reading := do
  let t ← s.peek
  match t.token with
  | .key =>
    let next ← s.skip.peek
    if next.token matches .key | .value | .blockEnd then
      return (emptyNode t.stop, [.blockValue opened], s.skip)
    else nodeThen true true (.blockValue opened) s.skip
  | .blockEnd => return ({ event := .mappingEnd, place := t.start }, [], s.skip)
  | _ => throw (.during .blockMapping opened .keyExpected t.start)

/-- Reads the value of a key of an indented mapping. -/
def readBlockValue (opened : Place) (s : Source) : Reading := do
  let t ← s.peek
  match t.token with
  | .value =>
    let next ← s.skip.peek
    if next.token matches .key | .value | .blockEnd then
      return (emptyNode t.stop, [.blockKey opened], s.skip)
    else nodeThen true true (.blockKey opened) s.skip
  | _ => return (emptyNode t.start, [.blockKey opened], s)

/-- Skips the comma before an entry in brackets that is not the first. -/
def skipComma (opened : Place) (first : Bool) (activity : Activity) (problem : Problem)
    (s : Source) : Except Fault Source := do
  let t ← s.peek
  if first then return s
  else if t.token == .flowEntry then return s.skip
  else throw (.during activity opened problem t.start)

/-- Reads an item in brackets, or their end. -/
def readFlowItem (opened : Place) (first : Bool) (s : Source) : Reading := do
  let ending (t : Placed) (s : Source) : Reading :=
    .ok ({ event := .sequenceEnd, place := t.start }, [], s.skip)
  let t ← s.peek
  if t.token == .flowSequenceEnd then ending t s
  else
    let s ← skipComma opened first .flowSequence .sequenceCommaOrEndExpected s
    let t ← s.peek
    match t.token with
    | .key =>
      return ({ event := .mappingStart none, place := t.start }, [.pairKey, .flowItem opened false],
        s.skip)
    | .flowSequenceEnd => ending t s
    | _ => nodeThen false false (.flowItem opened false) s

/-- Reads the key of a mapping of one entry in brackets. -/
def readPairKey (s : Source) : Reading := do
  let t ← s.peek
  if t.token matches .value | .flowEntry | .flowSequenceEnd then
    return (emptyNode t.stop, [.pairValue], s.skip)
  else nodeThen false false .pairValue s

/-- Reads the value of a mapping of one entry in brackets. -/
def readPairValue (s : Source) : Reading := do
  let t ← s.peek
  if t.token == .value then
    let next ← s.skip.peek
    if next.token matches .flowEntry | .flowSequenceEnd then
      return (emptyNode next.start, [.pairEnd], s.skip)
    else nodeThen false false .pairEnd s.skip
  else return (emptyNode t.start, [.pairEnd], s)

/-- Reads a key in braces, or their end. -/
def readFlowKey (opened : Place) (first : Bool) (s : Source) : Reading := do
  let ending (t : Placed) (s : Source) : Reading :=
    .ok ({ event := .mappingEnd, place := t.start }, [], s.skip)
  let t ← s.peek
  if t.token == .flowMappingEnd then ending t s
  else
    let s ← skipComma opened first .flowMapping .mappingCommaOrEndExpected s
    let t ← s.peek
    match t.token with
    | .key =>
      let next ← s.skip.peek
      if next.token matches .value | .flowEntry | .flowMappingEnd then
        return (emptyNode next.start, [.flowValue, .flowKey opened false], s.skip)
      else
        let (part, goals, s) ← readNode false false s.skip
        return (part, goals ++ [.flowValue, .flowKey opened false], s)
    | .flowMappingEnd => ending t s
    | _ =>
      let (part, goals, s) ← readNode false false s
      return (part, goals ++ [.flowNoValue, .flowKey opened false], s)

/-- Reads the value of a key in braces. -/
def readFlowValue (s : Source) : Reading := do
  let t ← s.peek
  if t.token == .value then
    let next ← s.skip.peek
    if next.token matches .flowEntry | .flowMappingEnd then
      return (emptyNode next.start, [], s.skip)
    else readNode false false s.skip
  else return (emptyNode t.start, [], s)

/-- **Reads one event for a goal.** -/
def step (s : Source) : Goal → Reading
  | root => do
    let t ← s.peek
    let isEmpty := t.token matches
      .version _ _ | .tagMeaning _ _ | .documentStart | .documentEnd | .streamEnd
    if isEmpty then
      return (emptyNode t.start, [], s)
    else readNode true false s
  | bareRoot => readNode true false s
  | blockItem opened => readBlockItem opened s
  | indentlessItem => readIndentlessItem s
  | blockKey opened => readBlockKey opened s
  | blockValue opened => readBlockValue opened s
  | flowItem opened first => readFlowItem opened first s
  | pairKey => readPairKey s
  | pairValue => readPairValue s
  | pairEnd => do return ({ event := .mappingEnd, place := (← s.peek).start }, [], s)
  | flowKey opened first => readFlowKey opened first s
  | flowValue => readFlowValue s
  | flowNoValue => do return (emptyNode (← s.peek).start, [], s)

end Goal

/-- **The events of a document**: those read, and what is left behind it or
the fault that ended it. -/
structure Walk where
  /-- The events. -/
  parts : List (Part String)
  /-- What is left, or the fault. -/
  ending : Except Fault Source

/-- Reads events until no goal is left; `fuel` is more than four times the
number of tokens left. -/
def Walk.from (fuel : Nat) (goals : List Goal) (s : Source) : Walk :=
  match fuel, goals with
  | 0, _ => ⟨[], .ok s⟩
  | _, [] => ⟨[], .ok s⟩
  | fuel + 1, goal :: rest =>
    match goal.step s with
    | .error fault => ⟨[], .error fault⟩
    | .ok (part, goals, s) =>
      let walk := Walk.from fuel (goals ++ rest) s
      { walk with parts := part :: walk.parts }

end GraphGateway.Yaml
