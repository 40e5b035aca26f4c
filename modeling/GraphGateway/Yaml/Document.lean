import GraphGateway.Yaml.Event

/-!
# YAML documents

A text may hold several documents. `Document.first` reads the first, and
notes whether another follows. Its aliases are resolved: each refers to the
part that begins the node it stands for.

A fault does not undo what was read before it. The document then has the
parts up to the fault, and whoever reads it comes to the fault only behind
them.
-/

namespace GraphGateway.Yaml

/-- **A document**, or as much of it as could be read. -/
structure Document where
  /-- Its parts; an alias holds the number of its anchor. -/
  parts : List (Part Nat)
  /-- The index of the part that each anchor's number stands for, the
  latest first. -/
  anchors : List (Nat × Nat)
  /-- The fault behind the parts. -/
  fault : Option Fault
  /-- Whether another document follows, or something that is none. -/
  isFollowed : Bool

namespace Document

/-! ## Directives -/

/-- The handles that need no directive. -/
def commonHandles : List (String × List UInt8) :=
  [("!", Text.Utf8.encode "!"), ("!!", Text.Utf8.encode "tag:yaml.org,2002:")]

/-- Reads the directives before a document; `fuel` is more than the number
of tokens left. -/
def readDirectives : Nat → Bool → Source → Except Fault Source
  | 0, _, s => .ok s
  | fuel + 1, hasVersion, s => do
    let t ← s.peek
    let fault problem := Fault.malformed problem t.start none
    match t.token with
    | .version major minor =>
      if hasVersion then throw (fault .secondVersion)
      if major != 1 || (minor != 1 && minor != 2) then throw (fault .unknownVersion)
      readDirectives fuel true s.skip
    | .tagMeaning handle address =>
      if (s.handles.lookup handle).isSome then throw (fault .secondHandle)
      readDirectives fuel hasVersion { s.skip with handles := s.handles ++ [(handle, address)] }
    | _ => return { s with handles := s.handles ++ commonHandles }

/-- Reads the start of the first document: its root, unless there is no
document. -/
def readStart (stream : TokenStream) : Except Fault (Option (Goal × Source)) := do
  let s : Source := ⟨stream, []⟩
  let t ← s.peek
  match t.token with
  | .streamEnd => return none
  | .version _ _ | .tagMeaning _ _ | .documentStart =>
    let s ← readDirectives (stream.tokens.length + 1) false s
    let t ← s.peek
    if t.token == .documentStart then return some (.root, s.skip)
    else throw (.malformed .documentStartExpected t.start none)
  | _ => return some (.bareRoot, { s with handles := commonHandles })

/-! ## Aliases -/

/-- The parts of a walk with their aliases resolved. -/
structure Resolved where
  /-- The names that were given so far, and the number of each. -/
  names : List (String × Nat)
  /-- The parts that the numbers stand for. -/
  anchors : List (Nat × Nat)
  /-- The parts so far, the last first. -/
  parts : List (Part Nat)
  /-- The fault of an alias for a name that was not given. -/
  fault : Option Fault

/-- The number of names that were given: names that are given again count
once. -/
def Resolved.count (r : Resolved) : Nat := ((r.names.map (·.1)).eraseDups).length

/-- Gives a name to the next part. -/
def Resolved.give (r : Resolved) : Option String → Resolved
  | none => r
  | some name =>
    let number := r.count
    { r with names := (name, number) :: r.names, anchors := (number, r.parts.length) :: r.anchors }

/-- Adds a part. -/
def Resolved.add (r : Resolved) (p : Part String) : Resolved :=
  let put (event : Event Nat) : Resolved :=
    let named := r.give p.anchor
    { named with parts := ⟨event, p.place, p.anchor⟩ :: r.parts }
  if r.fault.isSome then r
  else
    match p.event with
    | .reference name =>
      match r.names.lookup name with
      | some number => put (.reference number)
      | none => { r with fault := some (.unknownAnchor p.place) }
    | .scalar s => put (.scalar s)
    | .sequenceStart tag => put (.sequenceStart tag)
    | .sequenceEnd => put .sequenceEnd
    | .mappingStart tag => put (.mappingStart tag)
    | .mappingEnd => put .mappingEnd

/-- Resolves the aliases of parts, up to one that cannot be. -/
def resolve (parts : List (Part String)) : Resolved := parts.foldl Resolved.add ⟨[], [], [], none⟩

/-! ## Documents -/

/-- Skips the lines behind a document; `fuel` is more than the number of
tokens left. -/
def skipEnds : Nat → Source → Source
  | 0, s => s
  | fuel + 1, s =>
    match s.peek with
    | .ok ⟨.documentEnd, _, _⟩ => skipEnds fuel s.skip
    | _ => s

/-- Whether anything follows the end of a document. -/
def hasMore (s : Source) : Bool :=
  match (skipEnds (s.stream.tokens.length + 1) s).peek with
  | .ok ⟨.streamEnd, _, _⟩ => false
  | _ => true

/-- The first document of a text that has tokens. -/
def ofStart (goal : Goal) (s : Source) : Document :=
  let walk := Walk.from (16 * (s.stream.tokens.length + 1)) [goal] s
  let r := resolve walk.parts
  let whole (fault : Option Fault) (isFollowed : Bool) : Document :=
    { parts := r.parts.reverse, anchors := r.anchors, fault, isFollowed }
  match r.fault, walk.ending.bind fun s => s.peek.map fun _ => s with
  | some fault, _ => whole (some fault) true
  | none, .error fault => whole (some fault) true
  | none, .ok s => whole none (hasMore s)

/-- **The first document of a text**; none if the text holds no
document. -/
def first (text : String) : Option Document :=
  let stream := TokenStream.ofText text.toList
  match readStart stream with
  | .ok none => none
  | .ok (some (goal, s)) => some (ofStart goal s)
  | .error fault => some ⟨[], [], some fault, true⟩

/-- **The part that a part stands for**: for an alias, the part that
begins its node. -/
def target (d : Document) (p : Part Nat) : Part Nat :=
  match p.event with
  | .reference number => ((d.anchors.lookup number).bind fun index => d.parts[index]?).getD p
  | _ => p

end Document

end GraphGateway.Yaml
