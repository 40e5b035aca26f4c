import GraphGateway.GraphQL.Report

/-!
# Rules of the grammar

A `Rule` reads a piece of a document from its tokens and knows what it
expects. Whether a rule that failed had read a token before decides what
happens next: without one, another rule may be tried at the same place;
with one, the failure is final.

A failure without a token read is a `Trace`: a report, and a `reach` that
counts the parts of sequences that were tried before the report was made.
When a sequence fails for good, the reach tells which of its parts were
tried at the place, so that the report lists what all of them expect.
-/

namespace GraphGateway.GraphQL

/-- **A failure without a token read.** -/
structure Trace where
  /-- What is known about the place. -/
  report : Report
  /-- How many parts were tried at the place. -/
  reach : Nat

/-- A trace of a single part. -/
def Trace.ofReport (report : Report) : Trace := ⟨report, 1⟩

/-- Adds an entry to the report. -/
def Trace.add (t : Trace) (c : Complaint) : Trace := { t with report := t.report.add c }

/-- **What stands in the way of reading a document.** -/
inductive Refusal where
  /-- It breaks the grammar. -/
  | report (report : Report)
  /-- The lines of a block text share an indentation that ends inside a
  character of one of them. -/
  | cutCharacter

/-- **The outcome of a rule** at a place. -/
inductive Outcome (α : Type) where
  /-- A piece was read; `moved` says whether it has a token. -/
  | ok (moved : Bool) (value : α) (rest : Tokens)
  /-- Nothing was read. -/
  | stuck (trace : Trace)
  /-- The document cannot be read. -/
  | refused (refusal : Refusal)

namespace Tokens

/-- The place of the next token, or of the end. -/
def place (ts : Tokens) : Place :=
  match ts.list with
  | [] => ts.stopPlace
  | (_, place) :: _ => place

/-- Adds the next token to a trace as unexpected, if there is one. -/
def blame (ts : Tokens) (trace : Trace) : Trace :=
  match ts.list with
  | [] => trace
  | (token, _) :: _ => trace.add (.unexpected token.shown)

/-- Adds the next token to a trace as unexpected, or the end of the
document. -/
def blameAny (ts : Tokens) (trace : Trace) : Trace :=
  match ts.list with
  | [] => trace.add NoToken.endOfInput.complaint
  | _ => ts.blame trace

end Tokens

/-- **A rule of the grammar.** -/
structure Rule (α : Type) where
  /-- Reads a piece. -/
  read : Tokens → Outcome α
  /-- Adds what the rule expects to a trace. -/
  expect : Trace → Trace
  /-- Adds what the rule's last part expects to a trace, when the rule has
  read its piece and could have read more of it. -/
  expectMore : Trace → Trace
  /-- The number of parts of the rule. -/
  parts : Nat

namespace Rule

/-- The next token, if it satisfies `p`; `what` says what is expected. -/
def token (p : Token → Bool) (what : String) : Rule Token where
  read ts :=
    match ts.list with
    | (t, place) :: rest =>
      if p t then .ok true t { ts with list := rest } else .stuck (.ofReport (.blank place))
    | [] => .stuck (.ofReport ⟨ts.stopPlace, [ts.stop.complaint]⟩)
  expect trace := trace.add (.expected what)
  expectMore trace := trace
  parts := 1

/-- A sign. -/
def sign (text : String) : Rule Token :=
  token (fun t => t.kind == .punctuator && t.text == text) text

/-- A keyword. -/
def keyword (text : String) : Rule Token :=
  token (fun t => t.kind == .name && t.text == text) text

/-- A token of a kind. -/
def ofKind (kind : TokenKind) : Rule Token := token (fun t => t.kind == kind) kind.label

/-- A name. -/
def name : Rule String :=
  let any := ofKind .name
  { any with
    read := fun ts =>
      match any.read ts with
      | .ok moved t rest => .ok moved t.text rest
      | .stuck trace => .stuck trace
      | .refused refusal => .refused refusal }

/-- The place itself, which is always there. -/
def here : Rule Place where
  read ts := .ok false ts.place ts
  expect trace := trace
  expectMore trace := trace
  parts := 1

/-- The end of the document. -/
def finish : Rule Unit where
  read ts :=
    match ts.list, ts.stop with
    | [], .endOfInput => .ok false () ts
    | _, _ => .stuck (.ofReport (.blank ts.place))
  expect trace := trace.add (.expected "end of input")
  expectMore trace := trace
  parts := 1

/-- Changes the value that a rule reads. -/
def map {α β : Type} (f : α → β) (r : Rule α) : Rule β :=
  { r with
    read := fun ts =>
      match r.read ts with
      | .ok moved value rest => .ok moved (f value) rest
      | .stuck trace => .stuck trace
      | .refused refusal => .refused refusal }

/-- Checks the value that a rule reads; a value that fails is reported at
the place where the rule started. -/
def check {α β : Type} (f : α → Place → Except Refusal β) (r : Rule α) : Rule β :=
  { r with
    read := fun ts =>
      match r.read ts with
      | .ok moved value rest =>
        match f value ts.place with
        | .ok value => .ok moved value rest
        | .error refusal => .refused refusal
      | .stuck trace => .stuck trace
      | .refused refusal => .refused refusal }

/-! ## Sequences -/

/-- **A part of a sequence**, without the value that it reads. -/
structure Part where
  /-- Adds what the part expects. -/
  expect : Trace → Trace
  /-- Adds what the part expects after its piece. -/
  expectMore : Trace → Trace
  /-- The number of parts of the part. -/
  parts : Nat

/-- A rule as a part. -/
def part {α : Type} (r : Rule α) : Part := ⟨r.expect, r.expectMore, r.parts⟩

/-- Adds what the parts of a sequence expect that was stuck in one of them,
after its first `moved` parts had read something. -/
def expectAfter (moved inner : Nat) : Nat → List Part → Trace → Trace
  | _, [], trace => trace
  | i, p :: rest, trace =>
    let trace := if i + 1 == moved then p.expectMore trace else trace
    if moved ≤ i then
      let trace := if trace.reach ≤ 1 then { trace with reach := inner } else trace
      let trace := p.expect trace
      if trace.reach ≤ 1 then trace
      else expectAfter moved inner (i + 1) rest { trace with reach := trace.reach - p.parts }
    else expectAfter moved inner (i + 1) rest { trace with reach := trace.reach - p.parts }

/-- What becomes of a sequence that is stuck behind its first part; `moved`
is the number of parts up to the last that has read a token, `tried` the
number of parts before the one that is stuck. -/
def stuckIn {α : Type} (ts : Tokens) (trace : Trace) (moved tried : Nat) (parts : List Part) :
    Outcome α :=
  let outer := { trace with reach := tried }
  if moved == 0 then .stuck outer
  else .refused (.report (expectAfter moved trace.reach 0 parts (ts.blame outer)).report)

/-- Adds what a sequence expects. -/
def expectParts : List Part → Trace → Trace
  | [], trace => trace
  | p :: rest, trace =>
    let before := trace.reach
    let trace := p.expect trace
    if trace.reach ≤ 1 then { trace with reach := trace.reach - 1 }
    else
      let trace :=
        if !rest.isEmpty && trace.reach == before then { trace with reach := trace.reach - p.parts }
        else trace
      expectParts rest trace

/-- Adds what the last part of a sequence expects after its piece. -/
def expectMoreParts (parts : List Part) (trace : Trace) : Trace :=
  match parts.getLast? with
  | some p => p.expectMore trace
  | none => trace

/-- **A sequence being read**: what was read so far, and how far. -/
structure Progress (α : Type) where
  /-- The values read. -/
  value : α
  /-- What is left of the document. -/
  rest : Tokens
  /-- The parts read. -/
  count : Nat
  /-- The number of parts up to the last that has read a token. -/
  moved : Nat
  /-- The parts of the parts read. -/
  tried : Nat

/-- The start of a sequence. -/
def Progress.start (ts : Tokens) : Progress Unit := ⟨(), ts, 0, 0, 0⟩

/-- Reads the next part of a sequence. -/
def Progress.step {α β : Type} (p : Progress α) (parts : List Part) (r : Rule β) :
    Except (Outcome Empty) (Progress (α × β)) :=
  match r.read p.rest with
  | .ok moved value rest =>
    .ok ⟨(p.value, value), rest, p.count + 1, if moved then p.count + 1 else p.moved,
      p.tried + r.parts⟩
  | .stuck trace =>
    .error (if p.count == 0 then .stuck trace else stuckIn p.rest trace p.moved (p.tried + 1) parts)
  | .refused refusal => .error (.refused refusal)

/-- The outcome of a sequence. -/
def Progress.outcome {α β : Type} (f : α → β) : Except (Outcome Empty) (Progress α) → Outcome β
  | .ok p => .ok (p.moved != 0) (f p.value) p.rest
  | .error (.stuck trace) => .stuck trace
  | .error (.refused refusal) => .refused refusal

/-- A rule made of parts. -/
def ofParts {α : Type} (parts : List Part) (read : Tokens → Outcome α) : Rule α where
  read := read
  expect := expectParts parts
  expectMore := expectMoreParts parts
  parts := parts.foldl (fun n p => n + p.parts) 0

/-- **One rule after another.** -/
def pair {α β : Type} (a : Rule α) (b : Rule β) : Rule (α × β) :=
  let parts := [a.part, b.part]
  ofParts parts fun ts => Progress.outcome (fun v => (v.1.2, v.2)) do
    let p ← (Progress.start ts).step parts a
    p.step parts b

/-- One rule after another, of which only the second has a value. -/
def thenKeep {α β : Type} (a : Rule α) (b : Rule β) : Rule β := (pair a b).map Prod.snd

/-- One rule after another, of which only the first has a value. -/
def keepThen {α β : Type} (a : Rule α) (b : Rule β) : Rule α := (pair a b).map Prod.fst

/-- Three rules, one after another. -/
def triple {α β γ : Type} (a : Rule α) (b : Rule β) (c : Rule γ) : Rule (α × β × γ) :=
  let parts := [a.part, b.part, c.part]
  ofParts parts fun ts => Progress.outcome (fun v => (v.1.1.2, v.1.2, v.2)) do
    let p ← (Progress.start ts).step parts a
    let p ← p.step parts b
    p.step parts c

/-- Four rules, one after another. -/
def quadruple {α β γ δ : Type} (a : Rule α) (b : Rule β) (c : Rule γ) (d : Rule δ) :
    Rule (α × β × γ × δ) :=
  let parts := [a.part, b.part, c.part, d.part]
  ofParts parts fun ts => Progress.outcome (fun v => (v.1.1.1.2, v.1.1.2, v.1.2, v.2)) do
    let p ← (Progress.start ts).step parts a
    let p ← p.step parts b
    let p ← p.step parts c
    p.step parts d

/-- Five rules, one after another. -/
def quintuple {α β γ δ ε : Type} (a : Rule α) (b : Rule β) (c : Rule γ) (d : Rule δ) (e : Rule ε) :
    Rule (α × β × γ × δ × ε) :=
  let parts := [a.part, b.part, c.part, d.part, e.part]
  ofParts parts fun ts =>
    Progress.outcome (fun v => (v.1.1.1.1.2, v.1.1.1.2, v.1.1.2, v.1.2, v.2)) do
      let p ← (Progress.start ts).step parts a
      let p ← p.step parts b
      let p ← p.step parts c
      let p ← p.step parts d
      p.step parts e

/-- Six rules, one after another. -/
def sextuple {α β γ δ ε ζ : Type} (a : Rule α) (b : Rule β) (c : Rule γ) (d : Rule δ) (e : Rule ε)
    (f : Rule ζ) : Rule (α × β × γ × δ × ε × ζ) :=
  let parts := [a.part, b.part, c.part, d.part, e.part, f.part]
  ofParts parts fun ts =>
    Progress.outcome (fun v => (v.1.1.1.1.1.2, v.1.1.1.1.2, v.1.1.1.2, v.1.1.2, v.1.2, v.2)) do
      let p ← (Progress.start ts).step parts a
      let p ← p.step parts b
      let p ← p.step parts c
      let p ← p.step parts d
      let p ← p.step parts e
      p.step parts f

/-! ## Choices and repetitions -/

/-- **One rule or another**, the second tried only where the first has read
no token. What a rule expects is added once for each of the two, unless
the trace has left them behind. -/
def orElse {α : Type} (a b : Rule α) : Rule α where
  read ts :=
    match a.read ts with
    | .stuck first =>
      match b.read ts with
      | .stuck second =>
        let add := fun (inner : Trace) (r : Rule α) (outer : Trace) =>
          if inner.reach == 1 then outer
          else { r.expect { outer with reach := inner.reach } with reach := 0 }
        .stuck (add second b (add first a (.ofReport (first.report.merge second.report))))
      | outcome => outcome
    | outcome => outcome
  expect trace :=
    if trace.reach == 0 then trace
    else { b.expect { a.expect { trace with reach := 1 } with reach := 1 } with reach := 0 }
  expectMore trace := trace
  parts := 1

/-- A rule, or nothing. -/
def optional {α : Type} (r : Rule α) : Rule (Option α) where
  read ts :=
    match r.read ts with
    | .ok moved value rest => .ok moved (some value) rest
    | .stuck _ => .ok false none ts
    | .refused refusal => .refused refusal
  expect := r.expect
  expectMore trace := trace
  parts := r.parts

/-- Reads as many pieces as there are, the last first; `fuel` is at least
the number of tokens. -/
def readMany {α : Type} (r : Rule α) (fuel : Nat) (moved : Bool) (values : List α) (ts : Tokens) :
    Outcome (List α) :=
  match fuel with
  | 0 => .ok moved values.reverse ts
  | fuel + 1 =>
    match r.read ts with
    | .ok step value rest => readMany r fuel (moved || step) (value :: values) rest
    | .stuck _ => .ok moved values.reverse ts
    | .refused refusal => .refused refusal

/-- **A rule any number of times.** -/
def many {α : Type} (r : Rule α) : Rule (List α) where
  read ts := readMany r (ts.list.length + 1) false [] ts
  expect := r.expect
  expectMore := r.expect
  parts := r.parts

/-- **A rule at least once.** -/
def oneOrMore {α : Type} (r : Rule α) : Rule (List α) where
  read ts :=
    match r.read ts with
    | .ok moved value rest => readMany r (rest.list.length + 1) moved [value] rest
    | .stuck trace => .stuck trace
    | .refused refusal => .refused refusal
  expect := r.expect
  expectMore := r.expect
  parts := r.parts

/-- Adds what a rule is stuck at and what it expects to its failure. -/
def explained {α : Type} (r : Rule α) (ts : Tokens) : Outcome α :=
  match r.read ts with
  | .stuck trace => .stuck (r.expect (ts.blameAny trace))
  | outcome => outcome

/-- **A rule that explains itself**, for use inside other rules: these add
nothing to what it says. -/
def named {α : Type} (read : Tokens → Outcome α) : Rule α where
  read := read
  expect trace := trace
  expectMore trace := trace
  parts := 1

end Rule

end GraphGateway.GraphQL
