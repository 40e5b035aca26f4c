import GraphGateway.Registry.Basic
import GraphGateway.Url.Basic

/-!
# Flows

What a client does with the registry and the network takes several steps,
and other clients may act between them. A `Flow` is such an activity, cut
into its steps: it reads the clock, looks at or changes the registry in
one indivisible step, or sends a request and waits for what comes back.

`Flow.run` takes all steps of a flow one after another. The steps of
several flows can also be taken in turn, since each step leaves a flow
that still has the others to do.
-/

namespace GraphGateway

open Time (Instant)

/-- **A request sent to a backend.** -/
structure Call where
  /-- Where it is sent. -/
  url : Url
  /-- What is sent: a JSON text. -/
  body : String
  deriving DecidableEq, Repr

/-- **What comes back.** -/
inductive Delivery where
  /-- Nothing: there is nobody at the address. -/
  | noAnswer
  /-- An answer with its status and body; `complete` says whether the body
  arrived to its end. -/
  | answer (status : Nat) (body : List UInt8) (complete : Bool)
  deriving DecidableEq, Repr

/-- **An activity with a result, as its steps.** -/
inductive Flow (α : Type) where
  /-- Nothing is left to do. -/
  | done (result : α)
  /-- Reads the clock. -/
  | clock (next : Instant → Flow α)
  /-- Changes the registry in one step that knows the time, and goes on
  with the time and the registry as it was before. -/
  | atomically (change : Instant → Registry → Registry) (next : Instant → Registry → Flow α)
  /-- Sends a request and goes on with what comes back. -/
  | send (call : Call) (next : Delivery → Flow α)

namespace Flow

variable {α β : Type}

/-- One activity after another. -/
def bind : Flow α → (α → Flow β) → Flow β
  | done result, f => f result
  | clock next, f => clock fun now => (next now).bind f
  | atomically change next, f => atomically change fun now r => (next now r).bind f
  | send call next, f => send call fun delivery => (next delivery).bind f

instance : Monad Flow where
  pure := done
  bind := bind

/-- Looks at the registry in one step. -/
def readRegistry (f : Registry → α) : Flow α := atomically (fun _ r => r) fun _ r => done (f r)

/-- A flow that can fail: it ends with an error or a result. -/
abbrev Fallible (α : Type) := Flow (Except GatewayError α)

/-- One activity after another, the second only if the first succeeds. -/
def andThen (first : Fallible α) (next : α → Fallible β) : Fallible β :=
  bind first fun
    | .ok value => next value
    | .error e => done (.error e)

/-- Changes the registry by an operation that can fail; a failure changes
nothing. -/
def attempt (operation : Instant → Registry → Except GatewayError (Registry × α)) : Fallible α :=
  atomically
    (fun now r =>
      match operation now r with
      | .ok (changed, _) => changed
      | .error _ => r)
    fun now r => done ((operation now r).map Prod.snd)

/-- **Whether a flow stays away from the registry**: no step of it looks at it
or changes it. -/
def IsOutside : Flow α → Prop
  | done _ => True
  | clock next => ∀ now, (next now).IsOutside
  | atomically _ _ => False
  | send _ next => ∀ delivery, (next delivery).IsOutside

/-- **What a flow runs in**: what comes back from the network, which may
depend on all requests before, and the readings of the clock. -/
structure World where
  /-- What comes back for a request, after those given, the last first. -/
  network : List Call → Call → Delivery
  /-- The reading of the clock at each of its ticks. -/
  clock : Nat → Instant

/-- **What a run changes.** -/
structure Run where
  /-- The registry. -/
  registry : Registry
  /-- The requests sent, the last first. -/
  calls : List Call
  /-- How often the clock was read. -/
  ticks : Nat

/-- **Takes all steps of a flow**, with nobody else acting. -/
def run (world : World) : Flow α → Run → α × Run
  | done result, s => (result, s)
  | clock next, s => run world (next (world.clock s.ticks)) { s with ticks := s.ticks + 1 }
  | atomically change next, s =>
    let now := world.clock s.ticks
    run world (next now s.registry)
      { s with registry := change now s.registry, ticks := s.ticks + 1 }
  | send call next, s =>
    run world (next (world.network s.calls call)) { s with calls := call :: s.calls }

end Flow

end GraphGateway
