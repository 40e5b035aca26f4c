import GraphGateway.Address
import GraphGateway.Files.Step
import GraphGateway.Files.View
import GraphGateway.Flow

/-!
# Programs

A command of the gateway is a program of its own: it reads files, works on
a registry that nobody else sees, asks backends, and puts files in place.
Other programs may do the same at the same time, so a `Program` is cut into
the steps that the system takes for it. Looking at a file is one step, and
so is each change of the files.

`Program.run` takes all steps of a program one after another. A `Flow`
becomes a part of a program by `Program.ofFlow`: its registry stays inside,
so only what it does with the clock and the network is left as steps.
-/

namespace GraphGateway

open Time (Instant)

/-- **An address to listen on.** -/
structure SocketAddress where
  /-- The address of the machine, or one of its addresses. -/
  host : Address
  /-- The port. -/
  port : UInt16
  deriving DecidableEq, Repr

/-- The text of an address to listen on. -/
def SocketAddress.text (a : SocketAddress) : String := a.host.text ++ ":" ++ toString a.port.toNat

/-- **An activity with a result, as the steps that the system takes for
it.** -/
inductive Program (α : Type) where
  /-- Nothing is left to do. -/
  | done (result : α)
  /-- Looks what a path leads to. -/
  | look (path : String) (next : Except FileFailure FileEntry → Program α)
  /-- Looks whether something is found at a path, without reading it. -/
  | isThere (path : String) (next : Bool → Program α)
  /-- Changes the files. -/
  | change (step : FileStep) (next : Except FileFailure Unit → Program α)
  /-- Reads the clock. -/
  | clock (next : Instant → Program α)
  /-- Sends a request, waits for some seconds at most, and goes on with what
  comes back. -/
  | send (patience : Nat) (call : Call) (next : Delivery → Program α)
  /-- Starts to listen on an address. -/
  | listen (address : SocketAddress) (next : Except ListenFailure Unit → Program α)

namespace Program

variable {α β : Type}

/-- One activity after another. -/
def bind : Program α → (α → Program β) → Program β
  | done result, f => f result
  | look path next, f => look path fun found => (next found).bind f
  | isThere path next, f => isThere path fun found => (next found).bind f
  | change step next, f => change step fun result => (next result).bind f
  | clock next, f => clock fun now => (next now).bind f
  | send patience call next, f => send patience call fun delivery => (next delivery).bind f
  | listen address next, f => listen address fun result => (next result).bind f

instance : Monad Program where
  pure := done
  bind := bind

/-- A program that can fail: it ends with an error or a result. -/
abbrev Fallible (α : Type) := Program (Except GatewayError α)

/-- One activity after another, the second only if the first succeeds. -/
def andThen (first : Fallible α) (next : α → Fallible β) : Fallible β :=
  bind first fun
    | .ok value => next value
    | .error e => done (.error e)

/-- Changes the files in steps, up to the first that fails. -/
def changeAll : List FileStep → Program (Except FileFailure Unit)
  | [] => done (.ok ())
  | step :: rest =>
    change step fun
      | .ok () => changeAll rest
      | .error e => done (.error e)

/-- **A flow as a part of a program**, on a registry that nobody else
sees; also the registry as the flow leaves it. -/
def ofFlow (patience : Nat) (r : Registry) : Flow α → Program (α × Registry)
  | .done result => done (result, r)
  | .clock next => clock fun now => ofFlow patience r (next now)
  | .atomically f next => clock fun now => ofFlow patience (f now r) (next now r)
  | .send call next => send patience call fun delivery => ofFlow patience r (next delivery)

/-! ## Runs -/

/-- **What a program runs in.** -/
structure World extends Flow.World where
  /-- Why an address cannot be listened on, unless it can. -/
  refusal : SocketAddress → Option ListenFailure

/-- **What a run changes.** -/
structure Run where
  /-- The files. -/
  disk : Disk
  /-- The requests sent, the last first. -/
  calls : List Call
  /-- How often the clock was read. -/
  ticks : Nat

/-- **Takes all steps of a program**, with nobody else acting. How long a
program would wait makes no difference: that nothing came back in time is
one of the things that the world may say. -/
def run (world : World) : Program α → Run → α × Run
  | done result, s => (result, s)
  | look path next, s => run world (next (s.disk.find path)) s
  | isThere path next, s => run world (next (s.disk.view.isThere path)) s
  | change step next, s =>
    match step.run s.disk with
    | .ok disk => run world (next (.ok ())) { s with disk }
    | .error e => run world (next (.error e)) { s with disk := step.unfinished s.disk }
  | clock next, s => run world (next (world.clock s.ticks)) { s with ticks := s.ticks + 1 }
  | send _ call next, s =>
    run world (next (world.network s.calls call)) { s with calls := call :: s.calls }
  | listen address next, s =>
    run world
      (next (match world.refusal address with
        | some failure => .error failure
        | none => .ok ())) s

/-- The second of two activities runs where the first has ended. -/
theorem run_bind (world : World) (p : Program α) (f : α → Program β) (s : Run) :
    (p.bind f).run world s = (f (p.run world s).1).run world (p.run world s).2 := by
  induction p generalizing s with
  | done result => rfl
  | look path next ih => simp only [bind, run, ih]
  | isThere path next ih => simp only [bind, run, ih]
  | change step next ih =>
    simp only [bind, run]
    split <;> simp only [ih]
  | clock next ih => simp only [bind, run, ih]
  | send patience call next ih => simp only [bind, run, ih]
  | listen address next ih => simp only [bind, run, ih]

/-- Steps that change files leave what `FileStep.runAll` leaves. -/
theorem run_changeAll (world : World) (steps : List FileStep) (s : Run) :
    (changeAll steps).run world s =
      ((FileStep.runAll s.disk steps).2, { s with disk := (FileStep.runAll s.disk steps).1 }) := by
  induction steps generalizing s with
  | nil => rfl
  | cons step rest ih =>
    simp only [changeAll, run, FileStep.runAll]
    cases step.run s.disk <;> simp [ih]

/-- A flow does in a program what it does by itself. -/
theorem run_ofFlow (world : World) (patience : Nat) (r : Registry) (flow : Flow α) (s : Run) :
    (ofFlow patience r flow).run world s =
      (let (result, ended) := Flow.run world.toWorld flow ⟨r, s.calls, s.ticks⟩
       ((result, ended.registry), { s with calls := ended.calls, ticks := ended.ticks })) := by
  induction flow generalizing r s with
  | done result => rfl
  | clock next ih => simp only [ofFlow, run, Flow.run, ih]
  | atomically f next ih => simp only [ofFlow, run, Flow.run, ih]
  | send call next ih => simp only [ofFlow, run, Flow.run, ih]

end Program

end GraphGateway
