import GraphGateway.Proofs.Files.Stop
import GraphGateway.Proofs.Flow.Among
import GraphGateway.Proofs.Interleaving
import GraphGateway.Program.Basic
import Mathlib.Data.List.Forall2

/-!
# Programs that take their steps in turn

Programs share the files. `Program.Together` tells the runs in which several programs
take their steps in any order on one tree of files: a look sees the tree as the last
change has left it, and a change that the system does not refuse is made in one step. One
that it refuses may have come to any of the trees that it passes through. The clock, the
network and what refuses a change are free.

What one of them did by itself is `Program.Takes`. What a program of several parts has
done is what its parts have (`takes_bind`), and a flow in a program has only worked on the
registry that nobody else sees (`takes_ofFlow`).
-/

namespace GraphGateway.Program

open GraphGateway.Flow (Among)
open Time (Instant)

variable {α β : Type}

/-- **A step of a program**, with what it brought. -/
inductive Act where
  /-- It was looked what a path leads to, or whether it leads to anything. -/
  | looked (path : String) (seen : Disk)
  /-- The files were changed. -/
  | changed (step : FileStep) (seen left : Disk)
  /-- A change of the files was refused. -/
  | refused (step : FileStep) (e : FileFailure) (seen left : Disk)
  /-- The clock was read. -/
  | ticked (now : Instant)
  /-- A request was sent, and a delivery came back. -/
  | exchanged (call : Call) (delivery : Delivery)
  /-- It was tried to listen on an address. -/
  | listened (address : SocketAddress) (result : Except ListenFailure Unit)

/-- **A step of a program** on a tree of files, and what it leaves of both. -/
inductive Step : Program α → Disk → Act → Program α → Disk → Prop where
  /-- It is looked what a path leads to. -/
  | look {path : String} {next : Except FileFailure FileEntry → Program α} {d : Disk} :
    Step (.look path next) d (.looked path d) (next (d.find path)) d
  /-- It is looked whether something is found at a path. -/
  | isThere {path : String} {next : Bool → Program α} {d : Disk} :
    Step (.isThere path next) d (.looked path d) (next (d.view.isThere path)) d
  /-- The files are changed. -/
  | change {step : FileStep} {next : Except FileFailure Unit → Program α} {d d' : Disk}
    (hstep : step.run d = .ok d') :
    Step (.change step next) d (.changed step d d') (next (.ok ())) d'
  /-- A change of the files is refused where it has come to. -/
  | refuse {step : FileStep} {next : Except FileFailure Unit → Program α} {d d' : Disk}
    (e : FileFailure) (hpasses : step.Passes d d') :
    Step (.change step next) d (.refused step e d d') (next (.error e)) d'
  /-- The clock is read. -/
  | clock {next : Instant → Program α} {d : Disk} (now : Instant) :
    Step (.clock next) d (.ticked now) (next now) d
  /-- A request is answered. -/
  | send {patience : Nat} {call : Call} {next : Delivery → Program α} {d : Disk}
    (delivery : Delivery) :
    Step (.send patience call next) d (.exchanged call delivery) (next delivery) d
  /-- It is tried to listen. -/
  | listen {address : SocketAddress} {next : Except ListenFailure Unit → Program α} {d : Disk}
    (result : Except ListenFailure Unit) :
    Step (.listen address next) d (.listened address result) (next result) d

/-- A look sees the files and leaves them. -/
theorem Step.of_looked {p next : Program α} {d left seen : Disk} {path : String}
    (h : Step p d (.looked path seen) next left) : d = seen ∧ left = seen := by
  cases h <;> exact ⟨rfl, rfl⟩

/-- A change sees the files and leaves them changed. -/
theorem Step.of_changed {p next : Program α} {d left seen seen' : Disk} {step : FileStep}
    (h : Step p d (.changed step seen seen') next left) : d = seen ∧ left = seen' := by
  cases h
  exact ⟨rfl, rfl⟩

/-- **The runs of some programs on one tree of files.** -/
abbrev Together {ι : Type} [DecidableEq ι] {α : ι → Type} :
    (∀ i, Program (α i)) → Disk → List (ι × Act) → (∀ i, Program (α i)) → Disk → Prop :=
  Interleaved fun _ => Step

/-- **The steps of one program**, whatever the files are at each of them. -/
abbrev Takes : Program α → List Act → Program α → Prop := Taken Step

/-- Whether a step does not end a property of the files. -/
def Act.Keeps (P : Disk → Prop) : Act → Prop
  | changed _ seen left => P seen → P left
  | refused _ _ seen left => P seen → P left
  | _ => True

/-- **What no step ends holds at the end** if it holds at the start. -/
theorem Together.keeps {ι : Type} [DecidableEq ι] {α : ι → Type}
    {programs ended : ∀ i, Program (α i)} {d left : Disk} {trace : List (ι × Act)}
    (h : Together programs d trace ended left) {P : Disk → Prop}
    (hsteps : ∀ step ∈ trace, step.2.Keeps P) (hd : P d) : P left := by
  refine Interleaved.keeps h (fun i c s a c' s' hmem hstep hs => ?_) hd
  have hkeeps := hsteps _ hmem
  cases hstep with
  | change => exact hkeeps hs
  | refuse => exact hkeeps hs
  | _ => exact hs

/-- **What no step between two changes ends holds at the second** if the first has left
it so. -/
theorem Together.keeps_between {ι : Type} [DecidableEq ι] {α : ι → Type}
    {programs ended : ∀ i, Program (α i)} {d left seen seen' later later' : Disk} {i j : ι}
    {first second : FileStep} {before between behind : List (ι × Act)}
    (h : Together programs d (before ++ (i, .changed first seen seen')
      :: (between ++ (j, .changed second later later') :: behind)) ended left)
    {P : Disk → Prop} (hsteps : ∀ step ∈ between, step.2.Keeps P) (hP : P seen') : P later := by
  obtain ⟨_, mid, -, hrest⟩ := Interleaved.cut h fun _ _ _ _ => Step.of_changed
  obtain ⟨_, _, hbetween, -⟩ := Interleaved.cut hrest fun _ _ _ _ => Step.of_changed
  exact Together.keeps hbetween hsteps hP

/-! ## Parts of programs -/

variable {acts : List Act}

/-- A program with nothing left to do takes no steps. -/
theorem takes_done {value result : α} (h : Takes (.done value) acts (.done result)) :
    acts = [] ∧ value = result := by
  cases h with
  | nil => exact ⟨rfl, rfl⟩
  | cons hstep _ => cases hstep

/-- The first of two activities takes the steps, until it has nothing left to do. -/
theorem Step.of_bind {p : Program α} {f : α → Program β} {next : Program β} {d d' : Disk}
    {act : Act} (h : Step (p.bind f) d act next d') :
    (∃ value, p = .done value) ∨ ∃ mid, Step p d act mid d' ∧ next = mid.bind f := by
  cases p with
  | done value => exact .inl ⟨value, rfl⟩
  | look path next => cases h; exact .inr ⟨_, .look, rfl⟩
  | isThere path next => cases h; exact .inr ⟨_, .isThere, rfl⟩
  | change step next =>
    cases h with
    | change hstep => exact .inr ⟨_, .change hstep, rfl⟩
    | refuse e hpasses => exact .inr ⟨_, .refuse e hpasses, rfl⟩
  | clock next => cases h; exact .inr ⟨_, .clock _, rfl⟩
  | send patience call next => cases h; exact .inr ⟨_, .send _, rfl⟩
  | listen address next => cases h; exact .inr ⟨_, .listen _, rfl⟩

/-- **The steps of two activities** are steps of the first and then of the second. -/
theorem takes_bind {p : Program α} {f : α → Program β} {result : β}
    (h : Takes (p.bind f) acts (.done result)) :
    ∃ first value rest, acts = first ++ rest ∧ Takes p first (.done value)
      ∧ Takes (f value) rest (.done result) := by
  generalize hbound : p.bind f = bound, hdone : Program.done result = ended at h
  induction h generalizing p with
  | nil =>
    subst hdone
    cases p with
    | done value => exact ⟨[], value, [], rfl, .nil _, hbound ▸ .nil _⟩
    | _ => cases hbound
  | cons hstep hrest ih =>
    subst hbound
    rcases hstep.of_bind with ⟨value, rfl⟩ | ⟨mid, hfirst, hmid⟩
    · subst hdone
      exact ⟨[], value, _, rfl, .nil _, .cons hstep hrest⟩
    · obtain ⟨first, value, rest, rfl, htakes, hsecond⟩ := ih hmid.symm hdone
      exact ⟨_ :: first, value, rest, rfl, .cons hfirst htakes, hsecond⟩

/-- Two activities that succeed, the second of which needs the first to do so. -/
theorem takes_andThen_ok {first : Fallible α} {next : α → Fallible β} {result : β}
    (h : Takes (andThen first next) acts (.done (.ok result))) :
    ∃ before value rest, acts = before ++ rest ∧ Takes first before (.done (.ok value))
      ∧ Takes (next value) rest (.done (.ok result)) := by
  obtain ⟨before, value | value, rest, rfl, hfirst, hrest⟩ := takes_bind h
  · obtain ⟨-, hvalue⟩ := takes_done hrest
    cases hvalue
  · exact ⟨before, value, rest, rfl, hfirst, hrest⟩

/-- **Changes that all succeed** are made one after another. -/
theorem takes_changeAll_ok {steps : List FileStep}
    (h : Takes (changeAll steps) acts (.done (.ok ()))) :
    List.Forall₂ (fun step act => ∃ seen left, act = .changed step seen left
      ∧ step.run seen = .ok left) steps acts := by
  induction steps generalizing acts with
  | nil =>
    obtain ⟨rfl, -⟩ := takes_done h
    exact .nil
  | cons step rest ih =>
    cases h with
    | cons hstep hrest =>
      cases hstep with
      | change hchange => exact .cons ⟨_, _, rfl, hchange⟩ (ih hrest)
      | refuse e =>
        obtain ⟨-, hresult⟩ := takes_done hrest
        cases hresult

/-- Whether a step has nothing to do with the files. -/
def Act.IsOutside : Act → Prop
  | ticked _ => True
  | exchanged _ _ => True
  | _ => False

/-- **A flow in a program** works on a registry that nobody else sees, and takes no step
that has to do with the files. -/
theorem takes_ofFlow {patience : Nat} {r left : Registry} {flow : Flow α} {result : α}
    (h : Takes (ofFlow patience r flow) acts (.done (result, left))) :
    (∀ act ∈ acts, act.IsOutside)
      ∧ ∃ events, Among Eq flow r events result left
        ∧ ∀ now, Flow.Event.tick now ∈ events → Act.ticked now ∈ acts := by
  induction flow generalizing r acts with
  | done value =>
    obtain ⟨rfl, hvalue⟩ := takes_done h
    obtain ⟨rfl, rfl⟩ := Prod.mk.inj hvalue
    exact ⟨fun _ hact => absurd hact List.not_mem_nil, [], .done ..,
      fun _ hevent => absurd hevent List.not_mem_nil⟩
  | clock next ih =>
    cases h with
    | cons hstep hrest =>
      cases hstep with
      | clock now =>
        obtain ⟨hacts, events, hrun, hticks⟩ := ih now hrest
        refine ⟨List.forall_mem_cons.mpr ⟨trivial, hacts⟩, _, .clock now hrun, fun read hread => ?_⟩
        rcases List.mem_cons.mp hread with hread | hread
        · obtain rfl := Flow.Event.tick.inj hread
          exact List.mem_cons_self ..
        · exact List.mem_cons_of_mem _ (hticks read hread)
  | atomically change next ih =>
    cases h with
    | cons hstep hrest =>
      cases hstep with
      | clock now =>
        obtain ⟨hacts, events, hrun, hticks⟩ := ih now r hrest
        refine ⟨List.forall_mem_cons.mpr ⟨trivial, hacts⟩, _, .access now r rfl hrun,
          fun read hread => ?_⟩
        rcases List.mem_cons.mp hread with hread | hread
        · cases hread
        · exact List.mem_cons_of_mem _ (hticks read hread)
  | send call next ih =>
    cases h with
    | cons hstep hrest =>
      cases hstep with
      | send delivery =>
        obtain ⟨hacts, events, hrun, hticks⟩ := ih delivery hrest
        refine ⟨List.forall_mem_cons.mpr ⟨trivial, hacts⟩, _, .exchange delivery hrun,
          fun read hread => ?_⟩
        rcases List.mem_cons.mp hread with hread | hread
        · cases hread
        · exact List.mem_cons_of_mem _ (hticks read hread)

/-! ## Programs by a schedule -/

/-- **Takes one step of a program** in a world, if one is left. -/
def step? (world : World) : Program α → Run → Option (Act × Program α × Run)
  | done _, _ => none
  | look path next, s => some (.looked path s.disk, next (s.disk.find path), s)
  | isThere path next, s => some (.looked path s.disk, next (s.disk.view.isThere path), s)
  | change step next, s =>
    match step.run s.disk with
    | .ok disk => some (.changed step s.disk disk, next (.ok ()), { s with disk })
    | .error e =>
      let disk := step.unfinished s.disk
      some (.refused step e s.disk disk, next (.error e), { s with disk })
  | clock next, s =>
    let now := world.clock s.ticks
    some (.ticked now, next now, { s with ticks := s.ticks + 1 })
  | send _ call next, s =>
    let delivery := world.network s.calls call
    some (.exchanged call delivery, next delivery, { s with calls := call :: s.calls })
  | listen address next, s =>
    let result := match world.refusal address with
      | some failure => .error failure
      | none => .ok ()
    some (.listened address result, next result, s)

/-- The result of a program that has come to its end. -/
def result? : Program α → Option α
  | done result => some result
  | _ => none

/-- A program with a result has come to its end. -/
theorem eq_done_of_result? {p : Program α} {result : α} (h : p.result? = some result) :
    p = .done result := by
  cases p with
  | done value => rw [Option.some.inj h]
  | _ => cases h

/-- What is taken is a step. -/
theorem Step.of_step? {world : World} {p next : Program α} {s s' : Run} {act : Act}
    (h : p.step? world s = some (act, next, s')) : Step p s.disk act next s'.disk := by
  cases p with
  | done value => cases h
  | look path next => cases h; exact .look
  | isThere path next => cases h; exact .isThere
  | change step next =>
    rw [step?] at h
    split at h
    · next disk hstep => cases h; exact .change hstep
    · next e _ => cases h; exact .refuse e (step.passes_unfinished _)
  | clock next => cases h; exact .clock _
  | send patience call next => cases h; exact .send _
  | listen address next => cases h; exact .listen _

/-- **Programs that take their steps by a schedule** in a world. -/
def byTurns {ι : Type} [DecidableEq ι] {α : ι → Type} (world : World) (schedule : List ι)
    (programs : ∀ i, Program (α i)) (s : Run) : List (ι × Act) × (∀ i, Program (α i)) × Run :=
  turns (fun _ => step? world) schedule programs s

/-- **What programs do by a schedule is a run of theirs.** -/
theorem together_byTurns {ι : Type} [DecidableEq ι] {α : ι → Type} (world : World)
    (schedule : List ι) (programs : ∀ i, Program (α i)) (s : Run) :
    Together programs s.disk (byTurns world schedule programs s).1
      (byTurns world schedule programs s).2.1 (byTurns world schedule programs s).2.2.disk :=
  interleaved_turns (fun _ => step? world) Run.disk (fun _ _ _ _ _ _ => Step.of_step?) schedule
    programs s

/-- Whoever reads the clock by a schedule reads that of the world. -/
theorem exists_clock_of_byTurns {ι : Type} [DecidableEq ι] {α : ι → Type} {world : World}
    {schedule : List ι} {programs : ∀ i, Program (α i)} {s : Run} {i : ι} {now : Instant}
    (h : (i, .ticked now) ∈ (byTurns world schedule programs s).1) : ∃ n, now = world.clock n := by
  obtain ⟨p, s, next, s', hstep⟩ := exists_next_of_mem_turns (fun _ => step? world) h
  cases p with
  | clock next =>
    cases hstep
    exact ⟨s.ticks, rfl⟩
  | change step next =>
    rw [step?] at hstep
    split at hstep <;> cases hstep
  | _ => cases hstep

end GraphGateway.Program
