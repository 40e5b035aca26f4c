import GraphGateway.Proofs.Flow.Among
import GraphGateway.Proofs.Interleaving

/-!
# Flows that take their steps in turn

`Flow.Among` looks at one flow and says of the others only what they make of the
registry. Here all flows are looked at: `Flow.Together` tells the runs in which
several flows take their steps in any order on one registry, each step seeing
the registry as the last one left it.

What one of them did by itself is `Flow.Takes`: a flow takes some steps, whatever
the registry was at each of them, and comes to what is left of it. A flow that came
to its end has a run among others who may do anything (`Takes.among`), so what is
known of such runs is known of each of several flows. And every flow can come to
its end (`exists_takes_done`), so that also a flow that was not taken to its end has
only done what a run begins with.

What a flow does is decided by what it sees and what comes back
(`Takes.deterministic`).
-/

namespace GraphGateway.Flow

open Time (Instant)

variable {α : Type}

/-- **A step of a flow** on a registry, and what it leaves of both. -/
inductive Step : Flow α → Registry → Event → Flow α → Registry → Prop where
  /-- The clock is read. -/
  | clock {next : Instant → Flow α} {r : Registry} (now : Instant) :
    Step (.clock next) r (.tick now) (next now) r
  /-- The registry is changed. -/
  | access {change : Instant → Registry → Registry} {next : Instant → Registry → Flow α}
    {r : Registry} (now : Instant) :
    Step (.atomically change next) r (.access now r (change now r)) (next now r) (change now r)
  /-- A request is answered. -/
  | exchange {call : Call} {next : Delivery → Flow α} {r : Registry} (delivery : Delivery) :
    Step (.send call next) r (.exchange call delivery) (next delivery) r

/-- A step that comes to the registry sees it and leaves it. -/
theorem Step.of_access {flow next : Flow α} {r left seen seen' : Registry} {now : Instant}
    (h : Step flow r (.access now seen seen') next left) : r = seen ∧ left = seen' := by
  cases h
  exact ⟨rfl, rfl⟩

/-- **The runs of some flows on one registry.** -/
abbrev Together {ι : Type} [DecidableEq ι] {α : ι → Type} :
    (∀ i, Flow (α i)) → Registry → List (ι × Event) → (∀ i, Flow (α i)) → Registry → Prop :=
  Interleaved fun _ => Step

/-- **The steps of one flow**, whatever the registry is at each of them. -/
abbrev Takes : Flow α → List Event → Flow α → Prop := Taken Step

variable {flow mid rest : Flow α} {events later : List Event} {result : α}

/-- **What each of several flows did** are steps of its own. -/
theorem Together.takes {ι : Type} [DecidableEq ι] {α : ι → Type} {flows ended : ∀ i, Flow (α i)}
    {r left : Registry} {trace : List (ι × Event)} (h : Together flows r trace ended left) (i : ι) :
    Takes (flows i) (own i trace) (ended i) :=
  Interleaved.taken h i

/-! ## What holds along a run -/

section Together

variable {ι : Type} [DecidableEq ι] {α : ι → Type} {flows ended : ∀ i, Flow (α i)}
  {r left : Registry} {trace : List (ι × Event)}

/-- **What no step ends holds at the end** if it holds at the start. -/
theorem Together.keeps {P : Registry → Prop} (h : Together flows r trace ended left)
    (hsteps : ∀ step ∈ trace, step.2.Keeps P) (hr : P r) : P left := by
  refine Interleaved.keeps h (fun i c s e c' s' hmem hstep hs => ?_) hr
  have hkeeps := hsteps _ hmem
  cases hstep with
  | clock now => exact hs
  | access now => exact hkeeps hs
  | exchange delivery => exact hs

/-- **A step that comes to the registry cuts a run** into one that ends with what the
step saw and one that begins with what it left. -/
theorem Together.cut {i : ι} {now : Instant} {seen seen' : Registry}
    {before behind : List (ι × Event)}
    (h : Together flows r (before ++ (i, .access now seen seen') :: behind) ended left) :
    ∃ mid next, Together flows r before mid seen ∧ Together next seen' behind ended left :=
  Interleaved.cut h fun _ _ _ _ => Step.of_access

/-- A step that comes to the registry is somewhere in a run that it cuts. -/
theorem Together.cut_of_mem {i : ι} {now : Instant} {seen seen' : Registry}
    (h : Together flows r trace ended left) (hmem : (i, .access now seen seen') ∈ trace) :
    ∃ before behind mid next, trace = before ++ (i, .access now seen seen') :: behind
      ∧ Together flows r before mid seen ∧ Together next seen' behind ended left := by
  obtain ⟨before, behind, rfl⟩ := List.append_of_mem hmem
  obtain ⟨mid, next, hbefore, hbehind⟩ := h.cut
  exact ⟨before, behind, mid, next, rfl, hbefore, hbehind⟩

end Together

/-! ## Flows that came to their ends -/

/-- **Every flow can come to its end.** -/
theorem exists_takes_done (flow : Flow α) : ∃ events result, Takes flow events (.done result) := by
  induction flow with
  | done result => exact ⟨[], result, .nil _⟩
  | clock next ih =>
    obtain ⟨events, result, h⟩ := ih ⟨0, 0⟩
    exact ⟨_, result, .cons (s := .empty) (.clock _) h⟩
  | atomically change next ih =>
    obtain ⟨events, result, h⟩ := ih ⟨0, 0⟩ .empty
    exact ⟨_, result, .cons (.access _) h⟩
  | send call next ih =>
    obtain ⟨events, result, h⟩ := ih .noAnswer
    exact ⟨_, result, .cons (s := .empty) (.exchange _) h⟩

/-- **A flow that came to its end has run among others** who may do anything. -/
theorem Takes.among (h : Takes flow events (.done result)) (r : Registry) :
    ∃ left, Among (fun _ _ => True) flow r events result left := by
  generalize hdone : Flow.done result = ended at h
  induction h generalizing r with
  | nil =>
    subst hdone
    exact ⟨r, .done ..⟩
  | cons hstep _ ih =>
    cases hstep with
    | clock now =>
      obtain ⟨left, h⟩ := ih r hdone
      exact ⟨left, .clock now h⟩
    | access now =>
      obtain ⟨left, h⟩ := ih _ hdone
      exact ⟨left, .access now _ trivial h⟩
    | exchange delivery =>
      obtain ⟨left, h⟩ := ih r hdone
      exact ⟨left, .exchange delivery h⟩

/-- What a flow did among others are steps of its own. -/
theorem Among.takes {others : Registry → Registry → Prop} {r left : Registry}
    (h : Among others flow r events result left) : Takes flow events (.done result) := by
  induction h with
  | done => exact .nil _
  | @clock next r left events result now _ ih => exact .cons (s := r) (.clock now) ih
  | access now seen _ _ ih => exact .cons (.access now) ih
  | @exchange call next r left events result delivery _ ih =>
    exact .cons (s := r) (.exchange delivery) ih

/-- **What a flow does is decided** by what it sees and what comes back: of two ways to
the end with one beginning, neither goes on where the other has ended. -/
theorem Takes.deterministic {events' more more' : List Event} {result' : α}
    (h : Takes flow events (.done result)) (h' : Takes flow events' (.done result'))
    (hsame : events ++ more = events' ++ more') : events = events' ∧ result = result' := by
  generalize hdone : Flow.done result = ended at h
  induction h generalizing events' with
  | nil =>
    subst hdone
    cases h' with
    | nil => exact ⟨rfl, rfl⟩
    | cons hstep _ => cases hstep
  | cons hstep _ ih =>
    cases h' with
    | nil => cases hstep
    | cons hstep' hrest' =>
      obtain ⟨hevent, hevents⟩ := List.cons.inj hsame
      -- the same event of the same flow leaves the same flow
      cases hstep <;> cases hstep' <;> cases hevent <;>
        exact (ih hrest' hevents hdone).imp_left fun h => by rw [h]

/-! ## Flows by a schedule -/

/-- **Takes one step of a flow** in a world, if one is left. -/
def step? (world : World) : Flow α → Run → Option (Event × Flow α × Run)
  | done _, _ => none
  | clock next, s =>
    let now := world.clock s.ticks
    some (.tick now, next now, { s with ticks := s.ticks + 1 })
  | atomically change next, s =>
    let now := world.clock s.ticks
    let left := change now s.registry
    some (.access now s.registry left, next now s.registry,
      { s with registry := left, ticks := s.ticks + 1 })
  | send call next, s =>
    let delivery := world.network s.calls call
    some (.exchange call delivery, next delivery, { s with calls := call :: s.calls })

/-- The result of a flow that has come to its end. -/
def result? : Flow α → Option α
  | done result => some result
  | _ => none

/-- What is taken is a step. -/
theorem Step.of_step? {world : World} {flow next : Flow α} {s s' : Run} {e : Event}
    (h : flow.step? world s = some (e, next, s')) : Step flow s.registry e next s'.registry := by
  cases flow with
  | done result => cases h
  | clock next => cases h; exact .clock _
  | atomically change next => cases h; exact .access _
  | send call next => cases h; exact .exchange _

/-- **Flows that take their steps by a schedule** in a world. -/
def byTurns {ι : Type} [DecidableEq ι] {α : ι → Type} (world : World) (schedule : List ι)
    (flows : ∀ i, Flow (α i)) (s : Run) : List (ι × Event) × (∀ i, Flow (α i)) × Run :=
  turns (fun _ => step? world) schedule flows s

/-- **What flows do by a schedule is a run of theirs.** -/
theorem together_byTurns {ι : Type} [DecidableEq ι] {α : ι → Type} (world : World)
    (schedule : List ι) (flows : ∀ i, Flow (α i)) (s : Run) :
    Together flows s.registry (byTurns world schedule flows s).1
      (byTurns world schedule flows s).2.1 (byTurns world schedule flows s).2.2.registry :=
  interleaved_turns (fun _ => step? world) Run.registry (fun _ _ _ _ _ _ => Step.of_step?) schedule
    flows s

end GraphGateway.Flow
