import GraphGateway.Proofs.Flow.Among

/-!
# Flows that only look, and flows that fail cleanly

A flow **only looks** (`Flow.LooksOnly`) if no step of it changes the registry,
and it **fails cleanly** (`Flow.FailsCleanly`) if no step of it has changed the
registry where it ends with an error. Both are said of its runs among others,
whoever they are and whatever they do: the steps of the others are theirs, and
what is asked about is the flow's own steps.

A flow that takes its one change last fails cleanly (`LooksOnly.bind_failsCleanly`), because
everything before the change only looks and the change itself is an operation
that fails cleanly (`failsCleanly_attempt`).
-/

namespace GraphGateway

open Time (Instant)

namespace Flow

variable {α β : Type}

/-- **Whether a flow only looks at the registry**, however it ends. -/
def LooksOnly (flow : Flow α) : Prop :=
  ∀ others r events result left, Among others flow r events result left →
    ∀ event ∈ events, event.IsLook

/-- **Whether a flow leaves the registry as it was where it fails.** -/
structure FailsCleanly (flow : Fallible α) : Prop where
  /-- Where it fails among others, no step of its own has changed the
  registry. -/
  among : ∀ others r events e left, Among others flow r events (.error e) left →
    ∀ event ∈ events, event.IsLook
  /-- Where it fails with nobody else acting, the registry is the same as
  before. -/
  alone : ∀ world s e, (flow.run world s).1 = .error e → (flow.run world s).2.registry = s.registry

/-- A flow that only looks leaves what the others leave, which is everything
where they do nothing. -/
theorem Among.left_eq {flow : Flow α} {r left : Registry} {events : List Event} {result : α}
    (h : Among Eq flow r events result left) (hlook : ∀ event ∈ events, event.IsLook) :
    left = r := by
  induction h with
  | done => rfl
  | clock now _ ih => exact ih (List.forall_mem_cons.mp hlook).2
  | access now seen hseen _ ih =>
    obtain ⟨hfirst, hrest⟩ := List.forall_mem_cons.mp hlook
    exact (ih hrest).trans ((show _ = seen from hfirst).trans hseen.symm)
  | exchange delivery _ ih => exact ih (List.forall_mem_cons.mp hlook).2

/-- A flow fails cleanly if it does so among others. -/
theorem FailsCleanly.of_among {flow : Fallible α}
    (h : ∀ others r events e left, Among others flow r events (.error e) left →
      ∀ event ∈ events, event.IsLook) : FailsCleanly flow where
  among := h
  alone world s e he := by
    obtain ⟨events, hrun, -⟩ := among_run Eq (fun _ => rfl) world flow s
    rw [he] at hrun
    exact hrun.left_eq (h _ _ _ _ _ hrun)

/-! ## Flows that only look -/

/-- A flow with nothing left to do only looks. -/
theorem looksOnly_done (result : α) : LooksOnly (.done result) := by
  intro others r events value left h
  obtain ⟨rfl, -, -⟩ := among_done.mp h
  exact fun event hevent => absurd hevent List.not_mem_nil

/-- A look at the registry is one. -/
theorem looksOnly_readRegistry (f : Registry → α) : LooksOnly (readRegistry f) := by
  intro others r events result left h
  obtain ⟨now, -, rfl, -⟩ := among_readRegistry.mp h
  exact List.forall_mem_singleton.mpr rfl

/-- A flow that stays away from the registry does not change it. -/
theorem IsOutside.looksOnly {flow : Flow α} (h : flow.IsOutside) : LooksOnly flow := by
  intro others r events result left hrun
  induction hrun with
  | done => exact fun event hevent => absurd hevent List.not_mem_nil
  | clock now _ ih => exact List.forall_mem_cons.mpr ⟨trivial, ih (h now)⟩
  | access => exact h.elim
  | exchange delivery _ ih => exact List.forall_mem_cons.mpr ⟨trivial, ih (h delivery)⟩

/-- Where a flow stays away from the registry, the others are not heard of. -/
theorem IsOutside.left_eq {flow : Flow α} (h : flow.IsOutside) {others : Registry → Registry → Prop}
    {r left : Registry} {events : List Event} {result : α}
    (hrun : Among others flow r events result left) : left = r := by
  induction hrun with
  | done => rfl
  | clock now _ ih => exact ih (h now)
  | access => exact h.elim
  | exchange delivery _ ih => exact ih (h delivery)

/-- What only looks may be followed by what only looks. -/
theorem LooksOnly.bind {first : Flow α} {next : α → Flow β} (hfirst : LooksOnly first)
    (hnext : ∀ value, LooksOnly (next value)) : LooksOnly (first.bind next) := by
  intro others r events result left h
  obtain ⟨before, value, between, rest, rfl, hbefore, hrest⟩ := among_bind.mp h
  exact List.forall_mem_append.mpr ⟨hfirst _ _ _ _ _ hbefore, hnext value _ _ _ _ _ hrest⟩

/-- What only looks may wait for the success of what only looks. -/
theorem LooksOnly.andThen {first : Fallible α} {next : α → Fallible β} (hfirst : LooksOnly first)
    (hnext : ∀ value, LooksOnly (next value)) : LooksOnly (Flow.andThen first next) := by
  refine hfirst.bind fun result => ?_
  cases result with
  | error e => exact looksOnly_done _
  | ok value => exact hnext value

/-! ## Flows that fail cleanly -/

/-- What only looks fails cleanly. -/
theorem LooksOnly.failsCleanly {flow : Fallible α} (h : LooksOnly flow) : FailsCleanly flow :=
  .of_among fun others r events e left => h others r events (.error e) left

/-- **What fails cleanly may wait for what only looks**, and may depend on what
that has seen. -/
theorem LooksOnly.bind_failsCleanly {first : Flow α} {next : α → Fallible β}
    (hfirst : LooksOnly first) (hnext : ∀ value, FailsCleanly (next value)) :
    FailsCleanly (first.bind next) := by
  refine .of_among fun others r events e left h => ?_
  obtain ⟨before, value, between, rest, rfl, hbefore, hrest⟩ := among_bind.mp h
  exact List.forall_mem_append.mpr
    ⟨hfirst _ _ _ _ _ hbefore, (hnext value).among _ _ _ _ _ hrest⟩

/-- What fails cleanly may wait for the success of what only looks. -/
theorem LooksOnly.andThen_failsCleanly {first : Fallible α} {next : α → Fallible β}
    (hfirst : LooksOnly first) (hnext : ∀ value, FailsCleanly (next value)) :
    FailsCleanly (Flow.andThen first next) := by
  refine hfirst.bind_failsCleanly fun result => ?_
  cases result with
  | error e => exact (looksOnly_done _).failsCleanly
  | ok value => exact hnext value

/-- A reading of the clock does not come to the registry. -/
theorem FailsCleanly.clock {next : Instant → Fallible α} (h : ∀ now, FailsCleanly (next now)) :
    FailsCleanly (.clock next) := by
  refine .of_among fun others r events e left hrun => ?_
  cases hrun with
  | clock now hrest =>
    exact List.forall_mem_cons.mpr ⟨trivial, (h now).among _ _ _ _ _ hrest⟩

/-- **An operation on the registry fails cleanly**: what it could not make is not
put in place. -/
theorem failsCleanly_attempt
    (operation : Instant → Registry → Except GatewayError (Registry × α)) :
    FailsCleanly (attempt operation) := by
  refine .of_among fun others r events e left hrun => ?_
  obtain ⟨now, seen, -, rfl, ⟨_, -, rfl, -⟩ | ⟨value, -, hvalue⟩⟩ := among_attempt.mp hrun
  · exact List.forall_mem_singleton.mpr rfl
  · cases hvalue

end Flow

end GraphGateway
