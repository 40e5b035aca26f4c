import GraphGateway.Flow

/-!
# Runs of flows

What a flow does by itself is computed from its parts: the second of two
activities runs where the first has ended, an operation on the registry
takes one tick of the clock, and a look at the registry changes nothing but
that clock.
-/

namespace GraphGateway.Flow

open Time (Instant)

variable {α β : Type}

/-- **The second of two activities runs where the first has ended.** -/
theorem run_bind (world : World) (f : Flow α) (g : α → Flow β) (s : Run) :
    (f.bind g).run world s = (g (f.run world s).1).run world (f.run world s).2 := by
  induction f generalizing s with
  | done result => rfl
  | clock next ih => simp only [bind, run, ih]
  | atomically change next ih => simp only [bind, run, ih]
  | send call next ih => simp only [bind, run, ih]

/-- The second of two activities runs only if the first succeeds. -/
theorem run_andThen (world : World) (first : Fallible α) (next : α → Fallible β) (s : Run) :
    (andThen first next).run world s
      = match (first.run world s).1 with
        | .ok value => (next value).run world (first.run world s).2
        | .error e => (.error e, (first.run world s).2) := by
  rw [andThen, run_bind]
  cases (first.run world s).1 <;> rfl

/-- A look at the registry leaves it as it is. -/
@[simp] theorem run_readRegistry (world : World) (f : Registry → α) (s : Run) :
    (readRegistry f).run world s = (f s.registry, { s with ticks := s.ticks + 1 }) := rfl

/-- **An operation on the registry** changes it where it succeeds, and leaves it
as it is where it fails. -/
theorem run_attempt (world : World)
    (operation : Instant → Registry → Except GatewayError (Registry × α)) (s : Run) :
    (attempt operation).run world s
      = match operation (world.clock s.ticks) s.registry with
        | .ok (changed, value) =>
          (.ok value, { s with registry := changed, ticks := s.ticks + 1 })
        | .error e => (.error e, { s with ticks := s.ticks + 1 }) := by
  rw [attempt, run]
  cases operation (world.clock s.ticks) s.registry <;> rfl

end GraphGateway.Flow
