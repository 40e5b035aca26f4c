import GraphGateway.Program.Storage

/-!
# Runs in which files can be changed

Changing files can fail at any step, for reasons that lie outside of the
program. `Program.changesSucceed` says that it does not: every change of files
that a program gets to in a run succeeds. Then whatever the program saves is
saved (`save_of_changesSucceed`).
-/

namespace GraphGateway

namespace Program

variable {α β : Type} {world : World}

/-- The second of two activities runs only if the first succeeds. -/
theorem run_andThen (world : World) (first : Fallible α) (next : α → Fallible β) (s : Run) :
    (andThen first next).run world s
      = match (first.run world s).1 with
        | .ok value => (next value).run world (first.run world s).2
        | .error e => (.error e, (first.run world s).2) := by
  rw [andThen, run_bind]
  cases (first.run world s).1 <;> rfl

/-- **Whether all changes of files succeed** that a program gets to in a run. -/
def changesSucceed (world : World) : Program α → Run → Bool
  | done _, _ => true
  | look path next, s => changesSucceed world (next (s.disk.find path)) s
  | isThere path next, s => changesSucceed world (next (s.disk.view.isThere path)) s
  | change step next, s =>
    match step.run s.disk with
    | .ok disk => changesSucceed world (next (.ok ())) { s with disk }
    | .error _ => false
  | clock next, s =>
    changesSucceed world (next (world.clock s.ticks)) { s with ticks := s.ticks + 1 }
  | send _ call next, s =>
    changesSucceed world (next (world.network s.calls call)) { s with calls := call :: s.calls }
  | listen address next, s =>
    changesSucceed world
      (next (match world.refusal address with
        | some failure => .error failure
        | none => .ok ())) s

/-- **The changes of two activities succeed** if those of the first do, and
those of the second where the first has ended. -/
theorem changesSucceed_bind (p : Program α) (f : α → Program β) (s : Run) :
    (p.bind f).changesSucceed world s
      = (p.changesSucceed world s
        && (f (p.run world s).1).changesSucceed world (p.run world s).2) := by
  induction p generalizing s with
  | done result => simp [bind, changesSucceed, run]
  | look path next ih => simp only [bind, changesSucceed, run, ih]
  | isThere path next ih => simp only [bind, changesSucceed, run, ih]
  | change step next ih =>
    cases hstep : step.run s.disk with
    | ok disk => simp only [bind, changesSucceed, run, hstep, ih]
    | error e => simp only [bind, changesSucceed, hstep, Bool.false_and]
  | clock next ih => simp only [bind, changesSucceed, run, ih]
  | send patience call next ih => simp only [bind, changesSucceed, run, ih]
  | listen address next ih =>
    cases hrefusal : world.refusal address <;>
      simp only [bind, changesSucceed, run, hrefusal, ih]

/-- The changes of the second of two activities succeed if the first succeeds
and those of both do. -/
theorem changesSucceed_andThen {first : Fallible α} {next : α → Fallible β} {s : Run} {value : α}
    (h : (andThen first next).changesSucceed world s = true)
    (hvalue : (first.run world s).1 = .ok value) :
    (next value).changesSucceed world (first.run world s).2 = true := by
  rw [andThen, changesSucceed_bind, hvalue, Bool.and_eq_true] at h
  exact h.2

/-- Steps of changing files that all succeed end well. -/
theorem runAll_of_changesSucceed {steps : List FileStep} {s : Run}
    (h : (changeAll steps).changesSucceed world s = true) :
    (FileStep.runAll s.disk steps).2 = .ok () := by
  induction steps generalizing s with
  | nil => rfl
  | cons step rest ih =>
    rw [changeAll, changesSucceed] at h
    rw [FileStep.runAll]
    cases hstep : step.run s.disk with
    | error e =>
      rw [hstep] at h
      cases h
    | ok disk =>
      rw [hstep] at h
      exact ih h

/-- **A registry is saved** where all changes of files succeed. -/
theorem save_of_changesSucceed {r : Registry} {path : String} {s : Run}
    (h : (r.saving path).changesSucceed world s = true) : (r.save s.disk path).2 = .ok () := by
  rw [Registry.saving, changesSucceed_bind, Bool.and_eq_true] at h
  have hsteps := runAll_of_changesSucceed h.1
  rw [Registry.save]
  dsimp only
  rw [hsteps]
  rfl

end Program

end GraphGateway
