import GraphGateway.Command.Program
import GraphGateway.Proofs.Program.Run

/-!
# Runs of commands

A command that works on the registry is run in three parts: the registry is
loaded, an activity works on it, and the registry is saved if the command
changes it and the activity succeeds. So its run is computed from those of the
parts (`run_looking`, `run_changing`).
-/

namespace GraphGateway.Command

open Program (World Run)

variable {α : Type} {world : World} {c : Config} {s : Run} {r : Registry}

/-- What a run of an activity in memory leaves of a run of a program. -/
def ended (s : Run) (m : Flow.Run) : Run := { s with calls := m.calls, ticks := m.ticks }

/-- **A run of a command that looks at the registry**: its file stays as it
is. -/
theorem run_looking (hload : Registry.load s.disk c.registryFile = .ok r)
    (look : Registry → Flow α) (report : Registry → α → String) :
    (looking c look report).run world s
      = let m := (look r).run world.toWorld ⟨r, s.calls, s.ticks⟩
        (.ok (.finished (report r m.1)), ended s m.2) := by
  rw [looking, Program.run_andThen, Registry.run_loading, hload]
  dsimp only
  rw [Program.run_bind, Config.isolate, Program.run_ofFlow]
  rfl

/-- **A run of a command that changes the registry**: if the activity fails,
the file stays as it is; otherwise the registry is saved. -/
theorem run_changing (hload : Registry.load s.disk c.registryFile = .ok r)
    (change : Flow.Fallible Server) (report : Server → String) :
    (changing c change report).run world s
      = let m := change.run world.toWorld ⟨r, s.calls, s.ticks⟩
        match m.1 with
        | .error e => (.error e, ended s m.2)
        | .ok server =>
          let saved := m.2.registry.save s.disk c.registryFile
          (saved.2.map fun _ => .finished (report server),
            { ended s m.2 with disk := saved.1 }) := by
  rw [changing, Program.run_andThen, Registry.run_loading, hload]
  dsimp only
  rw [Program.run_bind, Config.isolate, Program.run_ofFlow]
  dsimp only
  cases (change.run world.toWorld ⟨r, s.calls, s.ticks⟩).1 with
  | error e => rfl
  | ok server =>
    dsimp only
    rw [Program.run_andThen, Registry.run_saving]
    dsimp only [ended]
    cases ((change.run world.toWorld ⟨r, s.calls, s.ticks⟩).2.registry.save s.disk
      c.registryFile).2 <;> rfl

/-- **The changed registry is saved** where all changes of files succeed. -/
theorem saved_of_changesSucceed (hload : Registry.load s.disk c.registryFile = .ok r)
    {change : Flow.Fallible Server} {report : Server → String}
    (hfiles : (changing c change report).changesSucceed world s = true) {server : Server}
    (hresult : (change.run world.toWorld ⟨r, s.calls, s.ticks⟩).1 = .ok server) :
    ((change.run world.toWorld ⟨r, s.calls, s.ticks⟩).2.registry.save s.disk
      c.registryFile).2 = .ok () := by
  have hloaded : ((Registry.loading c.registryFile).run world s).1 = .ok r := by
    rw [Registry.run_loading, hload]
  have hchange := Program.changesSucceed_andThen hfiles hloaded
  rw [Program.changesSucceed_bind, Bool.and_eq_true, Registry.run_loading, Config.isolate,
    Program.run_ofFlow] at hchange
  have hsaving := hchange.2
  dsimp only at hsaving
  rw [hresult] at hsaving
  dsimp only at hsaving
  rw [Program.andThen, Program.changesSucceed_bind, Bool.and_eq_true] at hsaving
  have hsave := Program.save_of_changesSucceed hsaving.1
  exact hsave

end GraphGateway.Command
