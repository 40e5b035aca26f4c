import GraphGateway.Proofs.Command.Run
import GraphGateway.Proofs.Registry.Registration
import GraphGateway.Proofs.Registry.Storage

/-!
# Commands refine a registry in memory

A command loads the registry from its file, works on it and saves it, and knows
nothing of the commands before it. A registry in memory is loaded once and
carried from each operation to the next (`Command.inMemory`). The two cannot be
told apart (`session_refines_inMemory`): every command ends as its operation
does, with the same report or the same error, and the file holds the registry
in memory after every command.

The file **mirrors** the registry in memory (`Mirrors`), and each command keeps
it so (`Mirrors.step`). A command that fails leaves the file alone, and the
registry in memory is left too, because an operation changes it only if it
succeeds. A command that succeeds saves a registry that is sound, and such a
registry is loaded as it was saved.
-/

namespace GraphGateway.Command

open Program (World Run)

/-! ## Operations in memory -/

/-- An activity that reports its result. -/
def reporting (activity : Flow.Fallible Server) (report : Server → String) :
    Flow.Fallible String :=
  Flow.andThen activity fun server => .done (.ok (report server))

/-- **What a command does to a registry in memory**, and what it reports. A
command that answers clients or writes a configuration does nothing of the
kind. -/
def operation? (c : Config) : Command → Option (Registry → Flow.Fallible String)
  | serve _ _ => none
  | register registration =>
    some fun _ => reporting registration.register (Report.registered c.registryFile)
  | list => some fun r => .done (.ok (Report.listed c.registryFile r))
  | remove id => some fun _ => reporting (Registry.removeFlow id) Report.changed
  | activate id => some fun _ => reporting (Registry.activate id) Report.changed
  | deactivate id => some fun _ => reporting (Registry.deactivate id) Report.changed
  | refresh id => some fun _ => reporting (Registry.refresh id) Report.changed
  | status => some fun r =>
    Flow.bind (probeAll r.all) fun results => .done (.ok (Report.probed results))
  | init _ _ => none

/-- Whether a command only looks at the registry. -/
def onlyLooks : Command → Bool
  | list => true
  | status => true
  | _ => false

/-- **Commands one after another**, each a program of its own. -/
def session (c : Config) : List Command → Program (List (Except GatewayError Outcome))
  | [] => .done []
  | command :: rest =>
    Program.bind (command.program c) fun result =>
      Program.bind (session c rest) fun results => .done (result :: results)

/-- **A registry in memory after the operations of some commands**, one after
another. -/
def inMemory (c : Config) (world : Flow.World) : List Command → Flow.Run → Flow.Run
  | [], m => m
  | command :: rest, m =>
    match command.operation? c with
    | some operation => inMemory c world rest ((operation m.registry).run world m).2
    | none => inMemory c world rest m

/-- **Whether the file holds the registry in memory**, after the same requests
and readings of the clock. -/
structure Mirrors (c : Config) (s : Run) (m : Flow.Run) : Prop where
  /-- The file is read as the registry, which is empty if there is no file. -/
  file : Registry.load s.disk c.registryFile = .ok m.registry
  /-- The same requests were sent. -/
  calls : s.calls = m.calls
  /-- The clock was read as often. -/
  ticks : s.ticks = m.ticks

/-- **Whether a command ends as its operation does**: with the same report or
the same error, and with a file that holds the registry that the operation
leaves. If the operation fails, or if the command only looks, the files are
those from before. -/
structure EndsAs (c : Config) (looks : Bool) (s : Run) (ran : Except GatewayError Outcome × Run)
    (worked : Except GatewayError String × Flow.Run) : Prop where
  /-- The report or the error is that of the operation. -/
  result : ran.1 = worked.1.map Outcome.finished
  /-- The file holds the registry that the operation leaves. -/
  mirrors : Mirrors c ran.2 worked.2
  /-- Nothing is written without a reason. -/
  files : worked.1.isOk = false ∨ looks = true → ran.2.disk = s.disk

/-! ## One command -/

variable {world : World} {c : Config} {s : Run} {m : Flow.Run}

/-- A probe of all servers leaves the registry. -/
theorem leavesRegistry_probeAll (servers : List Server) :
    Flow.LeavesRegistry world.toWorld (probeAll servers) := by
  induction servers with
  | nil => exact fun _ => rfl
  | cons server rest ih =>
    intro m
    rw [probeAll, Flow.run_bind, Flow.run_bind, Flow.run, ih,
      Introspection.leavesRegistry_probe server.endpoint m]

/-- A command that only looks does what its operation does, and leaves all
files. -/
theorem Mirrors.step_looking {α : Type} (h : Mirrors c s m) (look : Registry → Flow α)
    (report : Registry → α → String)
    (hlook : Flow.LeavesRegistry world.toWorld (look m.registry)) :
    EndsAs c true s ((looking c look report).run world s)
      ((Flow.bind (look m.registry) fun result =>
        Flow.done (Except.ok (report m.registry result))).run world.toWorld m) := by
  obtain ⟨r, calls, ticks⟩ := m
  obtain ⟨hfile, rfl, rfl⟩ := h
  dsimp only
  rw [run_looking hfile, Flow.run_bind]
  refine ⟨rfl, ⟨?_, rfl, rfl⟩, fun _ => rfl⟩
  rw [Flow.run, hlook]
  exact hfile

/-- **A command that changes the registry** does what its operation does: if it
fails, all files are left, and otherwise the file holds the changed
registry. -/
theorem Mirrors.step_changing (h : Mirrors c s m) (hclock : ∀ n, (world.clock n).IsDated)
    {change : Flow.Fallible Server} (report : Server → String)
    (hchange : Flow.ChangesOnce world.toWorld change)
    (hfiles : (changing c change report).changesSucceed world s = true) :
    EndsAs c false s ((changing c change report).run world s)
      ((reporting change report).run world.toWorld m) := by
  obtain ⟨r, calls, ticks⟩ := m
  obtain ⟨hfile, rfl, rfl⟩ := h
  have hsound := Registry.isSound_of_load hfile
  rw [run_changing hfile, reporting, Flow.run_andThen]
  dsimp only
  cases hresult : (change.run world.toWorld ⟨r, s.calls, s.ticks⟩).1 with
  | error e =>
    -- neither side has changed anything
    refine ⟨rfl, ⟨?_, rfl, rfl⟩, fun _ => rfl⟩
    show Registry.load s.disk c.registryFile = .ok _
    rw [hchange.of_error _ e hresult]
    exact hfile
  | ok server =>
    -- the changed registry is sound, so it is loaded as it was saved
    obtain ⟨made, n, hbacked, hmade⟩ := hchange.of_ok _ server hresult
    have hchanged := hsound.apply (hclock n) hbacked hmade
    have hsaved := saved_of_changesSucceed hfile hfiles hresult
    dsimp only
    rw [hsaved]
    refine ⟨rfl, ⟨hchanged.load_save (.refl _) hsaved, rfl, rfl⟩, fun hor => ?_⟩
    rcases hor with h | h <;> cases h

/-- **Every command on the registry does what its operation does**, where the
changes of files succeed. -/
theorem Mirrors.step (h : Mirrors c s m) (hclock : ∀ n, (world.clock n).IsDated)
    {command : Command} {operation : Registry → Flow.Fallible String}
    (hoperation : command.operation? c = some operation)
    (hfiles : (command.program c).changesSucceed world s = true) :
    EndsAs c command.onlyLooks s ((command.program c).run world s)
      ((operation m.registry).run world.toWorld m) := by
  cases command with
  | serve port host => cases hoperation
  | init file force => cases hoperation
  | list =>
    obtain rfl := Option.some.inj hoperation
    exact h.step_looking (fun _ => .done ()) (fun r _ => Report.listed c.registryFile r)
      fun _ => rfl
  | status =>
    obtain rfl := Option.some.inj hoperation
    exact h.step_looking (fun r => probeAll r.all) (fun _ results => Report.probed results)
      (leavesRegistry_probeAll m.registry.all)
  | register registration =>
    obtain rfl := Option.some.inj hoperation
    exact h.step_changing hclock _ registration.changesOnce_register hfiles
  | remove id =>
    obtain rfl := Option.some.inj hoperation
    exact h.step_changing hclock _ (Registry.changesOnce_removeFlow id) hfiles
  | activate id =>
    obtain rfl := Option.some.inj hoperation
    exact h.step_changing hclock _ (Registry.changesOnce_activate id) hfiles
  | deactivate id =>
    obtain rfl := Option.some.inj hoperation
    exact h.step_changing hclock _ (Registry.changesOnce_deactivate id) hfiles
  | refresh id =>
    obtain rfl := Option.some.inj hoperation
    exact h.step_changing hclock _ (Registry.changesOnce_refresh id) hfiles

/-! ## Many commands -/

/-- A session runs its first command, and the others where that has ended. -/
theorem run_session_cons (c : Config) (command : Command) (rest : List Command) (s : Run) :
    ((session c (command :: rest)).run world s).2
      = ((session c rest).run world ((command.program c).run world s).2).2 := by
  rw [session, Program.run_bind, Program.run_bind]
  rfl

/-- The changes of files of a session succeed if those of its first command do,
and those of the others where that has ended. -/
theorem changesSucceed_session_cons {command : Command} {rest : List Command}
    (h : (session c (command :: rest)).changesSucceed world s = true) :
    (command.program c).changesSucceed world s = true
      ∧ (session c rest).changesSucceed world ((command.program c).run world s).2 = true := by
  rw [session, Program.changesSucceed_bind, Bool.and_eq_true, Program.changesSucceed_bind,
    Bool.and_eq_true] at h
  exact ⟨h.1, h.2.1⟩

/-- **The file mirrors the registry in memory** after the first commands of a
session, and the changes of files of the others succeed from there. -/
theorem Mirrors.session (hclock : ∀ n, (world.clock n).IsDated) {before : List Command}
    (hcommands : ∀ command ∈ before, (command.operation? c).isSome = true) {rest : List Command} :
    ∀ {s : Run} {m : Flow.Run}, Mirrors c s m →
      (session c (before ++ rest)).changesSucceed world s = true →
      Mirrors c ((session c before).run world s).2 (inMemory c world.toWorld before m)
        ∧ (session c rest).changesSucceed world ((session c before).run world s).2 = true := by
  induction before with
  | nil => exact fun h hfiles => ⟨h, hfiles⟩
  | cons command before ih =>
    intro s m h hfiles
    obtain ⟨operation, hoperation⟩ :=
      Option.isSome_iff_exists.mp (hcommands command (List.mem_cons_self ..))
    obtain ⟨hfirst, hothers⟩ := changesSucceed_session_cons hfiles
    -- the first command keeps the mirror, and the others start from there
    have hmirrors := (h.step hclock hoperation hfirst).mirrors
    rw [run_session_cons, inMemory, hoperation]
    exact ih (fun later hlater => hcommands later (List.mem_cons_of_mem _ hlater)) hmirrors hothers

/-- **The commands refine a registry in memory.** Start from a file that is
read as a registry, or from none; let the clock read instants that have
timestamps, and let all changes of files succeed. After any commands on the
registry, the next one ends as its operation does on the registry in memory
that was carried through all of them: with the same report, or with the same
error. The file is then read as the registry that the operation leaves; and if
the operation fails, or if the command only looks, no file has changed. -/
theorem session_refines_inMemory {d : Disk} {r : Registry} {calls : List Call} {ticks : Nat}
    (hclock : ∀ n, (world.clock n).IsDated) (hload : Registry.load d c.registryFile = .ok r)
    {before : List Command} (hbefore : ∀ earlier ∈ before, (earlier.operation? c).isSome = true)
    {command : Command} {operation : Registry → Flow.Fallible String}
    (hoperation : command.operation? c = some operation)
    (hfiles : (session c (before ++ [command])).changesSucceed world ⟨d, calls, ticks⟩ = true) :
    let reached := ((session c before).run world ⟨d, calls, ticks⟩).2
    let carried := inMemory c world.toWorld before ⟨r, calls, ticks⟩
    Mirrors c reached carried
      ∧ EndsAs c command.onlyLooks reached ((command.program c).run world reached)
        ((operation carried.registry).run world.toWorld carried) := by
  have hstart : Mirrors c ⟨d, calls, ticks⟩ ⟨r, calls, ticks⟩ := ⟨hload, rfl, rfl⟩
  obtain ⟨hreached, hrest⟩ := hstart.session hclock hbefore hfiles
  obtain ⟨hnext, -⟩ := changesSucceed_session_cons hrest
  exact ⟨hreached, hreached.step hclock hoperation hnext⟩

/-- A world in which every backend gives the answer of the example and the clock
stands still. -/
def exampleWorld : World where
  network _ _ := .answer 200 Registry.exampleAnswer.octets true
  clock _ := ⟨1700000000, 0⟩
  refusal _ := none

/-- The registration of a server at a backend. -/
def exampleRegistration : Registration :=
  { id := "a", name := "A", endpoint := "http://a/graphql", description := "" }

set_option maxRecDepth 2000 in
/-- Where there is no file yet, the registry is empty. -/
theorem load_empty : Registry.load .empty Config.default.registryFile = .ok .empty := by
  rfl

/-- Where there is no file yet, a server is registered after a look at the
registry: the file that is written holds the registry in memory. -/
theorem session_refines_inMemory_first_registration :
    let reached := ((session .default [.list]).run exampleWorld ⟨.empty, [], 0⟩).2
    let carried := inMemory .default exampleWorld.toWorld [.list] ⟨.empty, [], 0⟩
    Mirrors .default reached carried
      ∧ EndsAs .default false reached
        (((Command.register exampleRegistration).program .default).run exampleWorld reached)
        ((reporting exampleRegistration.register
          (Report.registered Config.default.registryFile)).run exampleWorld.toWorld carried) := by
  have hclock : ∀ n, (exampleWorld.clock n).IsDated := fun _ =>
    show Time.Instant.IsDated ⟨1700000000, 0⟩ by decide
  have hbefore : ∀ earlier ∈ [Command.list], (earlier.operation? .default).isSome = true := by
    decide
  have hoperation : (Command.register exampleRegistration).operation? .default
      = some fun _ => reporting exampleRegistration.register
        (Report.registered Config.default.registryFile) := rfl
  have hfiles : (session .default ([.list] ++ [.register exampleRegistration])).changesSucceed
      exampleWorld ⟨.empty, [], 0⟩ = true := by
    decide +kernel
  exact session_refines_inMemory hclock load_empty hbefore hoperation hfiles

end GraphGateway.Command
