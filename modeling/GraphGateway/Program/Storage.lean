import GraphGateway.Config.File
import GraphGateway.Program.Basic
import GraphGateway.Registry.Storage

/-!
# Loading and saving in programs

A program loads a configuration and a registry by looking at files, and
saves a registry by changing them, each in steps of its own. Run by itself
it does what `Config.load`, `Registry.load` and `Registry.save` say; the
steps matter where several programs use the same files.
-/

namespace GraphGateway

open Program (World Run)

/-! ## Configurations -/

namespace Settings

/-- Reads a file of settings. -/
def reading (path : String) : Program.Fallible Settings :=
  if isReadable path then .look path fun found => .done (ofRead path (do (← found).text))
  else .done (.error (unreadable path))

/-- Reads the chosen file of settings. -/
def readingChosen : Option String → Program.Fallible Settings
  | some path => reading path
  | none =>
    .isThere Config.defaultFile fun found =>
      if found then reading Config.defaultFile else .done (.ok empty)

theorem run_reading (world : World) (path : String) (s : Run) :
    (reading path).run world s = (ofFile s.disk path, s) := by
  unfold reading ofFile
  split
  · rw [Disk.readText_view]
    rfl
  · rfl

theorem run_readingChosen (world : World) (path : Option String) (s : Run) :
    (readingChosen path).run world s = (ofChosenFile s.disk path, s) := by
  cases path with
  | some path => exact run_reading world path s
  | none =>
    rw [readingChosen, ofChosenFile, Program.run]
    split
    · exact run_reading world Config.defaultFile s
    · rfl

end Settings

namespace Config

/-- **Loads the configuration** that the program runs with. -/
def loading (env : Environment) (path : Option String) : Program.Fallible Config :=
  Program.andThen (Settings.readingChosen path) fun file =>
    .done ((file.overlay default).withEnvironment env)

theorem run_loading (world : World) (env : Environment) (path : Option String) (s : Run) :
    (loading env path).run world s = (load s.disk env path, s) := by
  simp only [loading, Program.andThen, Program.run_bind, Settings.run_readingChosen, load]
  cases Settings.ofChosenFile s.disk path <;> rfl

/-- **Saves a configuration** in a file. -/
def saving (c : Config) (path : String) : Program.Fallible Unit :=
  .change (.write path (Text.Utf8.encode c.yaml)) fun result => .done (result.mapError .files)

theorem run_saving (world : World) (c : Config) (path : String) (s : Run) :
    (c.saving path).run world s =
      match c.save s.disk path with
      | .ok disk => (.ok (), { s with disk })
      | .error e => (.error e, s) := by
  simp only [saving, save, Program.run, FileStep.run]
  cases s.disk.write path (Text.Utf8.encode c.yaml) <;> rfl

end Config

/-! ## Registries -/

namespace Registry

/-- **Loads the registry** that a file holds. -/
def loading (path : String) : Program.Fallible Registry :=
  .look path fun found => .done (ofRead empty (do (← found).octets))

theorem run_loading (world : World) (path : String) (s : Run) :
    (loading path).run world s = (load s.disk path, s) := rfl

/-- **Saves a registry** in a file. -/
def saving (r : Registry) (path : String) : Program.Fallible Unit :=
  Program.bind (Program.changeAll (r.saveSteps path)) fun result =>
    .done (result.mapError GatewayError.files)

theorem run_saving (world : World) (r : Registry) (path : String) (s : Run) :
    (r.saving path).run world s =
      ((r.save s.disk path).2, { s with disk := (r.save s.disk path).1 }) := by
  simp only [saving, Program.run_bind, Program.run_changeAll]
  rfl

end Registry

end GraphGateway
