import GraphGateway.Proofs.Files.Disk
import GraphGateway.Proofs.Registry.RoundTrip
import GraphGateway.Registry.Storage

/-!
# Registries are loaded as they were saved

A registry is saved by writing its text beside the file that is meant and
moving it there, and all of that leaves a file with the text of the registry
(`read_save`). So a sound registry is loaded as it was saved
(`IsSound.load_save`), and a registry that was loaded is sound
(`isSound_of_load`): what a program loads it can save and load again.
-/

namespace GraphGateway

/-- **Steps that succeed after others** are taken where the others have ended. -/
theorem FileStep.runAll_append {d : Disk} {first rest : List FileStep}
    (h : (runAll d (first ++ rest)).2 = .ok ()) :
    ∃ d', runAll d first = (d', .ok ()) ∧ runAll d (first ++ rest) = runAll d' rest := by
  induction first generalizing d with
  | nil => exact ⟨d, rfl, rfl⟩
  | cons step first ih =>
    rw [List.cons_append, runAll] at h ⊢
    rw [runAll]
    split at h
    · exact ih h
    · cases h

namespace Registry

variable {r : Registry} {d : Disk} {path : String}

/-! ## The steps of a saving -/

/-- **The steps before a file is put in place**: the directory is made, and the text is
written beside the file. -/
def asideSteps (r : Registry) (path : String) : List FileStep :=
  (((FilePath.ofText path).bind FilePath.parent?).map FileStep.makeDirectories).toList ++
    [.write (besidePath path) r.exportOctets]

/-- The last step of a saving moves the file. -/
theorem saveSteps_eq (r : Registry) (path : String) :
    r.saveSteps path = r.asideSteps path ++ [.move (besidePath path) path] := by
  rw [saveSteps, asideSteps, List.append_assoc]
  rfl

/-- A saving succeeds if its steps do. -/
theorem save_eq_ok_iff :
    (r.save d path).2 = .ok () ↔ (FileStep.runAll d (r.saveSteps path)).2 = .ok () := by
  rw [save]
  dsimp only
  cases (FileStep.runAll d (r.saveSteps path)).2 with
  | ok => exact ⟨fun _ => rfl, fun _ => rfl⟩
  | error e => exact ⟨nofun, nofun⟩

/-- Once the first steps were taken, the text is in the file beside. -/
theorem find_of_asideSteps {written : Disk}
    (h : FileStep.runAll d (r.asideSteps path) = (written, .ok ())) :
    written.find (besidePath path) = .ok (.file r.exportOctets) := by
  rw [asideSteps] at h
  obtain ⟨made, -, hmade⟩ := FileStep.runAll_append (congrArg Prod.snd h)
  rw [hmade, FileStep.runAll] at h
  split at h
  · next hwrite =>
    obtain rfl := (Prod.mk.inj h).1
    exact Disk.find_write hwrite
  · cases h

/-! ## What is loaded after it -/

/-- **A registry that was saved is in its file.** -/
theorem read_save (h : (r.save d path).2 = .ok ()) :
    (r.save d path).1.read path = .ok r.exportOctets := by
  have hsteps := save_eq_ok_iff.mp h
  have hsave : (r.save d path).1 = (FileStep.runAll d (r.saveSteps path)).1 := rfl
  rw [hsave]
  rw [saveSteps_eq] at hsteps ⊢
  obtain ⟨written, haside, hlast⟩ := FileStep.runAll_append hsteps
  rw [hlast, FileStep.runAll] at hsteps ⊢
  split at hsteps
  · next hmove => exact Disk.read_eq_of_find (Disk.find_move (find_of_asideSteps haside) hmove)
  · cases hsteps

/-- A sound registry is loaded from a file with its text, whatever the order of its members. -/
theorem IsSound.load_of_read (hr : r.IsSound) {octets : List UInt8} (h : d.read path = .ok octets)
    (hwritten : r.WrittenAs octets) : load d path = .ok r := by
  rw [load, h]
  exact hr.ofOctets_eq hwritten

/-- A sound registry is loaded from a file with its text. -/
theorem IsSound.load_eq (hr : r.IsSound) (h : d.read path = .ok r.exportOctets) :
    load d path = .ok r :=
  hr.load_of_read h r.writtenAs_exportOctets

/-- **A sound registry is loaded as it was saved**, in whatever order its servers were
written. -/
theorem IsSound.load_save (hr : r.IsSound) {shuffled : Registry} (hs : shuffled.Shuffles r)
    (h : (shuffled.save d path).2 = .ok ()) : load (shuffled.save d path).1 path = .ok r :=
  hr.load_of_read (read_save h) ⟨shuffled, hs, rfl⟩

/-- **A registry that was loaded is sound.** -/
theorem isSound_of_load (h : load d path = .ok r) : r.IsSound := by
  rw [load] at h
  cases hread : d.read path with
  | ok octets =>
    rw [hread] at h
    exact isSound_of_ofOctets h
  | error e =>
    rw [hread] at h
    cases e with
    | notFound =>
      obtain rfl := Except.ok.inj h
      exact isSound_empty
    | _ => cases h

end Registry

end GraphGateway
