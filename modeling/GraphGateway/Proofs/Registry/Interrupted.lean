import GraphGateway.Proofs.Files.Beside
import GraphGateway.Proofs.Files.Stop
import GraphGateway.Proofs.Registry.Storage

/-!
# Savings that are stopped

A registry is saved in steps, and each of them can be stopped or fail. Until the last
one, nobody has come to the file: directories were made on the way to it where nothing
was, and the file beside it was written. With the last step the file is in its place, and
holds the whole text. There is nothing in between (`Registry.Stopped`).

So whoever loads the registry then gets the one that was there before or the one that was
to be saved (`Registry.savesWhole_after`). What it takes for that is a path that leads to
the same place before and after its directories are made. One that leads into a missing
directory and out again leads nowhere at first and somewhere else later
(`Registry.not_savesWhole`).
-/

namespace GraphGateway

open FileStep (StopsIn)
open Time (Instant)

namespace FilePath

/-- The directory that is made for a path has all of its parts but the last. -/
theorem parent?_eq {p directory : FilePath} (h : p.parent? = some directory) :
    directory.absolute = p.absolute ∧ directory.parts = p.parts.dropLast := by
  obtain ⟨absolute, parts, slashed⟩ := p
  rw [parent?] at h
  rcases parts with _ | ⟨first, _ | ⟨second, rest⟩⟩
  · cases h
  · cases absolute <;> cases h
    exact ⟨rfl, rfl⟩
  · cases h
    exact ⟨rfl, rfl⟩

/-- The way to a directory that is made for a path is part of the way of the path. -/
theorem mem_wayOf {path : String} {directory : FilePath} {before : List String}
    (h : (ofText path).bind parent? = some directory) (hbefore : before <+: directory.parts) :
    (⟨directory.absolute, before, false⟩ : FilePath).place ∈ wayOf path := by
  obtain ⟨p, hpath, hparent⟩ := Option.bind_eq_some_iff.mp h
  obtain ⟨habsolute, hparts⟩ := parent?_eq hparent
  rw [wayOf, hpath]
  refine List.mem_map.mpr ⟨before, (List.mem_inits _ _).mpr (hparts ▸ hbefore), ?_⟩
  rw [place, start, start, habsolute]

end FilePath

namespace Registry

variable {r prev : Registry} {d d' : Disk} {path : String}

/-! ## What a saving comes to -/

/-- The place of the file beside that of a path. -/
def side (path : String) : List FilePlace := (FilePath.placeOf (besidePath path)).toList

/-- **Until the file is moved**, only the file beside it was come to, and directories were
made on the way. -/
theorem touches_of_asideSteps (h : StopsIn (r.asideSteps path) d d') :
    d.Touches (FilePath.wayOf path) (side path) d' := by
  rw [asideSteps] at h
  cases hdirectory : (FilePath.ofText path).bind FilePath.parent? with
  | none =>
    rw [hdirectory] at h
    exact FileStep.touches_of_stopsIn_write h fun _ => id
  | some directory =>
    rw [hdirectory] at h
    have hway : ∀ before, before <+: directory.parts.reverse.reverse →
        (⟨directory.absolute, before, false⟩ : FilePath).place ∈ FilePath.wayOf path :=
      fun before hbefore =>
        FilePath.mem_wayOf hdirectory (by rwa [List.reverse_reverse] at hbefore)
    cases h with
    | here hmake =>
      cases hmake with
      | start => exact .refl _ _ d
      | making hmake => exact hmake.touches hway
    | later hmake h =>
      exact (Disk.touches_makeDirectoriesFrom hmake hway).trans
        (FileStep.touches_of_stopsIn_write h fun _ => id)

/-- **How far a saving has come**: nobody has come to the file, or it is in its place. -/
inductive Stopped (r : Registry) (path : String) (d d' : Disk) : Prop where
  /-- The file beside it may be there, and directories on the way to it. -/
  | before (h : d.Touches (FilePath.wayOf path) (side path) d')
  /-- The file is in its place. -/
  | placed (hread : d'.read path = .ok r.exportOctets)
    (h : d.Touches (FilePath.wayOf path) (side path ++ (FilePath.placeOf path).toList) d')

/-- **Wherever a saving is stopped**, the file was not come to or is in its place. -/
theorem stopped_of_stopsIn (h : StopsIn (r.saveSteps path) d d') : r.Stopped path d d' := by
  rw [saveSteps_eq] at h
  rcases FileStep.stopsIn_concat h with haside | ⟨written, haside, hmove⟩
  · exact .before (touches_of_asideSteps haside)
  · have htouches := touches_of_asideSteps (FileStep.stopsIn_runAll (r.asideSteps path) d)
    rw [haside] at htouches
    have hfind := find_of_asideSteps haside
    cases hmove with
    | start => exact .before htouches
    | moved hmove =>
      refine .placed (Disk.read_eq_of_find (Disk.find_move hfind hmove)) ?_
      exact (htouches.mono (fun _ => id) (List.subset_append_left _ _)).trans
        (Disk.touches_move hfind hmove (List.subset_append_left _ _)
          (List.subset_append_right _ _))

/-- **A saving that fails** has not come to the file. -/
theorem touches_of_save_fails (h : (r.save d path).2 ≠ .ok ()) :
    d.Touches (FilePath.wayOf path) (side path) (r.save d path).1 := by
  have hfails := mt save_eq_ok_iff.mpr h
  have hsave : (r.save d path).1 = (FileStep.runAll d (r.saveSteps path)).1 := rfl
  rw [hsave]
  rw [saveSteps_eq] at hfails ⊢
  exact touches_of_asideSteps (FileStep.stopsIn_of_fails (fun _ => rfl) hfails)

/-! ## What is loaded then -/

/-- A path that a registry is loaded from has no name that no file can have, as far as it
leads. -/
theorem walk_ne_longName {p : FilePath} (hpath : FilePath.ofText path = some p)
    (hload : load d path = .ok prev) : d.walk p.start p.parts ≠ .error .longName := by
  intro hlong
  have hfind : d.find path = .error .badName ∨ d.find path = .error .longName := by
    rw [Disk.find_eq hpath, Disk.foundFrom, hlong]
    split
    · exact .inl rfl
    · exact .inr rfl
  rw [load, Disk.read] at hload
  rcases hfind with hfind | hfind
  · rw [hfind] at hload
    cases hload
  · rw [hfind] at hload
    cases hload

/-- **A registry is loaded as before** while nobody has come to its file. -/
theorem load_of_touches (htree : d.IsTree) (hsettled : d.IsSettled path)
    (hload : load d path = .ok prev) (h : d.Touches (FilePath.wayOf path) (side path) d') :
    load d' path = .ok prev := by
  have hfind : d'.find path = d.find path := by
    refine Disk.find_of_touches htree h hsettled ?_ ?_
    · intro place hplace own hown
      exact FilePath.not_prefix_of_beside (Option.mem_toList.mp hplace) hown
    · intro own hown hmade
      obtain ⟨p, hpath, rfl⟩ := Option.map_eq_some_iff.mp hown
      rw [FilePath.wayOf, hpath, Option.map_some, Option.getD_some] at hmade
      exact Disk.at?_place_ne_none (hsettled p hpath) (walk_ne_longName hpath hload) hmade
  rw [load, Disk.read, hfind]
  exact hload

/-- **Whether a registry is saved whole or not at all** in place of another, in whatever order
its servers are written. -/
structure SavesWhole (r prev : Registry) (path : String) (d : Disk) : Prop where
  /-- Wherever the saving is stopped, one of the two is loaded. -/
  stopped : ∀ shuffled : Registry, shuffled.Shuffles r →
    ∀ d', StopsIn (shuffled.saveSteps path) d d' →
      load d' path = .ok prev ∨ load d' path = .ok r
  /-- If it fails, the one that was there is loaded. -/
  failed : ∀ shuffled : Registry, shuffled.Shuffles r →
    (shuffled.save d path).2 ≠ .ok () → load (shuffled.save d path).1 path = .ok prev
  /-- If it succeeds, the one that was saved is loaded. -/
  saved : ∀ shuffled : Registry, shuffled.Shuffles r →
    (shuffled.save d path).2 = .ok () → load (shuffled.save d path).1 path = .ok r

/-- **Every registry that a history leaves is saved whole or not at all**, in any tree and
along every path that stays where it is while directories are made. -/
theorem savesWhole_after {history : List (Instant × Change)} (hhistory : IsHistory history)
    (htree : d.IsTree) (hsettled : d.IsSettled path) (hload : load d path = .ok prev) :
    SavesWhole (after history) prev path d where
  stopped shuffled hs d' hstops := by
    cases stopped_of_stopsIn hstops with
    | before h => exact .inl (load_of_touches htree hsettled hload h)
    | placed hread =>
      exact .inr ((isSound_after hhistory).load_of_read hread ⟨shuffled, hs, rfl⟩)
  failed _ _ hfails := load_of_touches htree hsettled hload (touches_of_save_fails hfails)
  saved _ hs hsaved := (isSound_after hhistory).load_save hs hsaved

/-- The tree of a saving that was stopped before: a registry, and beside it half the text of
another. -/
def exampleDisk : Disk :=
  ⟨[(["data"], .directory), (["data", "registry.json"], .file (Text.Utf8.encode "\x7b\x7d")),
    (["data", "registry.json.tmp"], .file (Text.Utf8.encode "\x7b\"a\":"))]⟩

/-- In this tree a registry is saved whole or not at all. -/
theorem savesWhole_exampleHistory :
    IsHistory exampleHistory ∧ exampleDisk.IsTree ∧ exampleDisk.IsSettled "data/registry.json"
      ∧ load exampleDisk "data/registry.json" = .ok empty
      ∧ SavesWhole (after exampleHistory) empty "data/registry.json" exampleDisk := by
  have htree : exampleDisk.IsTree := by decide
  have hsettled : exampleDisk.IsSettled "data/registry.json" := by decide +kernel
  have hload : load exampleDisk "data/registry.json" = .ok empty := by rfl
  exact ⟨isHistory_exampleHistory, htree, hsettled, hload,
    savesWhole_after isHistory_exampleHistory htree hsettled hload⟩

end Registry

/-! ## Paths that lead elsewhere later -/

namespace FilePath

/-- A path into a directory, to a name that no file can have. -/
theorem ofText_long {name : String} (hslash : ∀ c ∈ name.toList, (c == '/') = false)
    (hlong : Disk.longestName < name.utf8ByteSize) :
    ofText ("x/" ++ name) = some ⟨false, ["x", name], false⟩ := by
  have hpieces : pieces ("x/" ++ name) = ["x", name] := by
    have hsplit := Text.splitOn_append_cons (c := '/') (p := (· == '/')) rfl ['x'] name.toList
    have hone : Text.splitOn (· == '/') name.toList = [name.toList] :=
      Text.splitOnAux_of_free hslash []
    rw [pieces, String.toList_append]
    refine (congrArg _ hsplit).trans ?_
    rw [hone, List.map_append, List.map_singleton, String.ofList_toList]
    rfl
  have hhead : ("x/" ++ name).toList.head? = some 'x' := by
    rw [String.toList_append]
    rfl
  have hshort : ∀ short : String, short.utf8ByteSize ≤ Disk.longestName → name ≠ short := by
    rintro short hshort rfl
    omega
  have hempty := hshort "" (by decide)
  have hdot := hshort "." (by decide)
  rw [ofText, if_neg (by simp), hpieces, hhead]
  simp [hempty, hdot]

end FilePath

namespace Disk

/-- Along such a path nothing is found while there is no directory, and once it is there the
name is too long. -/
theorem find_long (d : Disk) {path name : String}
    (hpath : FilePath.ofText path = some ⟨false, ["x", name], false⟩)
    (hnul : name.toList.contains '\x00' = false) (hlong : longestName < name.utf8ByteSize) :
    d.find path = match d.at? ["x"] with
      | none => .error .notFound
      | some (.file _) => .error .notDirectory
      | some .directory => .error .longName := by
  have hnames : ¬ (["x", name].any fun part => part.toList.contains '\x00') = true := by
    rw [List.any_cons, List.any_cons, hnul]
    decide
  rw [find_eq hpath, if_neg hnames, foundFrom_cons, foundFrom_cons, if_pos hlong]
  show Except.bind (match d.at? ["x"] with
    | none => Except.error FileFailure.notFound
    | some (.file _) => .error .notDirectory
    | some .directory => .error .longName) _ = _
  cases d.at? ["x"] with
  | none => rfl
  | some entry => cases entry <;> rfl

end Disk

namespace Registry

variable {r prev : Registry} {d d' : Disk} {path : String}

/-- A registry is not saved whole if none can be loaded where the saving is stopped. -/
theorem not_savesWhole_of_stopsIn (hstops : StopsIn (r.saveSteps path) d d')
    (hload : (load d' path).toOption = none) : ¬ SavesWhole r prev path d := by
  intro hwhole
  rcases hwhole.stopped r (.refl _) d' hstops with hprev | hr
  · rw [hprev] at hload
    cases hload
  · rw [hr] at hload
    cases hload

/-- A path into a missing directory and out of it again. -/
def strayPath : String := "x/../registry.json"

/-- The tree in which such a path leads nowhere at first, and once the directory was made to a
file that is no registry. -/
def strayDisk : Disk := ⟨[(["registry.json"], .file (Text.Utf8.encode "\x7b"))]⟩

/-- A name that no file can have. -/
def longName : String := String.ofList (List.replicate 256 'n')

/-- The characters of this name. -/
theorem toList_longName : longName.toList = List.replicate 256 'n' := String.toList_ofList

/-- A path behind a missing directory to such a name. -/
def longPath : String := "x/" ++ longName

/-- The parts of this path. -/
theorem ofText_longPath : FilePath.ofText longPath = some ⟨false, ["x", longName], false⟩ := by
  have hslash : ∀ c ∈ longName.toList, (c == '/') = false := by
    intro c hc
    rw [toList_longName] at hc
    rw [List.eq_of_mem_replicate hc]
    decide
  exact FilePath.ofText_long hslash (by decide +kernel)

/-- Nothing is at the end of this path, nor is there a way to it once the directory was made. -/
theorem find_longPath (d : Disk) : d.find longPath = match d.at? ["x"] with
    | none => .error .notFound
    | some (.file _) => .error .notDirectory
    | some .directory => .error .longName := by
  have hnul : longName.toList.contains '\x00' = false := by
    rw [toList_longName]
    decide +kernel
  exact d.find_long ofText_longPath hnul (by decide +kernel)

/-- **A path may lead elsewhere** once its directories are made: where it leads out of a
missing one again, and where a name behind it is too long. Then nothing is there at first, and
no registry can be loaded any more once the directory is there. -/
theorem not_savesWhole :
    IsHistory []
      ∧ (strayDisk.IsTree ∧ load strayDisk strayPath = .ok empty
        ∧ ¬ SavesWhole (after []) empty strayPath strayDisk)
      ∧ Disk.empty.IsTree ∧ load Disk.empty longPath = .ok empty
        ∧ ¬ SavesWhole (after []) empty longPath Disk.empty := by
  refine ⟨nofun, ⟨by decide, rfl, ?_⟩, by decide, ?_, ?_⟩
  · exact not_savesWhole_of_stopsIn (.here (.making (.made rfl))) (by decide +kernel)
  · rw [load, Disk.read, find_longPath]
    rfl
  · have hstops : StopsIn ((after []).saveSteps longPath) .empty ⟨[(["x"], .directory)]⟩ := by
      rw [saveSteps, ofText_longPath]
      exact .here (.making (.made rfl))
    refine not_savesWhole_of_stopsIn hstops ?_
    rw [load, Disk.read, find_longPath]
    rfl

end Registry

end GraphGateway
