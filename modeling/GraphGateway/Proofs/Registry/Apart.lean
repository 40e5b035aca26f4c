import GraphGateway.Proofs.Registry.Interrupted

/-!
# Registries in different files

Whoever saves a registry comes to the places on its path, to its file, and to the file
beside that. Another registry is loaded as before, whatever happens to these, if its own
path leads past them (`Registry.load_of_savedOver`).

That the files are different and neither is below the other (`Registry.Separate`) is not
enough for it (`Registry.disturbs_separate`). The other registry can be kept in the very file
that is written beside the first. The path of the first can pass its place, where a directory
is made then. And its own path may have led nowhere before and lead somewhere now, which
happens to a registry that is saved itself as well (`Registry.not_savesWhole`). A path that
does nothing of that leads past the other (`Registry.LeadsPast`).
-/

namespace GraphGateway

open FileStep (StopsIn)

namespace Registry

variable {p q : String} {d d' between : Disk}

/-- **What savings make of a tree** along one path, of any registries, whether they succeed,
fail or are stopped. -/
inductive SavedOver (p : String) (d : Disk) : Disk → Prop where
  /-- Nothing was saved yet. -/
  | none : SavedOver p d d
  /-- One more registry was saved, or it failed. -/
  | saved {between : Disk} (h : SavedOver p d between) (r : Registry) :
    SavedOver p d (r.save between p).1
  /-- Saving one more was stopped. -/
  | stopped {between d' : Disk} (h : SavedOver p d between) (r : Registry)
    (hstops : StopsIn (r.saveSteps p) between d') : SavedOver p d d'

/-- Wherever a saving is stopped, it has come to three places at most, and to those on the
way. -/
theorem touches_of_stopsIn {r : Registry} (h : StopsIn (r.saveSteps p) d d') :
    d.Touches (FilePath.wayOf p) (side p ++ (FilePath.placeOf p).toList) d' := by
  cases stopped_of_stopsIn h with
  | before h => exact h.mono (fun _ => id) (List.subset_append_left _ _)
  | placed _ h => exact h

/-- **Savings along one path** come to the same places again and again. -/
theorem SavedOver.touches (h : SavedOver p d d') :
    d.Touches (FilePath.wayOf p) (side p ++ (FilePath.placeOf p).toList) d' := by
  induction h with
  | none => exact .refl _ _ d
  | saved _ r ih => exact ih.trans (touches_of_stopsIn (FileStep.stopsIn_runAll _ _))
  | stopped _ r hstops ih => exact ih.trans (touches_of_stopsIn hstops)

/-- **Whether two paths name different files**, neither of which is below the other. -/
def Separate (p q : String) : Prop :=
  ∀ place ∈ FilePath.placeOf p, ∀ other ∈ FilePath.placeOf q,
    ¬ place <+: other ∧ ¬ other <+: place

/-- Of two texts it can be told. -/
instance (p q : String) : Decidable (Separate p q) :=
  inferInstanceAs (Decidable (∀ place ∈ FilePath.placeOf p, ∀ other ∈ FilePath.placeOf q, _ ∧ _))

/-- **Whether a path leads past all places** that savings along another path come to. -/
structure LeadsPast (d : Disk) (p q : String) : Prop where
  /-- It does not lead to the file beside that of the other path, nor below it. -/
  beside : ∀ place ∈ FilePath.placeOf (besidePath p), ∀ other ∈ FilePath.placeOf q,
    place <+: other → d.at? place = some .directory
  /-- If the other path passes its place, something is there. -/
  passed : ∀ other ∈ FilePath.placeOf q, other ∈ FilePath.wayOf p → d.at? other ≠ none
  /-- It leads out of no directory that is missing, nor out of a file. -/
  settled : d.IsSettled q

/-- **A registry is loaded as before**, whatever was saved along another path. -/
theorem load_of_savedOver (htree : d.IsTree) (hseparate : Separate p q) (hpast : LeadsPast d p q)
    (h : SavedOver p d d') :
    load d' q = load d q ∧ ∀ r : Registry, r.loadInto d' q = r.loadInto d q := by
  have hread : d'.read q = d.read q := by
    rw [Disk.read, Disk.read, Disk.find_of_touches htree h.touches.narrow hpast.settled ?_
      hpast.passed]
    intro place hplace other hother hbelow
    obtain ⟨hmem, hne⟩ := List.mem_filter.mp hplace
    rcases List.mem_append.mp hmem with hside | hown
    · exact bne_iff_ne.mp hne
        (hpast.beside place (Option.mem_toList.mp hside) other hother hbelow)
    · exact (hseparate place (Option.mem_toList.mp hown) other hother).1 hbelow
  exact ⟨by rw [load, load, hread], fun r => by rw [loadInto, loadInto, hread]⟩

/-- The example before, with a file of another registry. -/
def sharedDisk : Disk :=
  ⟨exampleDisk.entries ++ [(["data", "other.json"], .file (Text.Utf8.encode "\x7b\x7d"))]⟩

/-- A registry is saved in this tree, and the other one is loaded as before. -/
theorem load_sharedDisk :
    sharedDisk.IsTree ∧ Separate "data/registry.json" "data/other.json"
      ∧ LeadsPast sharedDisk "data/registry.json" "data/other.json"
      ∧ SavedOver "data/registry.json" sharedDisk
          ((after exampleHistory).save sharedDisk "data/registry.json").1
      ∧ load ((after exampleHistory).save sharedDisk "data/registry.json").1 "data/other.json"
        = load sharedDisk "data/other.json" := by
  have htree : sharedDisk.IsTree := by decide
  have hseparate : Separate "data/registry.json" "data/other.json" := by decide +kernel
  have hpast : LeadsPast sharedDisk "data/registry.json" "data/other.json" :=
    ⟨by decide +kernel, by decide +kernel, by decide +kernel⟩
  have hsaved := SavedOver.saved (.none (p := "data/registry.json") (d := sharedDisk))
    (after exampleHistory)
  exact ⟨htree, hseparate, hpast, hsaved, (load_of_savedOver htree hseparate hpast hsaved).1⟩

/-! ## Registries that are disturbed -/

/-- **Whether savings along one path disturb what is loaded along another**, although the
files are different and neither is below the other. -/
structure Disturbs (d : Disk) (p q : String) : Prop where
  /-- It is a tree in which that happens. -/
  tree : d.IsTree
  /-- The files are different. -/
  separate : Separate p q
  /-- Something else is loaded afterwards. -/
  disturbed : ∃ d', SavedOver p d d' ∧ load d' q ≠ load d q

/-- It does if a registry is loaded only before, or only afterwards. -/
theorem disturbs_of_save (r : Registry) (htree : d.IsTree) (hseparate : Separate p q)
    (h : (load (r.save d p).1 q).toOption.isSome ≠ (load d q).toOption.isSome) :
    Disturbs d p q :=
  ⟨htree, hseparate, _, .saved .none r, fun hsame => h (by rw [hsame])⟩

/-- The tree in which a registry is kept in the file beside another. -/
def besideDisk : Disk :=
  ⟨[(["registry.json.tmp"], .file (after exampleHistory).exportOctets)]⟩

/-- **Different files are not enough**: the other registry may be in the file beside the
first, or on its way, or its path may lead out of that file or out of a missing directory, or
behind one with a name that is too long. -/
theorem disturbs_separate :
    Disturbs besideDisk "registry.json" "registry.json.tmp"
      ∧ Disturbs Disk.empty "other.json/../registry.json" "other.json"
      ∧ Disturbs besideDisk "registry.json" "registry.json.tmp/../other.json"
      ∧ Disturbs strayDisk "x/other.json" strayPath
      ∧ Disturbs Disk.empty "x/registry.json" longPath := by
  refine ⟨⟨by decide, by decide +kernel, _, .saved .none empty, ?_⟩, ?_, ?_, ?_, ?_⟩
  · -- the other registry is moved away with the file
    have hbefore : load besideDisk "registry.json.tmp" = .ok (after exampleHistory) :=
      (isSound_after isHistory_exampleHistory).load_eq rfl
    have hlater : load (empty.save besideDisk "registry.json").1 "registry.json.tmp" = .ok empty :=
      rfl
    have hservers : (after exampleHistory).entries.isEmpty = false := by decide +kernel
    intro hsame
    rw [hbefore, hlater] at hsame
    rw [← Except.ok.inj hsame] at hservers
    cases hservers
  · exact disturbs_of_save empty (by decide) (by decide +kernel) (by decide +kernel)
  · exact disturbs_of_save empty (by decide) (by decide +kernel) (by decide +kernel)
  · exact disturbs_of_save empty (by decide) (by decide +kernel) (by decide +kernel)
  · have hplace : FilePath.placeOf longPath = some ["x", longName] := by
      rw [FilePath.placeOf, ofText_longPath]
      exact congrArg some (Disk.follow_of_names (by decide +kernel))
    refine disturbs_of_save empty (by decide) ?_ ?_
    · rw [Separate, hplace]
      decide +kernel
    · have hmade : (empty.save Disk.empty "x/registry.json").1.at? ["x"] = some .directory := by
        decide +kernel
      rw [load, load, Disk.read, Disk.read, find_longPath, find_longPath, hmade]
      exact Bool.false_ne_true

end Registry

end GraphGateway
