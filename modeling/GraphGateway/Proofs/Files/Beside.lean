import GraphGateway.Proofs.Files.Way
import GraphGateway.Proofs.Text.Words
import GraphGateway.Registry.Storage

/-!
# Files beside others

A registry is written to a file beside the one that is meant, whose path has a few
characters more. The file that is meant is not at its place, nor below it
(`FilePath.not_prefix_of_beside`), so where both paths lead somewhere, they lead to
different places (`locateText_besidePath_ne`). Writing beside a file leaves the file, and
once the file beside it was moved into place there is none left to be moved
(`move_beside_of_moved`).

Making directories adds to a tree and changes nothing that is there
(`Disk.Grows`, `grows_makeDirectoriesFrom`), so files are found as before
(`Grows.find_file`). Neither that nor writing beside a file comes to the file
(`Disk.Undisturbed`), so a registry is loaded from it as it was at first
(`Registry.load_of_undisturbed`).
-/

namespace GraphGateway

open Registry (besidePath)

/-! ## Paths with more at the end -/

/-- A name with more at its end is no shorter name. -/
theorem Registry.append_tmp_ne {last name : String}
    (h : name.toList.length < last.toList.length + 4) : last ++ ".tmp" ≠ name := by
  rintro rfl
  simp at h

/-- **The path of the file beside another** has one more part where the other means a
directory, and otherwise differs in its last part. -/
theorem FilePath.ofText_besidePath {path : String} {p : FilePath}
    (h : ofText path = some p) :
    ∃ before last, (p.slashed = false ∧ p.parts = before ++ [last]
        ∨ p.slashed = true ∧ p.parts = before)
      ∧ ofText (besidePath path) = some ⟨p.absolute, before ++ [last ++ ".tmp"], false⟩ := by
  have hfree : ∀ c ∈ ".tmp".toList, (c == '/') = false := by simp
  obtain ⟨before, last, hpath, hmore⟩ := Text.splitOn_append hfree path.toList
  have hpieces : pieces path = before.map String.ofList ++ [String.ofList last] := by
    rw [pieces, hpath, List.map_append, List.map_singleton]
  have hbeside : pieces (besidePath path)
      = before.map String.ofList ++ [String.ofList last ++ ".tmp"] := by
    rw [pieces, besidePath, String.toList_append, hmore, List.map_append, List.map_singleton,
      String.ofList_append]
    rfl
  rw [ofText] at h
  split at h
  · cases h
  · next hpath =>
    obtain rfl := Option.some.inj h
    dsimp only
    have hnonempty : path.toList ≠ [] := by simpa using hpath
    have hfull : ¬ (besidePath path).isEmpty = true := by simp [besidePath]
    have hroot : (besidePath path).toList.head? = path.toList.head? := by
      obtain ⟨first, rest, htext⟩ := List.exists_cons_of_ne_nil hnonempty
      rw [besidePath, String.toList_append, htext]
      rfl
    have hlong : ∀ short : String, short.toList.length < 4 →
        String.ofList last ++ ".tmp" ≠ short := fun _ hshort =>
      Registry.append_tmp_ne (by omega)
    refine ⟨(before.map String.ofList).filter fun part => part != "" && part != ".",
      String.ofList last, ?_, ?_⟩
    · rw [hpieces, List.getLast?_concat, List.filter_append]
      by_cases hname : String.ofList last = "" ∨ String.ofList last = "."
      · exact .inr (by rcases hname with hname | hname <;> simp [hname])
      · -- the last part is a name, and so it is with more at its end
        rw [not_or] at hname
        refine .inl ⟨by simp [hname], ?_⟩
        rw [List.filter_cons_of_pos (by simp [hname]), List.filter_nil]
    · rw [ofText, if_neg hfull]
      dsimp only
      rw [hbeside, hroot, List.filter_append, List.filter_cons_of_pos, List.filter_nil,
        List.getLast?_concat]
      · simp [hlong]
      · simp [hlong]

/-- The place above a place is not below one that is in it. -/
theorem Disk.not_prefix_above {place : FilePlace} {name : String} (hname : name ≠ "..") :
    ¬ place ++ [name] <+: above place := by
  rw [above]
  split
  · intro hbelow
    have hsame := List.append_cancel_left (hbelow.eq_of_length (by simp))
    exact hname (List.singleton_inj.mp hsame)
  · intro hbelow
    -- neither the root nor what is shorter is in the place
    have hlength := hbelow.length_le
    rw [List.length_append, List.length_singleton] at hlength
    split at hlength
    · omega
    · rw [List.length_dropLast] at hlength
      omega

/-- **A file is not below the one beside it**, whatever its path means. -/
theorem FilePath.not_prefix_of_beside {path : String} {beside own : FilePlace}
    (hbeside : beside ∈ placeOf (besidePath path)) (hown : own ∈ placeOf path) :
    ¬ beside <+: own := by
  obtain ⟨p, hpath, rfl⟩ := Option.map_eq_some_iff.mp hown
  obtain ⟨before, last, hparts, hmore⟩ := ofText_besidePath hpath
  obtain ⟨ps, hps, rfl⟩ := Option.map_eq_some_iff.mp hbeside
  obtain rfl := Option.some.inj (hmore.symm.trans hps)
  have hup : last ++ ".tmp" ≠ ".." := Registry.append_tmp_ne (by simp)
  -- the file beside is in the directory that the other one is in, or is
  have hplace : (⟨p.absolute, before ++ [last ++ ".tmp"], false⟩ : FilePath).place
      = Disk.follow p.start before ++ [last ++ ".tmp"] := by
    rw [place, Disk.follow_append, Disk.follow, Disk.follow, if_neg (by simpa using hup)]
    rfl
  rw [hplace, place]
  rcases hparts with ⟨-, hparts⟩ | ⟨-, hparts⟩
  · rw [hparts, Disk.follow_append, Disk.follow, Disk.follow]
    split
    · exact Disk.not_prefix_above hup
    · intro hbelow
      have hname := List.append_cancel_left (hbelow.eq_of_length (by simp))
      exact Registry.append_tmp_ne (by omega) (List.singleton_inj.mp hname)
  · intro hbelow
    have hlength := hbelow.length_le
    rw [hparts, List.length_append, List.length_singleton] at hlength
    omega

namespace Disk

variable {d d' : Disk} {path : String} {octets : List UInt8}

/-- **A file beside another is at another place.** -/
theorem locateText_besidePath_ne {p ps : FilePath} {place origin : FilePlace}
    (h : d.locateText path = .ok (p, place))
    (hbeside : d.locateText (besidePath path) = .ok (ps, origin)) : place ≠ origin := by
  rintro rfl
  exact FilePath.not_prefix_of_beside (placeOf_of_locateText hbeside) (placeOf_of_locateText h)
    (List.prefix_refl _)

/-- **Once a file beside another was moved into place, there is none left to be moved.** -/
theorem move_beside_of_moved (hbeside : d.find (besidePath path) = .ok (.file octets))
    (hmove : d.move (besidePath path) path = .ok d') (d'' : Disk) :
    d'.move (besidePath path) path ≠ .ok d'' := by
  obtain ⟨ps, origin, horigin, hfile, -⟩ := find_eq_file_iff.mp hbeside
  obtain ⟨p, place, hlocate, -, hplace, rfl, hkeeps⟩ := move_eq_ok horigin hbeside hmove
  have hne := locateText_besidePath_ne hlocate horigin
  have hgone : ((d.take origin).put place (.file octets)).at? origin = none := by
    rw [at?_put_of_ne hne.symm, at?_of_ne_directory (d := d) (by simp [hfile]), lookup_take,
      if_pos rfl]
  have hnone : ((d.take origin).put place (.file octets)).find (besidePath path)
      = .error .notFound := by
    rw [find, locateText_of_keeps hkeeps horigin]
    simp only [bind, Except.bind, hgone]
    rfl
  intro h
  rw [move, hnone] at h
  cases h

/-! ## Trees that grow -/

/-- **Whether a tree has only grown by directories**: every place is as it was, or a
directory was made where nothing was. -/
def Grows (d d' : Disk) : Prop :=
  ∀ place, d'.at? place = d.at? place ∨ d.at? place = none ∧ d'.at? place = some .directory

/-- A tree that stays as it is has not grown. -/
theorem Grows.refl (d : Disk) : d.Grows d := fun _ => .inl rfl

/-- A tree that grows may grow again. -/
theorem Grows.trans {between : Disk} (h : d.Grows between) (hmore : between.Grows d') :
    d.Grows d' := by
  intro place
  rcases h place with hsame | ⟨hnone, hmade⟩
  · exact hsame ▸ hmore place
  · rcases hmore place with hsame | ⟨hnone', -⟩
    · exact .inr ⟨hnone, hsame.trans hmade⟩
    · cases hmade.symm.trans hnone'

/-- What is there stays in a tree that grows. -/
theorem Grows.at?_eq (h : d.Grows d') {place : FilePlace} {entry : FileEntry}
    (hentry : d.at? place = some entry) : d'.at? place = some entry := by
  rcases h place with hsame | ⟨hnone, -⟩
  · exact hsame.trans hentry
  · cases hentry.symm.trans hnone

/-- Directories stay in a tree that grows. -/
theorem Grows.keeps (h : d.Grows d') : d.Keeps d' := fun _ => h.at?_eq

/-- **A file is found as before** in a tree that has grown. -/
theorem Grows.find_file (h : d.Grows d') (hfile : d.find path = .ok (.file octets)) :
    d'.find path = .ok (.file octets) := by
  obtain ⟨p, place, hlocate, hthere, hslashed⟩ := find_eq_file_iff.mp hfile
  exact find_eq_file_iff.mpr ⟨p, place, locateText_of_keeps h.keeps hlocate, h.at?_eq hthere,
    hslashed⟩

/-- A tree that was touched by nothing but directories has grown. -/
theorem Touches.grows {way : List FilePlace} (h : Touches way [] d d') : d.Grows d' := by
  intro place
  rcases h place with hsame | ⟨hfile, -⟩ | ⟨-, hmade⟩
  · exact .inl hsame
  · cases hfile
  · exact .inr hmade

/-- **A tree in which directories are made grows.** -/
theorem grows_makeDirectoriesFrom {absolute : Bool} {parts : List String}
    (h : makeDirectoriesFrom absolute parts d = .ok d') : d.Grows d' :=
  (touches_makeDirectoriesFrom h fun _ hbefore => List.mem_map_of_mem
    (f := fun before => (⟨absolute, before, false⟩ : FilePath).place)
    ((List.mem_inits _ _).mpr hbefore)).grows

/-! ## Paths that nobody has come to -/

/-- **Whether nobody has come to the file of a path**: the path leads where it led, and
there is what there was, or else a directory. -/
def Undisturbed (path : String) (d d' : Disk) : Prop :=
  ∃ p place, d.locateText path = .ok (p, place) ∧ d'.locateText path = .ok (p, place)
    ∧ p.slashed = false ∧ (d'.at? place = d.at? place ∨ d'.at? place = some .directory)

/-- At first nobody has come to it. -/
theorem Undisturbed.refl {p : FilePath} {place : FilePlace}
    (h : d.locateText path = .ok (p, place)) (hslashed : p.slashed = false) :
    Undisturbed path d d :=
  ⟨p, place, h, h, hslashed, .inl rfl⟩

/-- Making directories does not come to a file. -/
theorem Undisturbed.grows {between : Disk} (h : Undisturbed path d between)
    (hgrows : between.Grows d') : Undisturbed path d d' := by
  obtain ⟨p, place, hlocate, hlocate', hslashed, hthere⟩ := h
  refine ⟨p, place, hlocate, locateText_of_keeps hgrows.keeps hlocate', hslashed, ?_⟩
  rcases hgrows place with hsame | ⟨-, hmade⟩
  · rwa [hsame]
  · exact .inr hmade

/-- Writing beside a file does not come to the file. -/
theorem Undisturbed.write {between : Disk} (h : Undisturbed path d between)
    (hwrite : between.write (besidePath path) octets = .ok d') : Undisturbed path d d' := by
  obtain ⟨p, place, hlocate, hlocate', hslashed, hthere⟩ := h
  obtain ⟨ps, origin, hbeside, horigin, -, rfl⟩ := write_eq_ok hwrite
  have hne := locateText_besidePath_ne hlocate' hbeside
  refine ⟨p, place, hlocate, locateText_of_keeps (keeps_put horigin _) hlocate', hslashed, ?_⟩
  rwa [at?_put_of_ne hne]

/-- **The path of a file that nobody has come to** leads to what it led to, or to a
directory. -/
theorem Undisturbed.find_eq (h : Undisturbed path d d') :
    d'.find path = d.find path ∨ d'.find path = .ok .directory := by
  obtain ⟨p, place, hlocate, hlocate', -, hthere | hthere⟩ := h
  · exact .inl (by rw [find, find, hlocate, hlocate']; simp only [bind, Except.bind, hthere])
  · exact .inr (by rw [find, hlocate']; simp only [bind, Except.bind, hthere]; rfl)

end Disk

/-- **A registry that is loaded from a file that nobody has come to** is the one that was
there. -/
theorem Registry.load_of_undisturbed {d d' : Disk} {path : String} {r : Registry}
    (h : Disk.Undisturbed path d d') (hload : load d' path = .ok r) : load d path = .ok r := by
  rcases h.find_eq with hsame | hmade
  · rwa [load, Disk.read, ← hsame]
  · rw [load, Disk.read, hmade] at hload
    cases hload

end GraphGateway
