import GraphGateway.Files.Step
import GraphGateway.Files.View
import GraphGateway.Proofs.Except
import GraphGateway.Proofs.Keyed
import GraphGateway.Proofs.Text.Utf8

/-!
# Files that were written are found

Putting a file at a place changes that place alone (`at?_put`), and no place
where a file can be put is a directory. So all directories stay, and a path
leads where it led before (`locateText_of_keeps`).

Hence a file that was written is found under its path (`find_write`), and a
file that was moved is found under the path that it was moved to
(`find_move`).
-/

namespace GraphGateway.Disk

open Keyed (lookup_cons_eq)

variable {d d' : Disk} {place : FilePlace}

/-! ## Places -/

/-- What is at a place that is no directory is in the list of entries, in any
tree. -/
theorem at?_of_ne_directory (h : d.at? place ≠ some .directory) (d' : Disk) :
    d'.at? place = d'.entries.lookup place := by
  rw [at?] at h ⊢
  split
  · next hfixed => exact absurd (if_pos hfixed) h
  · rfl

/-- What is in a list of entries, some of which were replaced. -/
theorem lookup_map_replace (place other : FilePlace) (entry : FileEntry)
    (entries : List (FilePlace × FileEntry)) :
    (entries.map fun old => if old.1 == place then (place, entry) else old).lookup other
      = if other = place then (entries.lookup place).map fun _ => entry
        else entries.lookup other := by
  induction entries with
  | nil => simp
  | cons first rest ih =>
    rw [List.map_cons, lookup_cons_eq, ih]
    simp only [lookup_cons_eq, beq_iff_eq]
    by_cases hfirst : first.1 = place
    · by_cases hother : other = place <;> simp [hfirst, hother]
    · by_cases hother : other = place
      · simp [hfirst, hother, Ne.symm hfirst]
      · simp [hfirst, hother]

/-- **Putting something at a place changes that place alone.** -/
theorem lookup_put (d : Disk) (place other : FilePlace) (entry : FileEntry) :
    (d.put place entry).entries.lookup other
      = if other = place then some entry else d.entries.lookup other := by
  rw [put]
  split
  · next h =>
    -- what was at the place is replaced, or else the entry is added
    obtain ⟨old, hold⟩ := Option.isSome_iff_exists.mp h
    rw [lookup_map_replace, hold]
    rfl
  · next h =>
    rw [List.lookup_append, lookup_cons_eq]
    by_cases hother : other = place
    · subst hother
      simp [Option.not_isSome_iff_eq_none.mp h]
    · simp [hother]

/-- **Taking away what is at a place changes that place alone.** -/
theorem lookup_take (d : Disk) (place other : FilePlace) :
    (d.take place).entries.lookup other
      = if other = place then none else d.entries.lookup other := by
  obtain ⟨entries⟩ := d
  rw [take]
  induction entries with
  | nil => simp
  | cons first rest ih =>
    by_cases hfirst : first.1 = place
    · rw [List.filter_cons_of_neg (by simp [hfirst]), ih, lookup_cons_eq, hfirst]
      by_cases hother : other = place <;> simp [hother]
    · rw [List.filter_cons_of_pos (by simp [hfirst]), lookup_cons_eq, ih, lookup_cons_eq]
      by_cases hother : other = place
      · simp [hother, Ne.symm hfirst]
      · simp [hother]

/-- What was put at a place that is no directory is there. -/
theorem at?_put_self (h : d.at? place ≠ some .directory) (d' : Disk) (entry : FileEntry) :
    (d'.put place entry).at? place = some entry := by
  rw [at?_of_ne_directory h, lookup_put, if_pos rfl]

/-- What is at another place stays. -/
theorem at?_put_of_ne {other : FilePlace} (h : other ≠ place) (entry : FileEntry) :
    (d.put place entry).at? other = d.at? other := by
  rw [at?, lookup_put, if_neg h, at?]

/-- What is at another place than the one that is taken away stays. -/
theorem at?_take_of_ne {other : FilePlace} (h : other ≠ place) :
    (d.take place).at? other = d.at? other := by
  rw [at?, lookup_take, if_neg h, at?]

/-! ## Ways -/

/-- **Whether all directories stay** from one tree to another. -/
def Keeps (d d' : Disk) : Prop := ∀ place, d.at? place = some .directory →
  d'.at? place = some .directory

/-- Putting something where no directory is keeps all directories. -/
theorem keeps_put (h : d.at? place ≠ some .directory) (entry : FileEntry) :
    d.Keeps (d.put place entry) := by
  intro other hother
  rw [at?_put_of_ne (by rintro rfl; exact h hother)]
  exact hother

/-- Taking away what is no directory keeps all directories. -/
theorem keeps_take (h : d.at? place ≠ some .directory) : d.Keeps (d.take place) := by
  intro other hother
  rw [at?_take_of_ne (by rintro rfl; exact h hother)]
  exact hother

/-- A walk that reaches its end passes directories alone, and reaches the same
end while they stay. -/
theorem walk_of_keeps (h : d.Keeps d') {parts : List String} {start : FilePlace}
    (hwalk : d.walk start parts = .ok place) : d'.walk start parts = .ok place := by
  induction parts generalizing start with
  | nil => exact hwalk
  | cons part rest ih =>
    rw [walk] at hwalk ⊢
    -- the walk goes on only from a directory, which is still there
    split at hwalk
    · cases hwalk
    · cases hwalk
    · next hstart =>
      rw [h start hstart]
      dsimp only
      split at hwalk
      · cases hwalk
      · next hshort =>
        rw [if_neg hshort]
        exact ih hwalk

/-- **A path leads where it led before** while the directories stay. -/
theorem locateText_of_keeps (h : d.Keeps d') {path : String} {p : FilePath}
    (hlocate : d.locateText path = .ok (p, place)) : d'.locateText path = .ok (p, place) := by
  rw [locateText] at hlocate ⊢
  split at hlocate
  · cases hlocate
  · next found hfound =>
    obtain ⟨reached, hend, hpair⟩ := map_eq_ok hlocate
    obtain ⟨rfl, rfl⟩ := Prod.mk.inj hpair
    rw [locate] at hend
    split at hend
    · cases hend
    · next hnames =>
      rw [locate, if_neg hnames, walk_of_keeps h hend]
      rfl

/-! ## Files -/

/-- **What it takes to find a file.** -/
theorem find_eq_file_iff {path : String} {octets : List UInt8} :
    d.find path = .ok (.file octets)
      ↔ ∃ p place, d.locateText path = .ok (p, place) ∧ d.at? place = some (.file octets)
        ∧ p.slashed = false := by
  constructor
  · intro h
    obtain ⟨⟨p, place⟩, hlocate, h⟩ := bind_eq_ok h
    refine ⟨p, place, hlocate, ?_⟩
    dsimp only at h
    split at h
    · cases h
    · next found hfound =>
      split at h
      · cases h
      · next hslashed =>
        obtain rfl := FileEntry.file.inj (Except.ok.inj h)
        exact ⟨hfound, by simpa using hslashed⟩
    · cases h
  · rintro ⟨p, place, hlocate, hfile, hslashed⟩
    rw [find, hlocate]
    simp only [bind, Except.bind, hfile, hslashed]
    rfl

/-- A file that is found is what is read. -/
theorem read_eq_of_find {path : String} {octets : List UInt8}
    (h : d.find path = .ok (.file octets)) : d.read path = .ok octets := by
  rw [read, h]
  rfl

/-- **What writing a file does**: it puts the file where its path leads, which
is no directory. -/
theorem write_eq_ok {path : String} {octets : List UInt8} (h : d.write path octets = .ok d') :
    ∃ p place, d.locateText path = .ok (p, place) ∧ d.at? place ≠ some .directory
      ∧ p.slashed = false ∧ d' = d.put place (.file octets) := by
  obtain ⟨⟨p, place⟩, hlocate, h⟩ := bind_eq_ok h
  refine ⟨p, place, hlocate, ?_⟩
  dsimp only at h
  split at h
  · split at h
    · cases h
    all_goals
      next hplace =>
      split at h
      · cases h
      · next hslashed =>
        exact ⟨by simp [hplace], by simpa using hslashed, (Except.ok.inj h).symm⟩
  · cases h

/-- **A file that was written is found.** -/
theorem find_write {path : String} {octets : List UInt8} (h : d.write path octets = .ok d') :
    d'.find path = .ok (.file octets) := by
  obtain ⟨p, place, hlocate, hplace, hslashed, rfl⟩ := write_eq_ok h
  exact find_eq_file_iff.mpr ⟨p, place, locateText_of_keeps (keeps_put hplace _) hlocate,
    at?_put_self hplace _ _, hslashed⟩

/-- **A text that was written is read.** -/
theorem readText_write {path text : String}
    (h : d.write path (Text.Utf8.encode text) = .ok d') : d'.view.readText path = .ok text := by
  have htext : (FileEntry.file (Text.Utf8.encode text)).text = .ok text := by
    rw [FileEntry.text, FileEntry.octets, ok_bind, Text.Utf8.decode?_encode]
    rfl
  rw [readText_view, find_write h, ok_bind, htext]

/-- **Whether a file can be written**, whatever is written. -/
def IsWritable (d : Disk) (path : String) : Prop :=
  ∃ octets d', d.write path octets = .ok d'

/-- Whether a file can be written does not depend on what is written. -/
theorem IsWritable.exists_write {path : String} (h : d.IsWritable path) (octets : List UInt8) :
    ∃ d', d.write path octets = .ok d' := by
  obtain ⟨before, d', h⟩ := h
  obtain ⟨⟨p, place⟩, hlocate, h⟩ := bind_eq_ok h
  rw [write, hlocate, ok_bind]
  dsimp only at h ⊢
  -- each step that `h` has taken is one of the goal as well
  split at h
  · split at h
    · cases h
    all_goals
      split at h
      · cases h
      · next hslashed =>
        refine ⟨d.put place (.file octets), ?_⟩
        rw [if_neg hslashed]
        rfl
  · cases h

/-- **What moving a file does**: it is taken away and put where the new path leads, which is
no directory. All directories stay. -/
theorem move_eq_ok {source target : String} {octets : List UInt8} {origin : FilePlace}
    {ps : FilePath} (horigin : d.locateText source = .ok (ps, origin))
    (hsource : d.find source = .ok (.file octets)) (h : d.move source target = .ok d') :
    ∃ p place, d.locateText target = .ok (p, place) ∧ p.slashed = false
      ∧ d.at? place ≠ some .directory ∧ d' = (d.take origin).put place (.file octets)
      ∧ d.Keeps d' := by
  obtain ⟨_, origin', horigin', hfile, -⟩ := find_eq_file_iff.mp hsource
  obtain ⟨-, rfl⟩ := Prod.mk.inj (Except.ok.inj (horigin.symm.trans horigin'))
  rw [move, hsource] at h
  obtain ⟨entry, hentry, h⟩ := bind_eq_ok h
  obtain rfl := Except.ok.inj hentry
  obtain ⟨⟨ps', origin'⟩, horigin', h⟩ := bind_eq_ok h
  -- the way that the move takes to its source is the one that found the file
  obtain ⟨-, rfl⟩ := Prod.mk.inj (Except.ok.inj (horigin.symm.trans horigin'))
  obtain ⟨⟨p, place⟩, hlocate, h⟩ := bind_eq_ok h
  dsimp only at h
  split at h
  · cases h
  · next hnone _ => cases hnone
  · next hplace _ =>
    split at h
    · cases h
    · next hslashed =>
      obtain rfl := Except.ok.inj h
      have hplace : d.at? place ≠ some .directory := fun hdirectory => hplace octets rfl hdirectory
      have horigin : d.at? origin ≠ some .directory := by simp [hfile]
      -- neither place is a directory, so the move keeps all of them
      have htake := keeps_take horigin
      have hplace' : (d.take origin).at? place ≠ some .directory := by
        rw [at?_of_ne_directory hplace, lookup_take]
        split
        · nofun
        · exact at?_of_ne_directory hplace d ▸ hplace
      exact ⟨p, place, hlocate, by simpa using hslashed, hplace, rfl, fun other hother =>
        keeps_put hplace' _ other (htake other hother)⟩

/-- **A file that was moved is found** under its new path. -/
theorem find_move {source target : String} {octets : List UInt8}
    (hsource : d.find source = .ok (.file octets)) (h : d.move source target = .ok d') :
    d'.find target = .ok (.file octets) := by
  obtain ⟨_, _, horigin, -⟩ := find_eq_file_iff.mp hsource
  obtain ⟨p, place, hlocate, hslashed, hplace, rfl, hkeeps⟩ := move_eq_ok horigin hsource h
  exact find_eq_file_iff.mpr ⟨p, place, locateText_of_keeps hkeeps hlocate,
    at?_put_self hplace _ _, hslashed⟩

end GraphGateway.Disk
