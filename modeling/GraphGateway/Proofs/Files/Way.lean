import GraphGateway.Proofs.Files.Disk
import Mathlib.Data.List.Infix

/-!
# Where paths lead in trees that change

The place that a path leads to can be told from its parts alone (`FilePath.place`), and
so can the places that it passes (`FilePath.way`). What depends on the tree is whether it
gets there: each place on the way has to be a directory.

So it can be said of a change which places it comes to. `Disk.Touches way files` is for
changes that make directories at some places where nothing was, and work on files at
others. Such a change is not seen along a path that leads to none of these places, nor
past one of the files. But a path may have failed before, at a directory that is made
then, and then it must not matter what is behind: nothing is there in a tree
(`Disk.IsTree`), and the path must not lead back out of the missing directory, or have
names that no file can have (`Disk.IsSettled`). Then whatever is found along the path is
found as before (`Disk.find_of_touches`).
-/

namespace GraphGateway

namespace Disk

/-! ## Places from parts -/

/-- The place that some parts name, from a place on. -/
def follow (place : FilePlace) : List String → FilePlace
  | [] => place
  | part :: rest => follow (if part == ".." then above place else place ++ [part]) rest

/-- Some parts are followed behind others. -/
theorem follow_append (place : FilePlace) (first rest : List String) :
    follow place (first ++ rest) = follow (follow place first) rest := by
  induction first generalizing place with
  | nil => rfl
  | cons part first ih => exact ih _

/-- Names lead downwards. -/
theorem follow_of_names {place : FilePlace} {names : List String}
    (h : ∀ part ∈ names, part ≠ "..") : follow place names = place ++ names := by
  induction names generalizing place with
  | nil => rw [follow, List.append_nil]
  | cons part rest ih =>
    obtain ⟨hpart, hrest⟩ := List.forall_mem_cons.mp h
    rw [follow, if_neg (by simpa using hpart), ih hrest, List.append_assoc, List.singleton_append]

/-- **A walk that gets to its end** is at the place that the parts name. -/
theorem follow_of_walk {d : Disk} {start place : FilePlace} {parts : List String}
    (h : d.walk start parts = .ok place) : place = follow start parts := by
  induction parts generalizing start with
  | nil => exact (Except.ok.inj h).symm
  | cons part rest ih =>
    rw [walk] at h
    split at h
    · cases h
    · cases h
    · split at h
      · cases h
      · exact ih h

end Disk

namespace FilePath

/-- Where a path starts. -/
def start (p : FilePath) : FilePlace := if p.absolute then ["/"] else []

/-- **The place that a path names.** -/
def place (p : FilePath) : FilePlace := Disk.follow p.start p.parts

/-- **The places that a path passes.** -/
def way (p : FilePath) : List FilePlace := p.parts.dropLast.inits.map (Disk.follow p.start)

/-- The place that a text names as a path. -/
def placeOf (path : String) : Option FilePlace := (ofText path).map place

/-- The places that a text passes as a path. -/
def wayOf (path : String) : List FilePlace := ((ofText path).map way).getD []

end FilePath

namespace Disk

variable {d d' between : Disk} {way files : List FilePlace}

/-! ## What a change comes to -/

/-- **Whether a change comes to no other places**: it may have made directories at the places
`way` where nothing was, and it may have worked on what is no directory at the places
`files`. -/
def Touches (way files : List FilePlace) (d d' : Disk) : Prop :=
  ∀ place, d'.at? place = d.at? place
    ∨ place ∈ files ∧ d.at? place ≠ some .directory
    ∨ place ∈ way ∧ d.at? place = none ∧ d'.at? place = some .directory

namespace Touches

/-- A tree that stays as it is was not touched. -/
theorem refl (way files : List FilePlace) (d : Disk) : Touches way files d d := fun _ => .inl rfl

/-- **One change after another.** -/
theorem trans (h : Touches way files d between) (hmore : Touches way files between d') :
    Touches way files d d' := by
  intro place
  rcases h place with hsame | hfile | ⟨hway, hnone, hmade⟩
  · exact hsame ▸ hmore place
  · exact .inr (.inl hfile)
  · -- what was made is a directory, and no change comes to one
    rcases hmore place with hsame | ⟨-, hne⟩ | ⟨-, hnone', -⟩
    · exact .inr (.inr ⟨hway, hnone, hsame.trans hmade⟩)
    · exact absurd hmade hne
    · cases hmade.symm.trans hnone'

/-- A change that comes to fewer places. -/
theorem mono {way' files' : List FilePlace} (h : Touches way files d d') (hway : way ⊆ way')
    (hfiles : files ⊆ files') : Touches way' files' d d' := fun place =>
  (h place).imp_right (Or.imp (And.imp_left fun hmem => hfiles hmem)
    (And.imp_left fun hmem => hway hmem))

/-- A change works on no directory. -/
theorem narrow (h : Touches way files d d') :
    Touches way (files.filter fun place => d.at? place != some .directory) d d' := fun place =>
  (h place).imp_right (Or.imp_left fun ⟨hmem, hne⟩ =>
    ⟨List.mem_filter.mpr ⟨hmem, bne_iff_ne.mpr hne⟩, hne⟩)

/-- Putting a file in place of what is no directory. -/
theorem put {place : FilePlace} (h : d.at? place ≠ some .directory) (hplace : place ∈ files)
    (octets : List UInt8) : Touches way files d (d.put place (.file octets)) := by
  intro other
  by_cases hother : other = place
  · subst hother
    exact .inr (.inl ⟨hplace, h⟩)
  · exact .inl (at?_put_of_ne hother _)

/-- Taking away what is no directory. -/
theorem take {place : FilePlace} (h : d.at? place ≠ some .directory) (hplace : place ∈ files) :
    Touches way files d (d.take place) := by
  intro other
  by_cases hother : other = place
  · subst hother
    exact .inr (.inl ⟨hplace, h⟩)
  · exact .inl (at?_take_of_ne hother)

/-- Directories stay. -/
theorem keeps (h : Touches way files d d') : d.Keeps d' := by
  intro place hplace
  rcases h place with hsame | ⟨-, hne⟩ | ⟨-, -, hmade⟩
  · exact hsame.trans hplace
  · exact absurd hplace hne
  · exact hmade

end Touches

/-! ## Directories that are made -/

/-- A directory is made at the place of its path, where nothing was. -/
theorem touches_makeDirectory {path : FilePath} (h : d.makeDirectory path = .ok d')
    (hplace : path.place ∈ way) : Touches way files d d' := by
  obtain ⟨place, hlocate, h⟩ := bind_eq_ok h
  split at h
  · cases h
  · next hnone =>
    obtain rfl := Except.ok.inj h
    rw [locate] at hlocate
    split at hlocate
    · cases hlocate
    · obtain rfl : place = path.place := follow_of_walk hlocate
      intro other
      by_cases hother : other = path.place
      · subst hother
        exact .inr (.inr ⟨hplace, hnone, at?_put_self (d := d) (by simp [hnone]) _ _⟩)
      · exact .inl (at?_put_of_ne hother _)

/-- A directory is made, or was there. -/
theorem touches_ensureDirectory {path : FilePath} (h : d.ensureDirectory path = .ok d')
    (hplace : path.place ∈ way) : Touches way files d d' := by
  rw [ensureDirectory] at h
  split at h
  · next hmade => exact Except.ok.inj h ▸ touches_makeDirectory hmade hplace
  · split at h
    · exact Except.ok.inj h ▸ .refl _ _ d
    · cases h

/-- **Making directories** comes to the places that their path passes. -/
theorem touches_makeDirectoriesFrom {absolute : Bool} {parts : List String}
    (h : makeDirectoriesFrom absolute parts d = .ok d')
    (hway : ∀ before, before <+: parts.reverse →
      (⟨absolute, before, false⟩ : FilePath).place ∈ way) :
    Touches way files d d' := by
  induction parts generalizing d d' with
  | nil => exact Except.ok.inj h ▸ .refl _ _ d
  | cons last before ih =>
    have hlast := hway _ (List.prefix_refl _)
    rw [makeDirectoriesFrom] at h
    split at h
    · next hmade => exact Except.ok.inj h ▸ touches_ensureDirectory hmade hlast
    · obtain ⟨between, hbefore, hmade⟩ := bind_eq_ok h
      refine (ih hbefore fun first hfirst => hway first ?_).trans
        (touches_ensureDirectory hmade hlast)
      exact hfirst.trans (List.reverse_cons ▸ List.prefix_append _ _)
    · cases h

/-! ## Files that are written and moved -/

/-- The way that a text leads as a path. -/
theorem walk_of_locateText {path : String} {p : FilePath} {place : FilePlace}
    (h : d.locateText path = .ok (p, place)) :
    FilePath.ofText path = some p ∧ d.walk p.start p.parts = .ok place := by
  rw [locateText] at h
  split at h
  · cases h
  · next found hfound =>
    obtain ⟨reached, hlocate, hpair⟩ := map_eq_ok h
    obtain ⟨rfl, rfl⟩ := Prod.mk.inj hpair
    rw [locate] at hlocate
    split at hlocate
    · cases hlocate
    · exact ⟨hfound, hlocate⟩

/-- A path that leads somewhere leads to the place that it names. -/
theorem placeOf_of_locateText {path : String} {p : FilePath} {place : FilePlace}
    (h : d.locateText path = .ok (p, place)) : FilePath.placeOf path = some place := by
  obtain ⟨hpath, hwalk⟩ := walk_of_locateText h
  rw [FilePath.placeOf, hpath, Option.map_some, FilePath.place, ← follow_of_walk hwalk]

/-- **Writing a file** comes to its place. -/
theorem touches_write {path : String} {octets : List UInt8} (h : d.write path octets = .ok d')
    (hfiles : (FilePath.placeOf path).toList ⊆ files) : Touches way files d d' := by
  obtain ⟨p, place, hlocate, hplace, -, rfl⟩ := write_eq_ok h
  exact .put hplace (hfiles (by simp [placeOf_of_locateText hlocate])) _

/-- **Moving a file** comes to the places that it is moved from and to. -/
theorem touches_move {source target : String} {octets : List UInt8}
    (hsource : d.find source = .ok (.file octets)) (h : d.move source target = .ok d')
    (hsources : (FilePath.placeOf source).toList ⊆ files)
    (htargets : (FilePath.placeOf target).toList ⊆ files) : Touches way files d d' := by
  obtain ⟨ps, origin, horigin, hfile, -⟩ := find_eq_file_iff.mp hsource
  obtain ⟨p, place, hlocate, -, hplace, rfl, -⟩ := move_eq_ok horigin hsource h
  have horigin' : d.at? origin ≠ some .directory := by simp [hfile]
  have htake : Touches way files d (d.take origin) :=
    .take horigin' (hsources (by simp [placeOf_of_locateText horigin]))
  refine htake.trans (.put ?_ (htargets (by simp [placeOf_of_locateText hlocate])) _)
  rw [at?_of_ne_directory hplace, lookup_take]
  split
  · nofun
  · exact at?_of_ne_directory hplace d ▸ hplace

/-! ## What is found along a path -/

/-- **Whether everything is in a directory.** -/
def IsTree (d : Disk) : Prop := ∀ entry ∈ d.entries, d.at? entry.1.dropLast = some .directory

/-- Of any list of entries it can be told. -/
instance (d : Disk) : Decidable d.IsTree := inferInstanceAs (Decidable (∀ entry ∈ d.entries, _))

/-- **Nothing is in what is no directory.** -/
theorem IsTree.at?_eq_none (h : d.IsTree) {place : FilePlace}
    (hplace : d.at? place ≠ some .directory) (name : String) : d.at? (place ++ [name]) = none := by
  have hfixed : ¬ (place.all (· == "..") || place == ["/"]) = true := fun hfixed =>
    hplace (if_pos hfixed)
  rw [Bool.or_eq_true, not_or] at hfixed
  rw [at?, if_neg, Option.eq_none_iff_forall_ne_some]
  · intro entry hentry
    obtain ⟨before, behind, hsplit, -⟩ := List.lookup_eq_some_iff.mp hentry
    have hin := h (place ++ [name], entry) (by simp [hsplit])
    exact hplace (by simpa using hin)
  · rw [Bool.or_eq_true, not_or]
    constructor
    · rw [List.all_append, Bool.and_eq_true, not_and_or]
      exact .inl hfixed.1
    · cases place with
      | nil => exact absurd rfl hfixed.1
      | cons first rest => cases rest <;> simp

/-- Nothing is behind what is missing. -/
theorem IsTree.at?_append_eq_none (h : d.IsTree) {place : FilePlace} (hplace : d.at? place = none)
    (names : List String) : d.at? (place ++ names) = none := by
  induction names generalizing place with
  | nil => rwa [List.append_nil]
  | cons name rest ih =>
    rw [List.append_cons]
    exact ih (h.at?_eq_none (by simp [hplace]) name)

/-- **Whether a path stays where it is** while directories are made: behind a directory that
is missing it does not lead upwards, and has no name that no file can have. -/
def settles (d : Disk) (place : FilePlace) : List String → Bool
  | [] => true
  | part :: rest =>
    match d.at? place with
    | some .directory => longestName < part.utf8ByteSize
      || d.settles (if part == ".." then above place else place ++ [part]) rest
    | some (.file _) => (part :: rest).all (· != "..")
    | none => (part :: rest).all fun part => part != ".." && part.utf8ByteSize ≤ longestName

/-- Whether a text does as a path. -/
def IsSettled (d : Disk) (path : String) : Prop :=
  ∀ p, FilePath.ofText path = some p → d.settles p.start p.parts = true

/-- Of a text it can be told. -/
instance (d : Disk) (path : String) : Decidable (d.IsSettled path) :=
  inferInstanceAs (Decidable (∀ p ∈ FilePath.ofText path, _))

/-- The directory that a path starts in is there. -/
theorem at?_start (d : Disk) (p : FilePath) : d.at? p.start = some .directory := by
  rw [FilePath.start, at?]
  cases p.absolute <;> rfl

/-- **A path does not end at a missing directory that it passes**, if it settles. -/
theorem at?_follow_ne_none {start : FilePlace} {parts before : List String}
    (hsettles : d.settles start parts = true) (hshort : d.walk start parts ≠ .error .longName)
    (hbefore : before <+: parts) (hne : before ≠ parts)
    (hsame : follow start before = follow start parts) : d.at? (follow start parts) ≠ none := by
  induction parts generalizing start before with
  | nil => exact absurd (List.prefix_nil.mp hbefore) hne
  | cons part rest ih =>
    by_cases hstart : d.at? start = some .directory
    · cases before with
      | nil =>
        rw [← hsame, follow, hstart]
        nofun
      | cons first before =>
        obtain ⟨rfl, hrest⟩ := List.cons_prefix_cons.mp hbefore
        rw [settles, hstart] at hsettles
        rw [walk, hstart] at hshort
        dsimp only at hsettles hshort
        rw [Bool.or_eq_true, decide_eq_true_eq] at hsettles
        split at hshort
        · exact absurd rfl hshort
        · next hlong =>
          exact ih (hsettles.resolve_left hlong) hshort hrest (fun h => hne (h ▸ rfl)) hsame
    · -- there are names only from here on, and fewer of them lead to another place
      have hnames : ∀ name ∈ part :: rest, name ≠ ".." := by
        intro name hname
        rw [settles] at hsettles
        split at hsettles
        · next hdirectory => exact absurd hdirectory hstart
        · simpa using List.all_eq_true.mp hsettles name hname
        · simpa using (Bool.and_eq_true_iff.mp (List.all_eq_true.mp hsettles name hname)).1
      rw [follow_of_names hnames,
        follow_of_names fun name hname => hnames name (hbefore.subset hname)] at hsame
      exact absurd (List.append_cancel_left hsame) hne

/-- **A path that passes its own place** on the way does not end at a missing directory, if it
settles. -/
theorem at?_place_ne_none {p : FilePath} (hsettles : d.settles p.start p.parts = true)
    (hshort : d.walk p.start p.parts ≠ .error .longName) (hway : p.place ∈ p.way) :
    d.at? p.place ≠ none := by
  obtain ⟨before, hbefore, hsame⟩ := List.mem_map.mp hway
  rw [List.mem_inits] at hbefore
  by_cases hparts : p.parts = []
  · rw [FilePath.place, hparts, follow, at?_start]
    nofun
  · refine at?_follow_ne_none hsettles hshort (hbefore.trans (List.dropLast_prefix _)) ?_ hsame
    rintro rfl
    have hlength := hbefore.length_le
    rw [List.length_dropLast] at hlength
    have := List.length_pos_of_ne_nil hparts
    omega

/-- What is found along some parts, from a place on. -/
def foundFrom (d : Disk) (start : FilePlace) (parts : List String) :
    Except FileFailure FileEntry := do
  match d.at? (← d.walk start parts) with
  | none => throw .notFound
  | some entry => return entry

/-- What is found along some parts is found from the first of them on. -/
theorem foundFrom_cons (d : Disk) (start : FilePlace) (part : String) (rest : List String) :
    d.foundFrom start (part :: rest) = match d.at? start with
      | none => .error .notFound
      | some (.file _) => .error .notDirectory
      | some .directory =>
        if part.utf8ByteSize > longestName then .error .longName
        else d.foundFrom (if part == ".." then above start else start ++ [part]) rest := by
  rw [foundFrom, walk]
  cases d.at? start with
  | none => rfl
  | some entry =>
    cases entry with
    | file octets => rfl
    | directory =>
      dsimp only
      split <;> rfl

/-- A path finds what is found along its parts, unless it means a directory. -/
theorem find_eq {path : String} {p : FilePath} (h : FilePath.ofText path = some p) :
    d.find path = if p.parts.any fun part => part.toList.contains '\x00' then .error .badName
      else (d.foundFrom p.start p.parts).bind fun
        | .file octets => if p.slashed then .error .notDirectory else .ok (.file octets)
        | .directory => .ok .directory := by
  rw [find, locateText, h]
  dsimp only
  rw [locate]
  split
  · rfl
  · rw [foundFrom]
    show ((d.walk p.start p.parts).map _).bind _ = (Except.bind _ _).bind _
    cases d.walk p.start p.parts with
    | error e => rfl
    | ok place =>
      simp only [Except.map, Except.bind]
      cases d.at? place with
      | none => rfl
      | some entry => cases entry <;> rfl

/-- **Nothing is found behind a missing directory**, also if it was made: names lead to what
nobody has come to. -/
theorem foundFrom_missing (htree : d.IsTree) (h : Touches way files d d') {start : FilePlace}
    {names : List String} (hstart : d.at? start = none)
    (hnames : (names.all fun part => part != ".." && part.utf8ByteSize ≤ longestName) = true)
    (hfiles : ∀ place ∈ files, ¬ place <+: start ++ names) (hway : start ++ names ∉ way) :
    d'.foundFrom start names = .error .notFound := by
  induction names generalizing start with
  | nil =>
    rw [List.append_nil] at hfiles hway
    have hnone : d'.at? start = none := by
      rcases h start with hsame | ⟨hfile, -⟩ | ⟨hmade, -, -⟩
      · exact hsame.trans hstart
      · exact absurd (List.prefix_refl _) (hfiles _ hfile)
      · exact absurd hmade hway
    rw [foundFrom]
    simp only [walk, bind, Except.bind, hnone]
    rfl
  | cons part rest ih =>
    rw [List.all_cons, Bool.and_eq_true, Bool.and_eq_true] at hnames
    obtain ⟨⟨hup, hshort⟩, hrest⟩ := hnames
    have happend : start ++ [part] ++ rest = start ++ part :: rest := by simp
    have hpart : d.at? (start ++ [part]) = none := htree.at?_eq_none (by simp [hstart]) part
    have hbehind := ih hpart hrest (by rwa [happend]) (by rwa [happend])
    rw [foundFrom_cons]
    rcases h start with hsame | ⟨hfile, -⟩ | ⟨-, -, hmade⟩
    · rw [hsame, hstart]
    · exact absurd (List.prefix_append _ _) (hfiles _ hfile)
    · -- the directory is there now, and what is in it is not
      rw [hmade]
      dsimp only
      rw [if_neg (by simpa using hshort), if_neg (by simpa using hup)]
      exact hbehind

/-- **What is found along some parts** is found as before, if they settle and lead to no
place that was touched. -/
theorem foundFrom_of_touches (htree : d.IsTree) (h : Touches way files d d') {start : FilePlace}
    {parts : List String} (hsettles : d.settles start parts = true)
    (hfiles : ∀ place ∈ files, ¬ place <+: follow start parts)
    (hway : follow start parts ∈ way → d.at? (follow start parts) ≠ none) :
    d'.foundFrom start parts = d.foundFrom start parts := by
  induction parts generalizing start with
  | nil =>
    rw [follow] at hfiles hway
    have hsame : d'.at? start = d.at? start := by
      rcases h start with hsame | ⟨hfile, -⟩ | ⟨hmade, hnone, -⟩
      · exact hsame
      · exact absurd (List.prefix_refl _) (hfiles _ hfile)
      · exact absurd hnone (hway hmade)
    rw [foundFrom, foundFrom]
    simp only [walk, bind, Except.bind, hsame]
  | cons part rest ih =>
    rw [settles] at hsettles
    cases hstart : d.at? start with
    | none =>
      rw [hstart] at hsettles
      have hfollow : follow start (part :: rest) = start ++ part :: rest :=
        follow_of_names fun name hname => by
          simpa using (Bool.and_eq_true_iff.mp (List.all_eq_true.mp hsettles name hname)).1
      rw [hfollow] at hfiles hway
      rw [foundFrom_missing htree h hstart hsettles hfiles fun hmade =>
        hway hmade (htree.at?_append_eq_none hstart _), foundFrom_cons, hstart]
    | some entry =>
      cases entry with
      | file octets =>
        rw [hstart] at hsettles
        have hfollow : follow start (part :: rest) = start ++ part :: rest :=
          follow_of_names fun name hname => by simpa using (List.all_eq_true.mp hsettles name hname)
        have hsame : d'.at? start = some (.file octets) := by
          rcases h start with hsame | ⟨hfile, -⟩ | ⟨-, hnone, -⟩
          · exact hsame.trans hstart
          · exact absurd (hfollow ▸ List.prefix_append _ _) (hfiles _ hfile)
          · cases hstart.symm.trans hnone
        rw [foundFrom_cons, foundFrom_cons, hstart, hsame]
      | directory =>
        rw [hstart] at hsettles
        rw [foundFrom_cons, foundFrom_cons, hstart, h.keeps start hstart]
        dsimp only at hsettles ⊢
        rw [Bool.or_eq_true, decide_eq_true_eq] at hsettles
        by_cases hlong : part.utf8ByteSize > longestName
        · rw [if_pos hlong, if_pos hlong]
        · rw [if_neg hlong, if_neg hlong]
          exact ih (hsettles.resolve_left hlong) hfiles hway

/-- **What a path finds** stays as it is where a change comes to other places. -/
theorem find_of_touches (htree : d.IsTree) (h : Touches way files d d') {path : String}
    (hsettled : d.IsSettled path)
    (hfiles : ∀ place ∈ files, ∀ own ∈ FilePath.placeOf path, ¬ place <+: own)
    (hway : ∀ own ∈ FilePath.placeOf path, own ∈ way → d.at? own ≠ none) :
    d'.find path = d.find path := by
  cases hpath : FilePath.ofText path with
  | none =>
    rw [find, find, locateText, locateText, hpath]
    rfl
  | some p =>
    have hown : p.place ∈ FilePath.placeOf path := by simp [FilePath.placeOf, hpath]
    rw [find_eq hpath, find_eq hpath, foundFrom_of_touches htree h (hsettled p hpath)
      (fun place hplace => hfiles place hplace _ hown) (hway _ hown)]

end Disk

end GraphGateway
