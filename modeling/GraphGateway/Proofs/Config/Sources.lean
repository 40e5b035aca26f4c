import GraphGateway.Config.File
import GraphGateway.Proofs.Config.Lines
import GraphGateway.Proofs.Except
import GraphGateway.Proofs.Number.Whole
import GraphGateway.Proofs.Text.Utf8

/-!
# Where a configuration comes from

Three sources say what a gateway runs with: the environment, a file, and what
holds where nothing is set. `ComesFrom` says of each setting which of them has
the word: the first that says something about it, and for the timeout and the
way to find fields the environment has none.

A source that cannot be used is not passed over. A file is chosen if it is
named, or else if one of the default name is found (`Chosen`), and a chosen
file that is no configuration file, cannot be read or does not decode
(`Unusable`) ends the loading; so does a variable that is set to something else
than a port (`NamesPort`). Nothing else ends it (`neverFallsBack_load`).

That the default name is not found has to mean that nothing is there. The look-up
can also fail for another reason, such as a directory that may not be searched, and
of what is loaded then `Chosen` says nothing: no file has been chosen, and none has
been found missing.
-/

namespace GraphGateway

open Yaml (Line)

/-! ## The environment -/

/-- **Whether a text names a port**: digits of base ten, before which a plus
sign may stand. No port has more than 16 bits. -/
def NamesPort (text : String) (port : UInt16) : Prop :=
  ∃ digits, (text.toList = digits ∨ text.toList = '+' :: digits)
    ∧ Whole.Numeral digits port.toNat

namespace Settings

/-- **A port is read from the texts that name it.** -/
theorem readPort_eq_ok_iff {text : String} {port : UInt16} :
    readPort text = .ok port ↔ NamesPort text port := by
  have hread (n : Nat) : Whole.read 65535 text.toList = .ok n ↔
      ∃ digits, (text.toList = digits ∨ text.toList = '+' :: digits) ∧ Whole.Numeral digits n
        ∧ n ≤ 65535 := Whole.read_eq_ok_iff
  rw [readPort]
  constructor
  · intro h
    split at h
    · next n hn =>
      obtain ⟨digits, htext, hnumeral, hle⟩ := (hread n).mp hn
      obtain rfl := Except.ok.inj h
      have hport : n.toUInt16.toNat = n := UInt16.toNat_ofNat_of_lt' (Nat.lt_succ_of_le hle)
      exact ⟨digits, htext, hport.symm ▸ hnumeral⟩
    · cases h
  · rintro ⟨digits, htext, hnumeral⟩
    have hle : port.toNat ≤ 65535 := Nat.le_of_lt_succ port.toNat_lt
    rw [(hread _).mpr ⟨digits, htext, hnumeral, hle⟩]
    exact congrArg Except.ok UInt16.ofNat_toNat

/-- What is said of the port is read if it names one. -/
theorem mapM_readPort_eq_ok_iff {text? : Option String} {port? : Option UInt16} :
    text?.mapM readPort = .ok port? ↔ Option.Rel NamesPort text? port? := by
  cases text? with
  | none =>
    rw [Option.mapM_none]
    constructor
    · intro h
      obtain rfl := Except.ok.inj h
      exact .none
    · intro h
      cases h
      rfl
  | some text =>
    rw [Option.mapM_some]
    constructor
    · intro h
      obtain ⟨port, hport, rfl⟩ := map_eq_ok h
      exact .some (readPort_eq_ok_iff.mp hport)
    · intro h
      cases h with
      | some h =>
        rw [readPort_eq_ok_iff.mpr h]
        rfl

/-- **What the environment says**: each of three texts that is set, and the port
that the fourth names. -/
theorem ofEnvironment_eq_ok_iff {env : Environment} {s : Settings} :
    ofEnvironment env = .ok s
      ↔ ∃ port, Option.Rel NamesPort (env "KASTQL_PORT") port
        ∧ s = ⟨env "KASTQL_REGISTRY_FILE", env "KASTQL_LOG_LEVEL", env "KASTQL_HOST", port,
          none, none⟩ := by
  constructor
  · intro h
    obtain ⟨port, hport, hs⟩ := bind_eq_ok h
    exact ⟨port, mapM_readPort_eq_ok_iff.mp hport, (Except.ok.inj hs).symm⟩
  · rintro ⟨port, hport, rfl⟩
    rw [ofEnvironment, mapM_readPort_eq_ok_iff.mpr hport]
    rfl

/-- The environment cannot be used if the port is set to something that names
none. -/
theorem ofEnvironment_fails_iff {env : Environment} :
    (∃ e, ofEnvironment env = .error e)
      ↔ ∃ text ∈ env "KASTQL_PORT", ∀ port, ¬ NamesPort text port := by
  constructor
  · rintro ⟨e, he⟩
    cases htext : env "KASTQL_PORT" with
    | none =>
      rw [ofEnvironment, htext] at he
      cases he
    | some text =>
      refine ⟨text, rfl, fun port hport => ?_⟩
      have hset : Option.Rel NamesPort (env "KASTQL_PORT") (some port) := htext ▸ .some hport
      cases he.symm.trans (ofEnvironment_eq_ok_iff.mpr ⟨some port, hset, rfl⟩)
  · rintro ⟨text, htext, hnone⟩
    cases hresult : ofEnvironment env with
    | error e => exact ⟨e, rfl⟩
    | ok s =>
      obtain ⟨port, hport, -⟩ := ofEnvironment_eq_ok_iff.mp hresult
      rw [Option.mem_def.mp htext] at hport
      cases hport with
      | some h => exact absurd h (hnone _)

/-! ## The file -/

/-- **Whether a name is that of a configuration file.** -/
def IsFileName (path : String) : Prop :=
  ∃ e ∈ ["yaml", "yml", "json"], FilePath.extension? path = some e

/-- **What a configuration file says.** -/
structure FileSays (v : FileView) (path : String) (s : Settings) : Prop where
  /-- Its name is that of a configuration file. -/
  isFileName : IsFileName path
  /-- It can be read as a text, which decodes. -/
  decoded : ∃ text, v.read path = .ok (Text.Utf8.encode text) ∧ ofYaml text = .ok s

/-- **Why a file cannot be used.** -/
inductive Unusable (v : FileView) (path : String) : Prop where
  /-- Its name is not that of a configuration file. -/
  | name (h : ¬ IsFileName path)
  /-- It cannot be read. -/
  | unread {failure : FileFailure} (h : v.read path = .error failure)
  /-- It is no text. -/
  | notText {octets : List UInt8} (h : v.read path = .ok octets)
    (htext : ∀ text, octets ≠ Text.Utf8.encode text)
  /-- The text does not decode. -/
  | undecoded {text : String} (h : v.read path = .ok (Text.Utf8.encode text))
    (hrefused : ∀ s, ofYaml text ≠ .ok s)

/-- **Whether a configuration file holds lines** that are written so that they can be
read. -/
structure HoldsLines (v : FileView) (path : String) (lines : List Line) : Prop where
  /-- Its name is that of a configuration file. -/
  isFileName : IsFileName path
  /-- The lines are written so that they can be read. -/
  isWritten : ∀ l ∈ lines, l.IsWritten
  /-- It can be read as their text. -/
  read : v.read path = .ok (Text.Utf8.encode (String.ofList (lines.flatMap Line.chars)))

/-- The names of configuration files by their extensions. -/
theorem isReadable_iff {path : String} : isReadable path = true ↔ IsFileName path := by
  rw [isReadable, List.contains_iff_mem, IsFileName]
  cases FilePath.extension? path with
  | none => simp [Config.extensions]
  | some e => simp [Config.extensions]

variable {v : FileView} {path : String} {s : Settings}

/-- A text is read from its octets. -/
theorem readText_eq_ok_iff {text : String} :
    v.readText path = .ok text ↔ v.read path = .ok (Text.Utf8.encode text) := by
  rw [FileView.readText]
  cases v.read path with
  | error failure => exact ⟨nofun, nofun⟩
  | ok octets =>
    rw [ok_bind, FileEntry.text, FileEntry.octets, ok_bind, Except.ok.injEq,
      ← Text.Utf8.decode?_eq_some_iff]
    cases Text.Utf8.decode? octets with
    | none => exact ⟨nofun, nofun⟩
    | some said =>
      exact ⟨fun h => congrArg some (Except.ok.inj h),
        fun h => congrArg Except.ok (Option.some.inj h)⟩

/-- A file is used for what it says. -/
theorem ofFile_eq_ok_iff : ofFile v path = .ok s ↔ FileSays v path s := by
  rw [ofFile]
  constructor
  · intro h
    split at h
    · next hreadable =>
      refine ⟨isReadable_iff.mp hreadable, ?_⟩
      cases htext : v.readText path with
      | error failure =>
        rw [htext] at h
        cases h
      | ok text =>
        rw [htext, ofRead] at h
        cases hs : ofYaml text with
        | error fault =>
          rw [hs] at h
          cases h
        | ok said =>
          rw [hs] at h
          exact ⟨text, readText_eq_ok_iff.mp htext,
            hs.trans (congrArg Except.ok (Except.ok.inj h))⟩
    · cases h
  · rintro ⟨hname, text, htext, hs⟩
    rw [if_pos (isReadable_iff.mpr hname), readText_eq_ok_iff.mpr htext, ofRead, hs]
    rfl

/-- A file cannot be used for one of the four reasons. -/
theorem ofFile_fails_iff : (∃ e, ofFile v path = .error e) ↔ Unusable v path := by
  constructor
  · rintro ⟨e, he⟩
    have hfails (s : Settings) : ¬ FileSays v path s := fun h => by
      cases he.symm.trans (ofFile_eq_ok_iff.mpr h)
    by_cases hname : IsFileName path
    · cases hread : v.read path with
      | error failure => exact .unread hread
      | ok octets =>
        by_cases htext : ∃ text, octets = Text.Utf8.encode text
        · obtain ⟨text, rfl⟩ := htext
          exact .undecoded hread fun s hs => hfails s ⟨hname, text, hread, hs⟩
        · exact .notText hread fun text heq => htext ⟨text, heq⟩
    · exact .name hname
  · intro h
    cases hresult : ofFile v path with
    | error e => exact ⟨e, rfl⟩
    | ok s =>
      obtain ⟨hname, text, hread, hs⟩ := ofFile_eq_ok_iff.mp hresult
      cases h with
      | name h => exact absurd hname h
      | unread h => cases h.symm.trans hread
      | notText h htext =>
        exact absurd (Except.ok.inj (h.symm.trans hread)) (htext text)
      | undecoded h hrefused =>
        have hdecoded := (Text.Utf8.decode?_eq_some_iff.mpr
          (Except.ok.inj (h.symm.trans hread))).symm.trans (Text.Utf8.decode?_encode _)
        obtain rfl := Option.some.inj hdecoded
        exact absurd hs (hrefused s)

/-- **A file of lines says what its lines say.** -/
theorem HoldsLines.fileSays_iff {lines : List Line} (h : HoldsLines v path lines) :
    FileSays v path s ↔ Say lines .empty s := by
  rw [← ofYaml_lines h.isWritten, ← ofFile_eq_ok_iff, ofFile,
    if_pos (isReadable_iff.mpr h.isFileName), readText_eq_ok_iff.mpr h.read, ofRead]
  cases ofYaml (String.ofList (lines.flatMap Line.chars)) with
  | error fault => exact ⟨nofun, nofun⟩
  | ok said =>
    exact ⟨fun h => congrArg Except.ok (Except.ok.inj h),
      fun h => congrArg Except.ok (Except.ok.inj h)⟩

end Settings

namespace Config

open Settings (FileSays HoldsLines Say Unusable)

/-- **The file that a configuration is read from**: the one that is named, or else that
of the default name, unless nothing is there. -/
inductive Chosen (v : FileView) : Option String → Option String → Prop where
  /-- A file is named. -/
  | named (path : String) : Chosen v (some path) (some path)
  /-- No file is named, and one of the default name is found. -/
  | found (h : v.stat defaultFile = .ok ()) : Chosen v none (some defaultFile)
  /-- No file is named, and there is none of the default name. -/
  | missing (h : v.stat defaultFile = .error .notFound) : Chosen v none none

/-- In a tree of files something is found at the default name, or nothing is there. -/
theorem exists_chosen (d : Disk) (path : Option String) : ∃ file?, Chosen d path file? := by
  cases path with
  | some path => exact ⟨_, .named path⟩
  | none =>
    have hlocate : d.locateText defaultFile
        = .ok (⟨false, [defaultFile], false⟩, [defaultFile]) := rfl
    have hstat : d.view.stat defaultFile = (d.find defaultFile).map fun _ => () := rfl
    rw [Disk.find, hlocate, ok_bind] at hstat
    dsimp only at hstat
    rcases hentry : d.at? [defaultFile] with _ | octets | _ <;> rw [hentry] at hstat
    · exact ⟨none, .missing hstat⟩
    · exact ⟨some defaultFile, .found hstat⟩
    · exact ⟨some defaultFile, .found hstat⟩

/-- What is known from a file, if one is chosen. -/
def Known (v : FileView) : Option String → Settings → Prop
  | some path, s => FileSays v path s
  | none, s => s = .empty

/-- What the chosen file says is read from it. -/
theorem Chosen.ofChosenFile_eq {v : FileView} {path file? : Option String}
    (h : Chosen v path file?) :
    Settings.ofChosenFile v path = (file?.map (Settings.ofFile v)).getD (.ok .empty) := by
  cases h with
  | named path => rfl
  | found h =>
    rw [Settings.ofChosenFile, FileView.isThere, h]
    rfl
  | missing h =>
    rw [Settings.ofChosenFile, FileView.isThere, h]
    rfl

/-! ## The sources together -/

/-- **Which source has the word on each setting**: the environment, then the
file, then what holds where nothing is set. -/
structure ComesFrom (env : Environment) (file : Settings) (c : Config) : Prop where
  /-- The file that the registry is kept in. -/
  registryFile : c.registryFile
    = ((env "KASTQL_REGISTRY_FILE").or file.registryFile).getD default.registryFile
  /-- Which events are logged. -/
  logLevel : c.logLevel = ((env "KASTQL_LOG_LEVEL").or file.logLevel).getD default.logLevel
  /-- The host to listen on. -/
  host : c.host = ((env "KASTQL_HOST").or file.host).getD default.host
  /-- The port to listen on. -/
  port : ∃ set, Option.Rel NamesPort (env "KASTQL_PORT") set
    ∧ c.port = (set.or file.port).getD default.port
  /-- The timeout is not set by the environment. -/
  requestTimeoutSecs : c.requestTimeoutSecs
    = file.requestTimeoutSecs.getD default.requestTimeoutSecs
  /-- Nor is the way to find fields. -/
  extractor : c.extractor = file.extractor.getD default.extractor

variable {v : FileView} {env : Environment} {path file? : Option String} {c : Config}
  {file : Settings}

/-- What the environment says is laid over what the file says, and both over
what holds where nothing is set. -/
theorem withEnvironment_overlay_eq_ok_iff :
    (file.overlay default).withEnvironment env = .ok c ↔ ComesFrom env file c := by
  constructor
  · intro h
    obtain ⟨said, hsaid, rfl⟩ := map_eq_ok h
    obtain ⟨port, hport, rfl⟩ := Settings.ofEnvironment_eq_ok_iff.mp hsaid
    exact
      { registryFile := Option.getD_or.symm
        logLevel := Option.getD_or.symm
        host := Option.getD_or.symm
        port := ⟨port, hport, Option.getD_or.symm⟩
        requestTimeoutSecs := rfl
        extractor := rfl }
  · intro h
    obtain ⟨port, hport, hset⟩ := h.port
    rw [withEnvironment, Settings.ofEnvironment_eq_ok_iff.mpr ⟨port, hport, rfl⟩]
    obtain ⟨registryFile, logLevel, host, _, requestTimeoutSecs, extractor⟩ := h
    cases c
    simp_all [Except.map, Settings.overlay, Option.getD_or]

/-- **What the environment says is said once**: it changes nothing where it has
been put over a configuration already. -/
theorem withEnvironment_settles (c : Config) (env : Environment) :
    (c.withEnvironment env >>= fun c => c.withEnvironment env) = c.withEnvironment env := by
  rw [withEnvironment]
  cases hsaid : Settings.ofEnvironment env with
  | error e => rfl
  | ok said =>
    show withEnvironment (said.overlay c) env = .ok (said.overlay c)
    rw [withEnvironment, hsaid]
    exact congrArg Except.ok (said.overlay_overlay c)

/-- What the chosen file says is known, if it can be used. -/
theorem Chosen.ofChosenFile_eq_ok_iff (h : Chosen v path file?) :
    Settings.ofChosenFile v path = .ok file ↔ Known v file? file := by
  rw [h.ofChosenFile_eq]
  cases file? with
  | none => exact ⟨fun h => (Except.ok.inj h).symm, fun h => congrArg Except.ok h.symm⟩
  | some path => exact Settings.ofFile_eq_ok_iff

/-- The chosen file cannot be used, if there is one. -/
theorem Chosen.ofChosenFile_fails_iff (h : Chosen v path file?) :
    (∃ e, Settings.ofChosenFile v path = .error e) ↔ ∃ file ∈ file?, Unusable v file := by
  rw [h.ofChosenFile_eq]
  cases file? with
  | none => simp
  | some path =>
    refine Settings.ofFile_fails_iff.trans ⟨fun h => ⟨path, rfl, h⟩, ?_⟩
    rintro ⟨_, ⟨⟩, h⟩
    exact h

/-- Loading fails where a source cannot be used. -/
theorem Chosen.load_fails_iff (h : Chosen v path file?) :
    (∃ e, load v env path = .error e)
      ↔ (∃ file ∈ file?, Unusable v file)
        ∨ ∃ text ∈ env "KASTQL_PORT", ∀ port, ¬ NamesPort text port := by
  rw [← h.ofChosenFile_fails_iff, ← Settings.ofEnvironment_fails_iff, load]
  cases Settings.ofChosenFile v path with
  | error e => exact ⟨fun _ => .inl ⟨e, rfl⟩, fun _ => ⟨e, rfl⟩⟩
  | ok file =>
    rw [ok_bind, withEnvironment]
    cases Settings.ofEnvironment env with
    | error e => exact ⟨fun _ => .inr ⟨e, rfl⟩, fun _ => ⟨e, rfl⟩⟩
    | ok said => simp [Except.map]

/-- Loading succeeds with what the sources say together. -/
theorem Chosen.load_eq_ok_iff (h : Chosen v path file?) :
    load v env path = .ok c ↔ ∃ file, Known v file? file ∧ ComesFrom env file c := by
  constructor
  · intro hload
    obtain ⟨file, hfile, hc⟩ := bind_eq_ok hload
    exact ⟨file, h.ofChosenFile_eq_ok_iff.mp hfile, withEnvironment_overlay_eq_ok_iff.mp hc⟩
  · rintro ⟨file, hfile, hc⟩
    rw [load, h.ofChosenFile_eq_ok_iff.mpr hfile, ok_bind]
    exact withEnvironment_overlay_eq_ok_iff.mpr hc

/-- **Loading never falls back silently.** It fails if and only if the chosen
file cannot be used or the port is set to something that names none. Otherwise
each setting comes from the first source that says something about it, and the
environment has nothing to add. What a file of lines says is what its lines
say. -/
theorem neverFallsBack_load (v : FileView) (env : Environment) {path file? : Option String}
    (hchosen : Chosen v path file?) :
    ((∃ e, load v env path = .error e)
        ↔ (∃ file ∈ file?, Unusable v file)
          ∨ ∃ text ∈ env "KASTQL_PORT", ∀ port, ¬ NamesPort text port)
      ∧ (∀ c, load v env path = .ok c
        ↔ ∃ said, Known v file? said ∧ ComesFrom env said c)
      ∧ (load v env path >>= fun c => c.withEnvironment env) = load v env path
      ∧ ∀ file ∈ file?, ∀ lines, HoldsLines v file lines → ∀ c,
          load v env path = .ok c ↔ ∃ said, Say lines .empty said ∧ ComesFrom env said c := by
  refine ⟨hchosen.load_fails_iff, fun c => hchosen.load_eq_ok_iff, ?_, ?_⟩
  · rw [load]
    cases Settings.ofChosenFile v path with
    | error e => rfl
    | ok file => exact withEnvironment_settles (file.overlay default) env
  · intro file hfile lines hlines c
    rw [hchosen.load_eq_ok_iff, Option.mem_def.mp hfile]
    exact exists_congr fun said => and_congr_left fun _ => hlines.fileSays_iff

/-! ### Examples -/

/-- The lines of a file. -/
def exampleLines : List Line :=
  [.ofName "port".toList "0x2328".toList,
    ⟨"log_level".toList, "'it''s'".toList, "it's".toList, .singleQuoted⟩,
    .ofName "color".toList "red".toList]

/-- They are written so that they can be read. -/
theorem isWritten_exampleLines : ∀ l ∈ exampleLines, l.IsWritten := by
  have hquoted : Line.IsWritten ⟨"log_level".toList,
      '\'' :: Yaml.QuotedScalar.quoteTwice "it's".toList ++ ['\''], "it's".toList,
      .singleQuoted⟩ :=
    .quoted ⟨by decide, by simp⟩ (by decide) (by simp [Yaml.IsPrintableAscii])
  simp only [exampleLines, List.forall_mem_cons]
  exact ⟨Line.isWritten_ofName ⟨by decide, by simp⟩ (by decide) ⟨by decide, by simp⟩, hquoted,
    Line.isWritten_ofName ⟨by decide, by simp⟩ (by decide) ⟨by decide, by simp⟩,
    List.forall_mem_nil _⟩

/-- They say two things. -/
theorem say_exampleLines :
    Say exampleLines .empty ⟨none, some "it's", none, some 9000, none, none⟩ := by
  have hmark : ('x', 16) ∈ Yaml.marks := by decide
  have hnumber : Yaml.NamesNumber ['0', 'x', '2', '3', '2', '8'] 9000 :=
    ⟨_, .inl rfl, .marked hmark (Whole.ofDigits?_eq_some_iff.mp rfl)⟩
  refine (Settings.say_cons .port (by rfl)).mpr ⟨rfl, 9000, ⟨rfl, hnumber⟩, ?_⟩
  refine (Settings.say_cons .logLevel (by rfl)).mpr ⟨rfl, "it's", rfl, ?_⟩
  refine (Settings.say_cons_other fun k => ?_).mpr (Settings.say_nil.mpr rfl)
  cases k <;> decide

/-- A directory with a file of lines, one in braces, and one that breaks off. -/
def exampleDisk : Disk :=
  ⟨[(["config.yaml"],
      .file (Text.Utf8.encode (String.ofList (exampleLines.flatMap Line.chars)))),
    (["gateway.json"], .file (Text.Utf8.encode "\x7b\"host\": \"::1\"\x7d")),
    (["broken.yml"], .file (Text.Utf8.encode "port: [80\n"))]⟩

/-- An environment in which one variable is set. -/
def only (name value : String) : Environment := fun asked =>
  if asked = name then some value else none

/-- **Files and variables are used or refused.** -/
theorem neverFallsBack_exampleDisk :
    Chosen exampleDisk none (some "config.yaml")
      ∧ load exampleDisk (only "KASTQL_HOST" "localhost") none
        = .ok { default with logLevel := "it's", host := "localhost", port := 9000 }
      ∧ load exampleDisk (only "KASTQL_PORT" "+0443") (some "gateway.json")
        = .ok { default with host := "::1", port := 443 }
      ∧ (∃ e, load exampleDisk (only "KASTQL_PORT" "65536") none = .error e)
      ∧ ∃ e, load exampleDisk (only "KASTQL_PORT" "80") (some "broken.yml") = .error e := by
  have hfound : Chosen exampleDisk none (some "config.yaml") := .found rfl
  refine ⟨hfound, ?_, ?_, ?_, ?_⟩
  · have hread : HoldsLines exampleDisk "config.yaml" exampleLines :=
      ⟨⟨"yaml", by decide, rfl⟩, isWritten_exampleLines, rfl⟩
    have hload := (neverFallsBack_load exampleDisk (only "KASTQL_HOST" "localhost") hfound).2.2.2
      "config.yaml" rfl exampleLines hread
    exact (hload _).mpr ⟨_, say_exampleLines, rfl, rfl, rfl, ⟨none, .none, rfl⟩, rfl, rfl⟩
  · have hport : NamesPort "+0443" 443 :=
      ⟨"0443".toList, .inr rfl, ⟨by decide, by simp, rfl⟩⟩
    have hdecodes :
        FileSays exampleDisk "gateway.json" ⟨none, none, some "::1", none, none, none⟩ :=
      ⟨⟨"json", by decide, rfl⟩, _, rfl, rfl⟩
    have hload := (neverFallsBack_load exampleDisk (only "KASTQL_PORT" "+0443")
      (.named "gateway.json")).2.1
    exact (hload _).mpr ⟨_, hdecodes, rfl, rfl, rfl, ⟨some 443, .some hport, rfl⟩, rfl, rfl⟩
  · have hfails := (neverFallsBack_load exampleDisk (only "KASTQL_PORT" "65536") hfound).1
    refine hfails.mpr (.inr ⟨"65536", rfl, fun port hport => ?_⟩)
    cases Settings.readPort_eq_ok_iff.mpr hport
  · have hfails := (neverFallsBack_load exampleDisk (only "KASTQL_PORT" "80")
      (.named "broken.yml")).1
    have hread : exampleDisk.view.read "broken.yml" = .ok (Text.Utf8.encode "port: [80\n") := rfl
    refine hfails.mpr (.inl ⟨"broken.yml", rfl, .undecoded hread fun s hs => ?_⟩)
    obtain ⟨fault, hfault⟩ : ∃ fault, Settings.ofYaml "port: [80\n" = .error fault := ⟨_, rfl⟩
    cases hfault.symm.trans hs

/-- A file without an extension. -/
def unnamedDisk : Disk := ⟨[(["settings"], .file (Text.Utf8.encode "port: 9000\n"))]⟩

/-- What is seen from a directory that may not be searched. -/
def closedView : FileView :=
  ⟨fun _ => .error (.other "Permission denied (os error 13)"),
    fun _ => .error (.other "Permission denied (os error 13)")⟩

/-- **A file can be refused that has no other extension, and one that cannot be read can
be passed over.** The first has no extension at all, and the second is that of the
default name, whose look-up fails although it may be there. -/
theorem not_neverFallsBack_load :
    (¬ ∀ (v : FileView) (env : Environment) (path text : String) (said : Settings),
      (∀ e, FilePath.extension? path = some e → e ∈ ["yaml", "yml", "json"]) →
        v.read path = .ok (Text.Utf8.encode text) → Settings.ofYaml text = .ok said →
        env "KASTQL_PORT" = none → ∃ c, load v env (some path) = .ok c)
      ∧ ¬ ∀ (v : FileView) (env : Environment) (failure : FileFailure),
        v.read defaultFile = .error failure → failure ≠ .notFound →
          ∃ e, load v env none = .error e := by
  constructor
  · intro h
    obtain ⟨c, hc⟩ := h unnamedDisk (fun _ => none) "settings" "port: 9000\n"
      ⟨none, none, none, some 9000, none, none⟩ nofun rfl rfl rfl
    cases hc
  · intro h
    obtain ⟨e, he⟩ := h closedView (fun _ => none) _ rfl nofun
    cases he

end Config

end GraphGateway
