import GraphGateway.Config.Document
import GraphGateway.Proofs.Yaml.Mapping
import GraphGateway.Proofs.Yaml.Meaning
import Mathlib.Tactic.MkIffOfInductiveProp

/-!
# What lines say about a configuration

A document of lines is read as the scalars that they hold, and what is left is what
these say. `Settings.Say` tells that setting by setting, apart from where the lines
stand: what a setting is given are the values of its lines, of which there may be no
more than one. A text is taken as it is, however it is written. A number is taken by
its digits, which do not stand between quotes (`Yaml.NamesNumber`), and the way to
find fields by its name. Lines of other keys say nothing.

The entries of a mapping are read one after the other, and each adds to what was said
before, so `Say` starts from settings of which some may have been said already. It
goes line by line as the reading does (`ConfigDocument.readEntries_lines`), and so a
text of lines is accepted if and only if its lines say something (`Settings.ofYaml_lines`).
-/

namespace GraphGateway

open Yaml (Document Event Line NamesNumber Place Scalar)

/-! ## What lines say -/

namespace Settings

/-- Whether a line is that of a setting. -/
def IsFor (name : String) (l : Line) : Prop := l.key = name.toList

instance (name : String) : DecidablePred (IsFor name) :=
  fun _ => inferInstanceAs (Decidable (_ = _))

/-- Whether the value of a line is a text. -/
def IsText (l : Line) (text : String) : Prop := l.text = text.toList

/-- Whether the value of a line is a number, which is not written between quotes. -/
def IsWhole (l : Line) (n : Nat) : Prop := l.style = .plain ∧ NamesNumber l.text n

/-- Whether the value of a line is the name of a way to find fields. -/
def IsWay (l : Line) (kind : ExtractorKind) : Prop :=
  IsText l "heuristic" ∧ kind = .heuristic ∨ IsText l "document" ∧ kind = .document

/-- **What a setting is given by lines**: the values of its lines come to what has been
said of it, and it has at most one value. -/
def Sets {α : Type} (Means : Line → α → Prop) (name : String) (lines : List Line)
    (before after : Option α) : Prop :=
  ∃ values, List.Forall₂ Means (lines.filter (IsFor name)) values
    ∧ after.toList = before.toList ++ values

/-- **What lines say**, where something may have been said before. -/
@[mk_iff]
structure Say (lines : List Line) (before after : Settings) : Prop where
  /-- The file that the registry is kept in is any text. -/
  registryFile : Sets IsText "registry_file" lines before.registryFile after.registryFile
  /-- Which events are logged is any text. -/
  logLevel : Sets IsText "log_level" lines before.logLevel after.logLevel
  /-- The host is any text. -/
  host : Sets IsText "host" lines before.host after.host
  /-- The port is a number of no more than 16 bits. -/
  port : Sets (fun l port => IsWhole l port.toNat) "port" lines before.port after.port
  /-- The timeout is a number of no more than 64 bits. -/
  requestTimeoutSecs : Sets (fun l secs => IsWhole l secs.toNat) "request_timeout_secs" lines
    before.requestTimeoutSecs after.requestTimeoutSecs
  /-- The way to find fields has a name. -/
  extractor : Sets IsWay "field_extractor" lines before.extractor after.extractor

section Sets

variable {α : Type} {Means : Line → α → Prop} {name : String} {l : Line} {lines : List Line}
  {before after : Option α}

/-- Without lines nothing is given. -/
theorem sets_nil : Sets Means name [] before after ↔ after = before := by
  constructor
  · rintro ⟨_, ⟨⟩, h⟩
    rw [List.append_nil] at h
    cases after <;> cases before <;> simp_all
  · rintro rfl
    exact ⟨[], .nil, (List.append_nil _).symm⟩

/-- **The line of a setting gives its value**, if nothing has been said of the setting,
and any other line gives nothing. -/
theorem sets_cons : Sets Means name (l :: lines) before after
    ↔ if IsFor name l then
        before = none ∧ ∃ value, Means l value ∧ Sets Means name lines (some value) after
      else Sets Means name lines before after := by
  by_cases h : IsFor name l
  · rw [if_pos h, Sets, List.filter_cons_of_pos (by simpa using h)]
    constructor
    · rintro ⟨_, ⟨⟩ | ⟨hvalue, hvalues⟩, hafter⟩
      cases before with
      | none => exact ⟨rfl, _, hvalue, _, hvalues, hafter⟩
      | some given => cases after <;> simp at hafter
    · rintro ⟨rfl, value, hvalue, values, hvalues, hafter⟩
      exact ⟨value :: values, .cons hvalue hvalues, hafter⟩
  · rw [if_neg h, Sets, List.filter_cons_of_neg (by simpa using h)]
    rfl

/-- A line is that of one setting. -/
theorem IsFor.isFor_iff {other : String} (h : IsFor name l) : IsFor other l ↔ name = other :=
  ⟨fun hother => String.toList_inj.mp (h.symm.trans hother), fun heq => heq ▸ h⟩

end Sets

end Settings

/-! ## One setting at a time -/

/-- The settings. -/
inductive Setting where
  | registryFile
  | logLevel
  | host
  | port
  | requestTimeoutSecs
  | extractor
  deriving DecidableEq

namespace Setting

open Settings (IsText IsWhole IsWay)

/-- The key of a setting. -/
def name : Setting → String
  | registryFile => "registry_file"
  | logLevel => "log_level"
  | host => "host"
  | port => "port"
  | requestTimeoutSecs => "request_timeout_secs"
  | extractor => "field_extractor"

/-- What a setting is given. -/
@[reducible]
def Value : Setting → Type
  | registryFile | logLevel | host => String
  | port => UInt16
  | requestTimeoutSecs => UInt64
  | extractor => ExtractorKind

/-- What the value of a line has to be. -/
def Means : (k : Setting) → Line → k.Value → Prop
  | registryFile, l, text | logLevel, l, text | host, l, text => IsText l text
  | port, l, n => IsWhole l n.toNat
  | requestTimeoutSecs, l, n => IsWhole l n.toNat
  | extractor, l, kind => IsWay l kind

/-- No two settings have one key. -/
theorem name_injective : Function.Injective name := by
  intro k other h
  cases k <;> cases other <;> first | rfl | simp [name] at h

end Setting

namespace Settings

/-- What is said of a setting. -/
def get (s : Settings) : (k : Setting) → Option k.Value
  | .registryFile => s.registryFile
  | .logLevel => s.logLevel
  | .host => s.host
  | .port => s.port
  | .requestTimeoutSecs => s.requestTimeoutSecs
  | .extractor => s.extractor

/-- Says one thing more. -/
def put (s : Settings) : (k : Setting) → k.Value → Settings
  | .registryFile, file => { s with registryFile := some file }
  | .logLevel, level => { s with logLevel := some level }
  | .host, host => { s with host := some host }
  | .port, port => { s with port := some port }
  | .requestTimeoutSecs, secs => { s with requestTimeoutSecs := some secs }
  | .extractor, kind => { s with extractor := some kind }

@[simp] theorem get_put_self (s : Settings) (k : Setting) (value : k.Value) :
    (s.put k value).get k = some value := by
  cases k <;> rfl

theorem get_put_of_ne (s : Settings) {k other : Setting} (h : other ≠ k) (value : k.Value) :
    (s.put k value).get other = s.get other := by
  cases k <;> cases other <;> first | rfl | exact absurd rfl h

variable {l : Line} {lines : List Line} {before after : Settings}

/-- **Lines say what they say of each setting.** -/
theorem say_iff_forall :
    Say lines before after ↔ ∀ k, Sets k.Means k.name lines (before.get k) (after.get k) := by
  rw [say_iff]
  constructor
  · rintro ⟨hregistry, hlog, hhost, hport, htimeout, hextractor⟩ k
    cases k <;> assumption
  · intro h
    exact ⟨h .registryFile, h .logLevel, h .host, h .port, h .requestTimeoutSecs, h .extractor⟩

/-- Without lines nothing is said. -/
theorem say_nil : Say [] before after ↔ after = before := by
  simp only [say_iff, sets_nil]
  cases before
  cases after
  simp

/-- **The line of a setting says its value**, if nothing has been said of the setting. -/
theorem say_cons (k : Setting) (h : IsFor k.name l) :
    Say (l :: lines) before after ↔ before.get k = none
      ∧ ∃ value, k.Means l value ∧ Say lines (before.put k value) after := by
  -- The line sets its own setting and no other, so the others are left as `put` leaves them.
  have hother {other : Setting} (hne : other ≠ k) : ¬ IsFor other.name l := fun hfor =>
    hne (Setting.name_injective (h.isFor_iff.mp hfor).symm)
  simp only [say_iff_forall, sets_cons]
  constructor
  · intro hsets
    obtain ⟨hnone, value, hvalue, hrest⟩ := (if_pos h).mp (hsets k)
    refine ⟨hnone, value, hvalue, fun other => ?_⟩
    by_cases hne : other = k
    · subst hne
      rwa [get_put_self]
    · rw [get_put_of_ne _ hne]
      exact (if_neg (hother hne)).mp (hsets other)
  · rintro ⟨hnone, value, hvalue, hsets⟩ other
    by_cases hne : other = k
    · subst hne
      rw [if_pos h]
      exact ⟨hnone, value, hvalue, get_put_self before other value ▸ hsets other⟩
    · rw [if_neg (hother hne)]
      exact get_put_of_ne before hne value ▸ hsets other

/-- Any other line says nothing. -/
theorem say_cons_other (h : ∀ k : Setting, ¬ IsFor k.name l) :
    Say (l :: lines) before after ↔ Say lines before after := by
  simp only [say_iff_forall, sets_cons, h, if_false]

end Settings

namespace ConfigDocument

open Settings (IsFor IsText IsWhole IsWay Say)

/-! ## Values -/

namespace Value

variable {v : Value} {l : Line}

/-- Whether a value is that of a line. -/
def IsOf (v : Value) (l : Line) : Prop :=
  v.target.event = .scalar ⟨none, String.ofList l.text, l.style⟩

/-- **A text is read as it is.** -/
theorem text_eq_ok_iff (h : v.IsOf l) {expected said : String} :
    v.text expected = .ok said ↔ IsText l said := by
  rw [text, h, IsText]
  simp only [Except.ok.injEq]
  exact ⟨fun heq => heq ▸ String.toList_ofList.symm, fun heq => heq ▸ String.ofList_toList⟩

/-- A scalar without quotes stands for the number that it names. -/
theorem unsigned?_eq_some_iff {n bound : Nat} :
    Scalar.unsigned? ⟨none, String.ofList l.text, l.style⟩ bound = some n
      ↔ IsWhole l n ∧ n < bound := by
  have hstyle : (l.style == .plain
      || (l.style == .literal && Scalar.isTagged ⟨none, String.ofList l.text, l.style⟩ "int"))
        = decide (l.style = .plain) := by
    cases l.style <;> rfl
  rw [Scalar.unsigned?, hstyle, Option.ite_none_right_eq_some, decide_eq_true_eq,
    String.toList_ofList, Yaml.Meaning.unsigned?_eq_some_iff, ← and_assoc]
  rfl

/-- **A number is read**, if it has no more bits than its type. -/
theorem whole_eq_ok_iff (h : v.IsOf l) {bits n : Nat} (hbits : bits ≤ 64) {expected : String} :
    v.whole bits expected = .ok n ↔ IsWhole l n ∧ n < Nat.pow 2 bits := by
  have hbound {n : Nat} (h : n < Nat.pow 2 bits) : n < Nat.pow 2 64 :=
    Nat.lt_of_lt_of_le h (Nat.pow_le_pow_right (by decide) hbits)
  rw [whole, h]
  dsimp only
  cases hread : Scalar.unsigned? ⟨none, String.ofList l.text, l.style⟩ (Nat.pow 2 64) with
  | none =>
    refine ⟨nofun, fun ⟨hwhole, hn⟩ => ?_⟩
    cases hread.symm.trans (unsigned?_eq_some_iff.mpr ⟨hwhole, hbound hn⟩)
  | some m =>
    have hm := (unsigned?_eq_some_iff.mp hread).1
    dsimp only
    constructor
    · intro h
      split at h
      · next hlt =>
        obtain rfl := Except.ok.inj h
        exact ⟨hm, hlt⟩
      · cases h
    · rintro ⟨hwhole, hn⟩
      obtain rfl := Option.some.inj
        (hread.symm.trans (unsigned?_eq_some_iff.mpr ⟨hwhole, hbound hn⟩))
      exact if_pos hn

/-- **The name of a way to find fields is read** as the way. -/
theorem extractor_eq_ok_iff (h : v.IsOf l) {kind : ExtractorKind} :
    v.extractor = .ok kind ↔ IsWay l kind := by
  have htext (name : String) : String.ofList l.text = name ↔ IsText l name := by
    rw [IsText, ← String.toList_inj, String.toList_ofList]
  rw [extractor, h, IsWay, ← htext, ← htext]
  show named (String.ofList l.text) v.key v.target.place = .ok kind ↔ _
  rw [named]
  by_cases hheuristic : String.ofList l.text = "heuristic"
  · have hlookup : extractorNames.lookup "heuristic" = some .heuristic := rfl
    simp [hheuristic, hlookup, eq_comm]
  · by_cases hdocument : String.ofList l.text = "document"
    · have hlookup : extractorNames.lookup "document" = some .document := rfl
      simp [hdocument, hlookup, eq_comm]
    · have hlookup : extractorNames.lookup (String.ofList l.text) = none := by
        rw [List.lookup_eq_none_iff]
        rintro ⟨name, way⟩ hmem
        simp only [extractorNames, Wire.Choice.names, List.mem_cons, Prod.mk.injEq,
          List.not_mem_nil, or_false] at hmem
        obtain ⟨rfl, -⟩ | ⟨rfl, -⟩ := hmem <;> simpa
      simp [hheuristic, hdocument, hlookup]

end Value

/-! ## Entries -/

section Entries

variable {s s' : Settings} {l : Line} {p q : Place} {behind : List (Yaml.Part Nat)}

/-- The parts of a line. -/
def partsOf (l : Line) (p q : Place) : List (Yaml.Part Nat) :=
  [.plain (.scalar ⟨none, String.ofList l.key, .plain⟩, p),
    .plain (.scalar ⟨none, String.ofList l.text, l.style⟩, q)]

/-- The key of a line is read. -/
theorem readKey_line (d : Document) : readKey d
    (.plain (.scalar ⟨none, String.ofList l.key, .plain⟩, p))
      = .ok (String.ofList l.key, String.ofList l.key) := by
  rw [readKey, Document.target_plain]
  rfl

/-- Whether something has been said is known of each setting. -/
theorem isSet?_name (s : Settings) (k : Setting) : isSet? s k.name = some (s.get k).isSome := by
  cases k <;> rfl

/-- A key that is that of no setting sets nothing. -/
theorem isSet?_eq_none (h : ∀ k : Setting, ¬ IsFor k.name l) :
    isSet? s (String.ofList l.key) = none := by
  have hne (k : Setting) : String.ofList l.key ≠ k.name := fun heq =>
    h k (String.toList_ofList.symm.trans (congrArg String.toList heq))
  unfold isSet?
  split
  · exact absurd ‹_› (hne .registryFile)
  · exact absurd ‹_› (hne .logLevel)
  · exact absurd ‹_› (hne .host)
  · exact absurd ‹_› (hne .port)
  · exact absurd ‹_› (hne .requestTimeoutSecs)
  · exact absurd ‹_› (hne .extractor)
  · rfl

/-- **The value of a setting is read** from a line that has one. -/
theorem readSetting_eq_ok_iff {v : Value} (hv : v.IsOf l) (k : Setting) :
    readSetting s k.name v = .ok s' ↔ ∃ value, k.Means l value ∧ s.put k value = s' := by
  cases k with
  | registryFile => exact bind_ok_eq_ok_iff fun _ => Value.text_eq_ok_iff hv
  | logLevel => exact bind_ok_eq_ok_iff fun _ => Value.text_eq_ok_iff hv
  | host => exact bind_ok_eq_ok_iff fun _ => Value.text_eq_ok_iff hv
  | port =>
    refine (bind_ok_eq_ok_iff fun _ => Value.whole_eq_ok_iff hv (by decide)).trans ?_
    constructor
    · rintro ⟨n, ⟨hn, hlt⟩, rfl⟩
      exact ⟨n.toUInt16, by rwa [Setting.Means, UInt16.toNat_ofNat_of_lt' hlt], rfl⟩
    · rintro ⟨port, hport, rfl⟩
      exact ⟨port.toNat, ⟨hport, port.toNat_lt⟩,
        congrArg (fun port => { s with port := some port }) UInt16.ofNat_toNat⟩
  | requestTimeoutSecs =>
    refine (bind_ok_eq_ok_iff fun _ => Value.whole_eq_ok_iff hv (by decide)).trans ?_
    constructor
    · rintro ⟨n, ⟨hn, hlt⟩, rfl⟩
      exact ⟨n.toUInt64, by rwa [Setting.Means, UInt64.toNat_ofNat_of_lt' hlt], rfl⟩
    · rintro ⟨secs, hsecs, rfl⟩
      exact ⟨secs.toNat, ⟨hsecs, secs.toNat_lt⟩,
        congrArg (fun secs => { s with requestTimeoutSecs := some secs }) UInt64.ofNat_toNat⟩
  | extractor => exact bind_ok_eq_ok_iff fun _ => Value.extractor_eq_ok_iff hv

variable (d : Document) (mapping : Place) (fuel : Nat)

/-- The line of another key is passed over. -/
theorem readEntries_other (h : ∀ k : Setting, ¬ IsFor k.name l) :
    readEntries d mapping (fuel + 1) s (partsOf l p q ++ behind)
      = readEntries d mapping fuel s behind := by
  rw [partsOf, List.cons_append, List.singleton_append, readEntries]
  refine (if_neg Bool.false_ne_true).trans ?_
  rw [readKey_line, ok_bind]
  simp only [isSet?_eq_none h]
  rfl

/-- **The line of a setting is read** as its value, if nothing has been said of the
setting. -/
theorem readEntries_setting (k : Setting) (h : IsFor k.name l) :
    readEntries d mapping (fuel + 1) s (partsOf l p q ++ behind) = .ok s'
      ↔ s.get k = none ∧ ∃ value, k.Means l value
        ∧ readEntries d mapping fuel (s.put k value) behind = .ok s' := by
  have hkey : String.ofList l.key = k.name := by
    rw [h, String.ofList_toList]
  rw [partsOf, List.cons_append, List.singleton_append, readEntries]
  refine (iff_of_eq (congrArg (· = _) (if_neg Bool.false_ne_true))).trans ?_
  rw [readKey_line, ok_bind]
  simp only [hkey, isSet?_name]
  cases s.get k with
  | some value => exact ⟨nofun, nofun⟩
  | none =>
    let part : Yaml.Part Nat := .plain (.scalar ⟨none, String.ofList l.text, l.style⟩, q)
    have hof : Value.IsOf ⟨k.name, part, d.target part, mapping⟩ l :=
      congrArg Yaml.Part.event (d.target_plain _)
    dsimp only [Option.isSome_none]
    constructor
    · intro hread
      obtain ⟨left, hleft, hrest⟩ := bind_eq_ok hread
      obtain ⟨value, hvalue, rfl⟩ := (readSetting_eq_ok_iff hof k).mp hleft
      exact ⟨rfl, value, hvalue, hrest⟩
    · rintro ⟨-, value, hvalue, hrest⟩
      rw [(readSetting_eq_ok_iff hof k).mpr ⟨value, hvalue, rfl⟩, ok_bind]
      exact hrest

end Entries

/-- **The entries of lines are read as what the lines say**, and refused if they say
nothing. -/
theorem readEntries_lines {lines : List Line} {placed : List (Event Empty × Place)}
    (hplaced : placed.map Prod.fst = Line.events lines) (d : Document) (mapping : Place)
    (fuel : Nat) (s s' : Settings) :
    readEntries d mapping (lines.length + fuel + 1) s (placed.map Yaml.Part.plain) = .ok s'
      ↔ Say lines s s' := by
  induction lines generalizing placed s with
  | nil =>
    obtain ⟨⟨_, p⟩, rfl, rfl⟩ := List.map_eq_singleton_iff.mp hplaced
    rw [Settings.say_nil]
    exact (iff_of_eq (Except.ok.injEq s s')).trans eq_comm
  | cons l lines ih =>
    obtain ⟨⟨_, p⟩, rest, rfl, rfl, hrest⟩ := List.map_eq_cons_iff.mp hplaced
    obtain ⟨⟨_, q⟩, behind, rfl, rfl, hbehind⟩ := List.map_eq_cons_iff.mp hrest
    have hfuel : (l :: lines).length + fuel + 1 = lines.length + fuel + 1 + 1 := by
      rw [List.length_cons]
      omega
    rw [hfuel]
    show readEntries d mapping _ s (partsOf l p q ++ behind.map Yaml.Part.plain) = .ok s' ↔ _
    by_cases hsetting : ∃ k : Setting, IsFor k.name l
    · obtain ⟨k, hk⟩ := hsetting
      rw [readEntries_setting _ _ _ k hk, Settings.say_cons k hk]
      simp only [ih hbehind]
    · have hother : ∀ k : Setting, ¬ IsFor k.name l := not_exists.mp hsetting
      rw [readEntries_other _ _ _ hother, Settings.say_cons_other hother, ih hbehind]

end ConfigDocument

/-- **A text of lines is read as what its lines say**, and refused if they say nothing. -/
theorem Settings.ofYaml_lines {lines : List Line} (h : ∀ l ∈ lines, l.IsWritten) (s : Settings) :
    ofYaml (String.ofList (lines.flatMap Line.chars)) = .ok s ↔ Say lines .empty s := by
  by_cases hne : lines = []
  · subst hne
    rw [say_nil]
    exact (iff_of_eq (Except.ok.injEq empty s)).trans eq_comm
  obtain ⟨start, placed, hplaced, hfirst⟩ :=
    Document.first_lines (fun l hl => (h l hl).isReadable) hne
  have hlength : (placed.map Yaml.Part.plain : List (Yaml.Part Nat)).length + 1
      = lines.length + (lines.length + 1) + 1 := by
    rw [List.length_map, ← List.length_map Prod.fst, hplaced]
    simp [Line.events, Line.scalars, List.map_const']
    omega
  let d : Document :=
    ⟨Yaml.Part.plain (.mappingStart none, start) :: placed.map Yaml.Part.plain, [], none, false⟩
  have hread : ofYaml (String.ofList (lines.flatMap Line.chars))
      = ConfigDocument.readRoot d >>= .ok := by
    rw [ofYaml, hfirst]
    rfl
  have hroot : ConfigDocument.readRoot d = ConfigDocument.readEntries d start
      (lines.length + (lines.length + 1) + 1) .empty (placed.map Yaml.Part.plain) := by
    rw [← hlength]
    rfl
  rw [hread, hroot, ← ConfigDocument.readEntries_lines hplaced d start (lines.length + 1)]
  cases ConfigDocument.readEntries d start _ .empty _ <;> rfl

end GraphGateway
