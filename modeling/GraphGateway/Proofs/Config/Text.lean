import GraphGateway.Proofs.Config.Lines
import GraphGateway.Wire.Encode

/-!
# The text of a configuration says what the configuration is

A configuration is written as six lines (`Config.lines`), one for each setting. Its
texts are written as they have to be, and its numbers and the name of its way to find
fields without quotes. So the lines say what the configuration is (`Config.say_lines`),
and this is read from its text (`Config.ofYaml_yaml`).
-/

namespace GraphGateway

open Yaml (Line)

/-- A number that is written is a name. -/
theorem Yaml.isName_toString (n : Nat) : Yaml.IsName (toString n).toList := by
  have hnumeral := Whole.numeral_toString n
  refine ⟨hnumeral.ne_nil, fun c hc => .inl ?_⟩
  rw [Char.isAlphanum, hnumeral.isDigit c hc, Bool.or_true]

namespace Config

open Settings (Say IsWay)

/-- **Whether the texts of a configuration are of printable characters.** -/
structure IsPrintable (c : Config) : Prop where
  /-- The file that the registry is kept in. -/
  registryFile : ∀ ch ∈ c.registryFile.toList, Yaml.IsPrintableAscii ch
  /-- Which events are logged. -/
  logLevel : ∀ ch ∈ c.logLevel.toList, Yaml.IsPrintableAscii ch
  /-- The host to listen on. -/
  host : ∀ ch ∈ c.host.toList, Yaml.IsPrintableAscii ch

/-- The lines that a configuration is written as. -/
def lines (c : Config) : List Line :=
  [.ofText "registry_file".toList c.registryFile.toList,
    .ofText "log_level".toList c.logLevel.toList,
    .ofText "host".toList c.host.toList,
    .ofName "port".toList (toString c.port.toNat).toList,
    .ofName "request_timeout_secs".toList (toString c.requestTimeoutSecs.toNat).toList,
    .ofName "field_extractor".toList (Wire.nameOf .extractorKind c.extractor).toList]

/-- What is said where everything is. -/
def said (c : Config) : Settings :=
  ⟨c.registryFile, c.logLevel, c.host, c.port, c.requestTimeoutSecs, c.extractor⟩

/-- Where everything is said, nothing else counts. -/
theorem overlay_said (c other : Config) : c.said.overlay other = c := rfl

variable {c : Config}

/-- **The text of a configuration is its lines.** -/
theorem yaml_eq (h : c.IsPrintable) : c.yaml = String.ofList (c.lines.flatMap Line.chars) := by
  have hname (key value : String) :
      (Line.ofName key.toList value.toList).chars = (key ++ ": " ++ value ++ "\n").toList := by
    simp [Line.chars, Line.ofName]
  have hyaml : c.yaml = String.ofList (c.entries.flatMap (fun entry =>
        Yaml.Printer.entry entry.1.toList entry.2.toList)
      ++ ("port" ++ ": " ++ toString c.port.toNat ++ "\n").toList
      ++ ("request_timeout_secs" ++ ": " ++ toString c.requestTimeoutSecs.toNat ++ "\n").toList
      ++ ("field_extractor" ++ ": " ++ Wire.nameOf .extractorKind c.extractor ++ "\n").toList) := by
    rw [yaml]
    cases c.extractor <;> rfl
  rw [hyaml]
  simp only [lines, entries, List.flatMap_cons, List.flatMap_nil, hname,
    Line.chars_ofText _ h.registryFile, Line.chars_ofText _ h.logLevel, Line.chars_ofText _ h.host,
    List.append_assoc, List.append_nil]

/-- The lines of a configuration are written so that they can be read. -/
theorem isWritten_lines (h : c.IsPrintable) : ∀ l ∈ c.lines, l.IsWritten := by
  have hextractor : Yaml.IsName (Wire.nameOf .extractorKind c.extractor).toList := by
    cases c.extractor <;> exact ⟨by decide, by simp [Wire.nameOf, Wire.Choice.names]⟩
  simp only [lines, List.forall_mem_cons]
  refine ⟨Line.isWritten_ofText ⟨by decide, by simp⟩ (by decide) h.registryFile,
    Line.isWritten_ofText ⟨by decide, by simp⟩ (by decide) h.logLevel,
    Line.isWritten_ofText ⟨by decide, by simp⟩ (by decide) h.host,
    Line.isWritten_ofName ⟨by decide, by simp⟩ (by decide) (Yaml.isName_toString _),
    Line.isWritten_ofName ⟨by decide, by simp⟩ (by decide) (Yaml.isName_toString _),
    Line.isWritten_ofName ⟨by decide, by simp⟩ (by decide) hextractor, List.forall_mem_nil _⟩

/-- The name of a way to find fields is that of the way. -/
theorem isWay_nameOf (key : List Char) (kind : ExtractorKind) :
    IsWay (.ofName key (Wire.nameOf .extractorKind kind).toList) kind := by
  cases kind
  · exact .inl ⟨rfl, rfl⟩
  · exact .inr ⟨rfl, rfl⟩

/-- **The lines of a configuration say what it is.** -/
theorem say_lines (c : Config) : Say c.lines .empty c.said := by
  refine (Settings.say_cons .registryFile (by rfl)).mpr ⟨rfl, c.registryFile, rfl, ?_⟩
  refine (Settings.say_cons .logLevel (by rfl)).mpr ⟨rfl, c.logLevel, rfl, ?_⟩
  refine (Settings.say_cons .host (by rfl)).mpr ⟨rfl, c.host, rfl, ?_⟩
  refine (Settings.say_cons .port (by rfl)).mpr
    ⟨rfl, c.port, ⟨rfl, Yaml.namesNumber_toString _⟩, ?_⟩
  refine (Settings.say_cons .requestTimeoutSecs (by rfl)).mpr
    ⟨rfl, c.requestTimeoutSecs, ⟨rfl, Yaml.namesNumber_toString _⟩, ?_⟩
  exact (Settings.say_cons .extractor (by rfl)).mpr
    ⟨rfl, c.extractor, isWay_nameOf _ c.extractor, Settings.say_nil.mpr rfl⟩

/-- **The text of a configuration is read as what the configuration is.** -/
theorem ofYaml_yaml (h : c.IsPrintable) : Settings.ofYaml c.yaml = .ok c.said := by
  rw [yaml_eq h]
  exact (Settings.ofYaml_lines (isWritten_lines h) c.said).mpr (say_lines c)

end Config

end GraphGateway
