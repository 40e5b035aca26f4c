import GraphGateway.Config.Settings
import GraphGateway.Wire.Shape
import GraphGateway.Yaml.Document
import GraphGateway.Yaml.Meaning
import GraphGateway.Yaml.Printer

/-!
# Configurations as YAML

A configuration is written as a mapping with one entry for every setting.
Reading accepts any mapping in which each of these keys stands at most once
and has a value of its kind; other keys are passed over, and a text without
a document says nothing.

What is wrong with a text is reported at the first part of it that shows
it, so a value of a wrong kind is reported even where the text breaks off
behind it.
-/

namespace GraphGateway

open Yaml (Place Event Document Scalar)

/-- **What is wrong with a part of a document.** -/
inductive Mismatch where
  /-- Something of another kind. -/
  | wrongKind (shown expected : String)
  /-- A text that is not what its tag says. -/
  | wrongValue (shown expected : String)
  /-- A name that is none of the names allowed. -/
  | unknownName (name : String) (allowed : List String)
  /-- A key that is there twice. -/
  | repeatedKey (key : String)
  deriving DecidableEq, Repr

/-- The wording of what is wrong. -/
def Mismatch.text : Mismatch → String
  | wrongKind shown expected => "invalid type: " ++ shown ++ ", expected " ++ expected
  | wrongValue shown expected => "invalid value: " ++ shown ++ ", expected " ++ expected
  | unknownName name allowed =>
    "unknown variant `" ++ name ++ "`, expected " ++ Json.oneOf allowed
  | repeatedKey key => "duplicate field `" ++ key ++ "`"

/-- **Why a text is not a configuration.** -/
inductive ConfigFault where
  /-- The text is not YAML. -/
  | malformed (fault : Yaml.Fault)
  /-- The document breaks off. -/
  | unfinished
  /-- More than one document. -/
  | moreDocuments
  /-- A part of the document is wrong: the key it is under, or the empty
  text, what is wrong, and where. -/
  | mismatched (key : String) (mismatch : Mismatch) (place : Place)
  deriving DecidableEq, Repr

/-- The wording of a fault. -/
def ConfigFault.message : ConfigFault → String
  | malformed fault => fault.message
  | unfinished => "EOF while parsing a value"
  | moreDocuments => "deserializing from YAML containing more than one document is not supported"
  | mismatched key mismatch place =>
    (if key.isEmpty then "" else key ++ ": ") ++ mismatch.text ++ place.suffix

namespace ConfigDocument

/-- What was found where something else was expected. -/
def mismatch (event : Event Nat) (expected : String) : Mismatch :=
  match event with
  | .scalar s =>
    match s.meaning with
    | .ok meaning => .wrongKind meaning.shown expected
    | .error asked => .wrongValue ("string " ++ Text.quoted s.text) asked
  | .mappingStart _ | .mappingEnd => .wrongKind "map" expected
  | _ => .wrongKind "sequence" expected

/-! ## Values -/

/-- **A value that is being read**: the key it is under, the part that
begins it, and the part that this stands for. -/
structure Value where
  /-- The key, as messages show it. -/
  key : String
  /-- The part in the mapping. -/
  part : Yaml.Part Nat
  /-- The part that it stands for. -/
  target : Yaml.Part Nat
  /-- The place of the mapping. -/
  mapping : Place

namespace Value

/-- The fault of a value of a wrong kind. -/
def fault (v : Value) (expected : String) : ConfigFault :=
  .mismatched v.key (mismatch v.target.event expected) v.target.place

/-- Reads a text. Every scalar is one. -/
def text (v : Value) (expected : String) : Except ConfigFault String :=
  match v.target.event with
  | .scalar s => .ok s.text
  | _ => .error (v.fault expected)

/-- Reads a whole number below a bound that a type of `bits` bits sets. -/
def whole (v : Value) (bits : Nat) (expected : String) : Except ConfigFault Nat :=
  match v.target.event with
  | .scalar s =>
    match s.unsigned? (Nat.pow 2 64) with
    | some n =>
      if n < Nat.pow 2 bits then .ok n
      else
        .error (.mismatched v.key
          (.wrongValue ((Yaml.Meaning.integer n).shown) expected) v.target.place)
    | none => .error (v.fault expected)
  | _ => .error (v.fault expected)

/-- The name in a tag of the document's own, which is a mark and the
name. -/
def nameOfTag? (tag : Option (List UInt8)) : Option String :=
  match tag with
  | some (0x21 :: name) => if name.isEmpty then some "!" else Text.Utf8.decode? name
  | _ => none

/-- The names of the ways to find a field. -/
def extractorNames : List (String × ExtractorKind) := Wire.Choice.extractorKind.names

/-- Reads a way to find a field by its name. -/
def named (name : String) (key : String) (place : Place) : Except ConfigFault ExtractorKind :=
  match extractorNames.lookup name with
  | some kind => .ok kind
  | none => .error (.mismatched key (.unknownName name (extractorNames.map Prod.fst)) place)

/-- Reads a way to find a field by the name in a tag. Nothing may stand
behind the tag. An unknown name is reported for the mapping, or for the
alias that stands for the tag. -/
def tagged (v : Value) (name : String) : Except ConfigFault ExtractorKind := do
  let kind ← match v.part.event with
    | .reference _ => named name v.key v.part.place
    | _ => named name "" v.mapping
  match v.target.event with
  | .scalar s =>
    if s.style == .plain && (s.text.isEmpty || Yaml.Meaning.isNull s.text) then return kind
    else
      let mismatch := Mismatch.wrongValue ("string " ++ Text.quoted s.text) "null"
      throw (.mismatched v.key mismatch v.target.place)
  | _ => throw (v.fault "unit")

/-- Reads a way to find a field: a name, or a tag that is one. -/
def extractor (v : Value) : Except ConfigFault ExtractorKind :=
  let fault := v.fault "a YAML tag starting with '!'"
  match v.target.event with
  | .scalar s =>
    match nameOfTag? s.tag with
    | some name => v.tagged name
    | none => named s.text v.key v.target.place
  | .sequenceStart tag | .mappingStart tag =>
    match nameOfTag? tag with
    | some name => v.tagged name
    | none => .error fault
  | _ => .error fault

end Value

/-! ## Entries -/

/-- Whether settings say something about the setting of a key; none if
the key names no setting. -/
def isSet? (s : Settings) : String → Option Bool
  | "registry_file" => some s.registryFile.isSome
  | "log_level" => some s.logLevel.isSome
  | "host" => some s.host.isSome
  | "port" => some s.port.isSome
  | "request_timeout_secs" => some s.requestTimeoutSecs.isSome
  | "field_extractor" => some s.extractor.isSome
  | _ => none

/-- **Reads the value of a setting.** A key that names none says
nothing. -/
def readSetting (s : Settings) (name : String) (v : Value) : Except ConfigFault Settings :=
  match name with
  | "registry_file" => do
    return { s with registryFile := ← v.text Wire.Shape.path.expected }
  | "log_level" => do return { s with logLevel := ← v.text Wire.Shape.text.expected }
  | "host" => do return { s with host := ← v.text Wire.Shape.text.expected }
  | "port" => do
    return { s with port := (← v.whole 16 (Wire.Shape.whole .short).expected).toUInt16 }
  | "request_timeout_secs" => do
    return { s with
      requestTimeoutSecs := (← v.whole 64 (Wire.Shape.whole .long).expected).toUInt64 }
  | "field_extractor" => do return { s with extractor := ← v.extractor }
  | _ => .ok s

/-- The parts behind a node, of which `depth` collections are open. -/
def skipNode (depth : Nat) : List (Yaml.Part Nat) → Option (List (Yaml.Part Nat))
  | [] => none
  | p :: rest =>
    match p.event with
    | .sequenceStart _ | .mappingStart _ => skipNode (depth + 1) rest
    | .sequenceEnd | .mappingEnd => if depth ≤ 1 then some rest else skipNode (depth - 1) rest
    | _ => if depth == 0 then some rest else skipNode depth rest

/-- The fault of a document whose parts run out. -/
def endFault (d : Document) : ConfigFault := (d.fault.map .malformed).getD .unfinished

/-- Reads a key: its text, and how messages show it. -/
def readKey (d : Document) (p : Yaml.Part Nat) : Except ConfigFault (String × String) :=
  let target := d.target p
  match target.event with
  | .scalar s => .ok (s.text, if p.event matches .reference _ then "?" else s.text)
  | event => .error (.mismatched "" (mismatch event "field identifier") target.place)

/-- Reads the entries of a mapping; `fuel` is more than the number of
parts. -/
def readEntries (d : Document) (mapping : Place) :
    Nat → Settings → List (Yaml.Part Nat) → Except ConfigFault Settings
  | 0, s, _ => .ok s
  | _, _, [] => .error (endFault d)
  | fuel + 1, s, p :: rest =>
    if p.event matches .mappingEnd then .ok s
    else do
      let (name, key) ← readKey d p
      match isSet? s name, rest with
      | some true, _ => throw (.mismatched "" (.repeatedKey name) mapping)
      | some false, part :: behind =>
        let s ← readSetting s name ⟨key, part, d.target part, mapping⟩
        readEntries d mapping fuel s behind
      | some false, [] => throw (endFault d)
      | none, _ =>
        match skipNode 0 rest with
        | some behind => readEntries d mapping fuel s behind
        | none => throw (endFault d)

/-- **What a document says about a configuration.** -/
def readRoot (d : Document) : Except ConfigFault Settings :=
  let expected := (Wire.Shape.record .config).expected
  match d.parts with
  | [] => .error (endFault d)
  | p :: rest =>
    match p.event with
    | .mappingStart _ => readEntries d p.place (rest.length + 1) .empty rest
    | .scalar ⟨_, "", .plain⟩ => .ok .empty
    | event => .error (.mismatched "" (mismatch event expected) p.place)

end ConfigDocument

namespace Settings

/-- **What a text says about a configuration.** A text without a document
says nothing. -/
def ofYaml (text : String) : Except ConfigFault Settings :=
  match Document.first text with
  | none => .ok .empty
  | some d => do
    let s ← ConfigDocument.readRoot d
    match d.fault with
    | some fault => throw (.malformed fault)
    | none => if d.isFollowed then throw .moreDocuments else return s

end Settings

namespace Config

/-- The entries that a configuration is written as. -/
def entries (c : Config) : List (String × String) :=
  [("registry_file", c.registryFile), ("log_level", c.logLevel), ("host", c.host)]

/-- **The YAML text of a configuration.** -/
def yaml (c : Config) : String :=
  let plain (key value : String) : List Char := (key ++ ": " ++ value ++ "\n").toList
  let extractor :=
    match ConfigDocument.Value.extractorNames.find? (·.2 == c.extractor) with
    | some (name, _) => name
    | none => ""
  String.ofList
    (c.entries.flatMap (fun (key, value) => Yaml.Printer.entry key.toList value.toList) ++
      plain "port" (toString c.port.toNat) ++
      plain "request_timeout_secs" (toString c.requestTimeoutSecs.toNat) ++
      plain "field_extractor" extractor)

end Config

end GraphGateway
