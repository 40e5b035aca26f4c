import GraphGateway.Config.File
import GraphGateway.Proofs.Config.Text
import GraphGateway.Proofs.Files.Disk
import GraphGateway.Proofs.Files.Extension

/-!
# A saved configuration is read back

A configuration is saved as its text, and what that says is the configuration
(`ofYaml_yaml`), whatever its texts of printable characters look like. So a file
that can be written at all is read back, if it is taken for a configuration file.

That is a matter of its name, which needs an extension. A path that ends in
`.yaml` has one if there is a name before the dot. If there is none, the dot
begins a name like those of hidden files, the ending is not an extension, and the
file is refused (`ofFile_save`).
-/

namespace GraphGateway.Config

variable {c : Config} {d : Disk} {stem e : String}

/-- The endings of the names of configuration files stand behind a dot. -/
theorem isEnding_of_mem_extensions (h : e ∈ extensions) : FilePath.IsEnding e := by
  simp only [extensions, List.mem_cons, List.not_mem_nil, or_false] at h
  obtain rfl | rfl | rfl := h <;> exact ⟨by decide, by simp, by simp⟩

/-- **The name of a configuration file has its ending**, unless it is nothing
else. -/
theorem isReadable_append (h : e ∈ extensions) (stem : String) :
    Settings.isReadable (stem ++ "." ++ e) = !decide (FilePath.IsOpen stem) := by
  rw [Settings.isReadable, FilePath.extension?_append (isEnding_of_mem_extensions h)]
  by_cases hopen : FilePath.IsOpen stem
  · rw [if_pos hopen, decide_eq_true hopen]
    rfl
  · rw [if_neg hopen, decide_eq_false hopen]
    exact List.contains_iff_mem.mpr h

/-- What the text of a configuration says is the configuration. -/
theorem ofRead_yaml (hc : c.IsPrintable) (path : String) :
    (Settings.ofRead path (.ok c.yaml)).map (·.overlay default) = .ok c := by
  rw [Settings.ofRead, ofYaml_yaml hc]
  exact congrArg Except.ok (overlay_said c default)

/-- **A saved configuration is read back** if its texts are of printable
characters, unless the name of its file is nothing but an ending: such a name
has no extension, and the file is refused. -/
theorem ofFile_save (hc : c.IsPrintable) (he : e ∈ extensions)
    (hpath : d.IsWritable (stem ++ "." ++ e)) :
    ∃ d', c.save d (stem ++ "." ++ e) = .ok d'
      ∧ ofFile d' (stem ++ "." ++ e)
        = if FilePath.IsOpen stem then .error (Settings.unreadable (stem ++ "." ++ e))
          else .ok c := by
  obtain ⟨d', hwrite⟩ := hpath.exists_write (Text.Utf8.encode c.yaml)
  refine ⟨d', by rw [save, hwrite]; rfl, ?_⟩
  rw [ofFile, Settings.ofFile, isReadable_append he]
  by_cases hopen : FilePath.IsOpen stem
  · rw [if_pos hopen, decide_eq_true hopen]
    rfl
  · rw [if_neg hopen, decide_eq_false hopen, Disk.readText_write hwrite, Bool.not_false, if_pos rfl]
    exact ofRead_yaml hc _

/-- A configuration whose texts look like something else. -/
def exampleConfig : Config :=
  { registryFile := " it's: #1 "
    logLevel := "null"
    host := "0x1F"
    port := 65535
    requestTimeoutSecs := 18446744073709551615
    extractor := .document }

/-- Its texts are of printable characters. -/
theorem isPrintable_exampleConfig : exampleConfig.IsPrintable := by
  refine ⟨?_, ?_, ?_⟩ <;> simp [exampleConfig, Yaml.IsPrintableAscii]

/-- A file can be written where there is none. -/
theorem isWritable_empty : Disk.empty.IsWritable ("config" ++ "." ++ "yaml") := ⟨[], _, rfl⟩

/-- **Texts that look like something else are read back.** -/
theorem ofFile_exampleConfig :
    exampleConfig.IsPrintable ∧ "yaml" ∈ extensions
      ∧ Disk.empty.IsWritable ("config" ++ "." ++ "yaml")
      ∧ ∃ d', exampleConfig.save .empty ("config" ++ "." ++ "yaml") = .ok d'
        ∧ ofFile d' ("config" ++ "." ++ "yaml") = .ok exampleConfig := by
  refine ⟨isPrintable_exampleConfig, by decide, isWritable_empty, ?_⟩
  obtain ⟨d', hsave, hread⟩ := ofFile_save isPrintable_exampleConfig (by decide) isWritable_empty
  exact ⟨d', hsave, hread.trans (if_neg (by decide))⟩

/-- **Not every saved configuration is read back**: a file whose name is nothing
but an ending is refused. -/
theorem not_ofFile_save :
    ¬ ∀ (c : Config) (d : Disk) (stem e : String), c.IsPrintable → e ∈ extensions →
      d.IsWritable (stem ++ "." ++ e) →
        ∃ d', c.save d (stem ++ "." ++ e) = .ok d' ∧ ofFile d' (stem ++ "." ++ e) = .ok c := by
  intro h
  have hdefault : default.IsPrintable := by
    refine ⟨?_, ?_, ?_⟩ <;> simp [default, Yaml.IsPrintableAscii]
  obtain ⟨d', -, hread⟩ := h default .empty "" "yaml" hdefault (by decide) ⟨[], _, rfl⟩
  have hreadable := isReadable_append (e := "yaml") (by decide) ""
  rw [ofFile, Settings.ofFile, hreadable, decide_eq_true (by decide)] at hread
  cases hread

end GraphGateway.Config
