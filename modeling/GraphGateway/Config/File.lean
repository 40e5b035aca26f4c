import GraphGateway.Config.Document
import GraphGateway.Files.View

/-!
# Configurations in files

The configuration that a gateway runs with is put together from three
sources: what holds where nothing is set, a file, and the environment, each
over the one before. The file is the one that is named; if none is named,
it is the file of the default name, which does not have to be there.

A file that is named, or that is found at the default name, has to be
readable: `Config.load` does not fall back to what holds without it. Only
where the look-up of the default name fails is there no file; what counts
is that it fails, and not why.
-/

namespace GraphGateway

namespace Config

/-- The name of the file that is read where none is named. -/
def defaultFile : String := "config.yaml"

/-- The extensions of the names of configuration files. -/
def extensions : List String := ["yaml", "yml", "json"]

end Config

namespace Settings

/-- Whether the name of a file is that of a configuration file. -/
def isReadable (path : String) : Bool :=
  Config.extensions.contains ((FilePath.extension? path).getD "")

/-- The error of a file with another name. -/
def unreadable (path : String) : GatewayError :=
  .badConfig ("unsupported config file format for " ++ path ++ ", expected one of: " ++
    String.intercalate ", " Config.extensions)

/-- What the text that was read from a file says. -/
def ofRead (path : String) : Except FileFailure String → Except GatewayError Settings
  | .error e => .error (.badConfig ("failed to read config file " ++ path ++ ": " ++ e.message))
  | .ok text => (ofYaml text).mapError fun fault => .badConfigFile path fault.message

/-- **What a file says about a configuration.** -/
def ofFile (v : FileView) (path : String) : Except GatewayError Settings :=
  if isReadable path then ofRead path (v.readText path) else .error (unreadable path)

/-- What the chosen file says; without one that is named or found, nothing. -/
def ofChosenFile (v : FileView) : Option String → Except GatewayError Settings
  | some path => ofFile v path
  | none => if v.isThere Config.defaultFile then ofFile v Config.defaultFile else .ok empty

end Settings

namespace Config

/-- The configuration of a file. -/
def ofFile (v : FileView) (path : String) : Except GatewayError Config :=
  (Settings.ofFile v path).map (·.overlay default)

/-- A configuration with what the environment says put over it. -/
def withEnvironment (c : Config) (env : Environment) : Except GatewayError Config :=
  (Settings.ofEnvironment env).map (·.overlay c)

/-- **The configuration that a gateway runs with.** -/
def load (v : FileView) (env : Environment) (path : Option String) :
    Except GatewayError Config := do
  let file ← Settings.ofChosenFile v path
  (file.overlay default).withEnvironment env

/-- **Saves a configuration** in a file. -/
def save (c : Config) (d : Disk) (path : String) : Except GatewayError Disk :=
  (d.write path (Text.Utf8.encode c.yaml)).mapError .files

end Config

end GraphGateway
