import GraphGateway.Files.Step
import GraphGateway.Flow
import GraphGateway.Registry.Codec

/-!
# Registries in files

A registry is loaded from a file, and a file that is not there counts as
the empty registry. It is saved in steps: the directory is made, the text
is written to a file beside the one that is meant, and that file is moved
into place, so that nobody ever reads half a registry.

`Registry.saveSteps` lists the steps and `Registry.save` takes them up to
the first that fails.
-/

namespace GraphGateway

namespace Registry

/-- The path of the file that a registry is written to first. -/
def besidePath (path : String) : String := path ++ ".tmp"

/-- The registry that was read from a file; without a file there is none,
and another one counts. -/
def ofRead (absent : Registry) : Except FileFailure (List UInt8) → Except GatewayError Registry
  | .ok octets => ofOctets octets
  | .error .notFound => .ok absent
  | .error e => .error (.files e)

/-- **Loads a registry.** -/
def load (d : Disk) (path : String) : Except GatewayError Registry := ofRead empty (d.read path)

/-- **Loads a registry in place of another**, which stays where there is
no file. -/
def loadInto (r : Registry) (d : Disk) (path : String) : Except GatewayError Registry :=
  ofRead r (d.read path)

/-- **Puts what a text holds in place of the registry** in one step, once the
whole text was read. -/
def replaceFlow (octets : List UInt8) : Flow.Fallible Unit :=
  match ofOctets octets with
  | .error e => .done (.error e)
  | .ok imported => .atomically (fun _ _ => imported) fun _ _ => .done (.ok ())

/-- Puts what a file holds in place of the registry, which stays as it is where
there is no file. -/
def loadFlow (d : Disk) (path : String) : Flow.Fallible Unit :=
  match d.read path with
  | .ok octets => replaceFlow octets
  | .error .notFound => .done (.ok ())
  | .error e => .done (.error (.files e))

/-- **The steps that save a registry.** -/
def saveSteps (r : Registry) (path : String) : List FileStep :=
  let directory := ((FilePath.ofText path).bind FilePath.parent?).map FileStep.makeDirectories
  directory.toList ++
    [.write (besidePath path) r.exportOctets, .move (besidePath path) path]

/-- **Saves a registry.** -/
def save (r : Registry) (d : Disk) (path : String) : Disk × Except GatewayError Unit :=
  let (d, result) := FileStep.runAll d (r.saveSteps path)
  (d, result.mapError GatewayError.files)

end Registry

end GraphGateway
