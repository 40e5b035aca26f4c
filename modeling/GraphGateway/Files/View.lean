import GraphGateway.Files.Disk

/-!
# What is seen of files

Who only looks at files sees of them what the system answers, which is a
`FileView`. It answers two questions about a path, and one answer does not
tell the other: a file that is there need not be one that may be read, and
that something cannot be looked up does not mean that nothing is there. A
directory may be closed, and a link may lead back to itself.

Of a `Disk`, in which nothing is closed and nothing is a link, everything is
seen as it is (`Disk.view`).
-/

namespace GraphGateway

/-- **What the system answers about files**, by their paths. -/
structure FileView where
  /-- Looks something up. -/
  stat : String → Except FileFailure Unit
  /-- Reads a file. -/
  read : String → Except FileFailure (List UInt8)

namespace FileView

variable (v : FileView)

/-- Whether something is found at a path. It is not if the look-up fails,
whatever the failure is. -/
def isThere (path : String) : Bool := (v.stat path).isOk

/-- Reads a file that is a text. -/
def readText (path : String) : Except FileFailure String := do
  (FileEntry.file (← v.read path)).text

end FileView

namespace Disk

/-- **A tree of files as it is seen.** -/
def view (d : Disk) : FileView where
  stat path := (d.find path).map fun _ => ()
  read path := d.read path

instance : Coe Disk FileView := ⟨view⟩

/-- Something is found in a tree where a path leads to it. -/
@[simp] theorem isThere_view (d : Disk) (path : String) :
    d.view.isThere path = (d.find path).isOk := by
  rw [FileView.isThere]
  show ((d.find path).map fun _ => ()).isOk = _
  cases d.find path <;> rfl

/-- A text is read in a tree from what a path leads to. -/
theorem readText_view (d : Disk) (path : String) :
    d.view.readText path = d.find path >>= FileEntry.text := by
  show ((d.find path >>= FileEntry.octets) >>= fun octets => (FileEntry.file octets).text) = _
  rcases d.find path with failure | octets | _ <;> rfl

end Disk

end GraphGateway
