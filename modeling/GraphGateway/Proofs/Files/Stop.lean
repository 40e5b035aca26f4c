import GraphGateway.Files.Step
import GraphGateway.Proofs.Files.Way

/-!
# Steps that are stopped

A change of files can be stopped while it is made: directories are made one by one, and a
file is there as soon as it is opened, before its octets are. `FileStep.Passes` tells the
trees that a step passes through. They include the tree that it comes to and the one that
it leaves where it fails (`FileStep.passes_of_run`, `FileStep.passes_unfinished`). Steps
that are taken one after the other can be stopped in each of them (`FileStep.StopsIn`).
-/

namespace GraphGateway

namespace Disk

variable {d d' : Disk}

/-- **The trees that there are while a directory is made**, with its parts given the last
first. -/
inductive Making (absolute : Bool) : List String → Disk → Disk → Prop where
  /-- Nothing was made yet. -/
  | start (parts : List String) (d : Disk) : Making absolute parts d d
  /-- Those on the way are being made. -/
  | before {last : String} {before : List String} {d d' : Disk}
    (hmissing : d.ensureDirectory ⟨absolute, (last :: before).reverse, false⟩ = .error .notFound)
    (hbefore : Making absolute before d d') : Making absolute (last :: before) d d'
  /-- All of them are there. -/
  | made {parts : List String} {d d' : Disk}
    (hmade : makeDirectoriesFrom absolute parts d = .ok d') : Making absolute parts d d'

/-- What is left where a directory cannot be made is one of these trees. -/
theorem making_unfinishedFrom (absolute : Bool) (parts : List String) (d : Disk) :
    Making absolute parts d (unfinishedFrom absolute parts d) := by
  induction parts with
  | nil => exact .start _ _
  | cons last before ih =>
    rw [unfinishedFrom]
    split
    · next hmissing =>
      refine .before hmissing ?_
      split
      · next between hbefore => exact .made hbefore
      · exact ih
    · exact .start _ _

/-- **While a directory is made** no other places are come to than those that its path
passes. -/
theorem Making.touches {absolute : Bool} {parts : List String} {way files : List FilePlace}
    (h : Making absolute parts d d')
    (hway : ∀ before, before <+: parts.reverse →
      (⟨absolute, before, false⟩ : FilePath).place ∈ way) :
    Touches way files d d' := by
  induction h with
  | start => exact .refl _ _ _
  | before _ _ ih =>
    exact ih fun first hfirst =>
      hway first (hfirst.trans (List.reverse_cons ▸ List.prefix_append _ _))
  | made hmade => exact touches_makeDirectoriesFrom hmade hway

end Disk

namespace FileStep

variable {d d' : Disk} {step : FileStep}

/-- **The trees that a step passes through**, from the one that it begins with. -/
inductive Passes : FileStep → Disk → Disk → Prop where
  /-- Nothing was done yet. -/
  | start (step : FileStep) (d : Disk) : Passes step d d
  /-- Directories are being made. -/
  | making {path : FilePath} {d d' : Disk}
    (h : Disk.Making path.absolute path.parts.reverse d d') : Passes (.makeDirectories path) d d'
  /-- Some octets of the file were written. -/
  | writing {path : String} {octets : List UInt8} {d d' : Disk} (n : ℕ)
    (h : d.write path (octets.take n) = .ok d') : Passes (.write path octets) d d'
  /-- The file was moved. -/
  | moved {source target : String} {d d' : Disk} (h : d.move source target = .ok d') :
    Passes (.move source target) d d'

/-- A step comes to its end by the trees that it passes through. -/
theorem passes_of_run (h : step.run d = .ok d') : step.Passes d d' := by
  cases step with
  | makeDirectories path => exact .making (.made h)
  | write path octets => exact .writing octets.length (by rwa [List.take_length])
  | move source target => exact .moved h

/-- A step that fails leaves one of them. -/
theorem passes_unfinished (step : FileStep) (d : Disk) : step.Passes d (step.unfinished d) := by
  cases step with
  | makeDirectories path => exact .making (Disk.making_unfinishedFrom ..)
  | write path octets => exact .start ..
  | move source target => exact .start ..

/-- **The trees that some steps pass through** that are taken one after the other, up to
the first that fails. -/
inductive StopsIn : List FileStep → Disk → Disk → Prop where
  /-- All of them were taken. -/
  | ended (d : Disk) : StopsIn [] d d
  /-- It is the first of them that is being taken. -/
  | here {step : FileStep} {rest : List FileStep} {d d' : Disk} (h : step.Passes d d') :
    StopsIn (step :: rest) d d'
  /-- The first of them was taken. -/
  | later {step : FileStep} {rest : List FileStep} {d between d' : Disk}
    (hstep : step.run d = .ok between) (h : StopsIn rest between d') : StopsIn (step :: rest) d d'

/-- **While a file is written** no other place is come to than its own. -/
theorem touches_of_stopsIn_write {path : String} {octets : List UInt8} {way files : List FilePlace}
    (h : StopsIn [.write path octets] d d') (hfiles : (FilePath.placeOf path).toList ⊆ files) :
    d.Touches way files d' := by
  cases h with
  | here hwrite =>
    cases hwrite with
    | start => exact .refl _ _ d
    | writing n hwrite => exact Disk.touches_write hwrite hfiles
  | later hwrite hended =>
    cases hended
    exact Disk.touches_write hwrite hfiles

/-- **What steps leave**, whether all of them succeed or not, is one of these trees. -/
theorem stopsIn_runAll (steps : List FileStep) (d : Disk) : StopsIn steps d (runAll d steps).1 := by
  induction steps generalizing d with
  | nil => exact .ended d
  | cons step rest ih =>
    rw [runAll]
    cases hstep : step.run d with
    | ok between => exact .later hstep (ih between)
    | error e => exact .here (passes_unfinished step d)

/-- **With one more step at the end** the steps before it are stopped, or all of them were
taken and it is that step that is stopped. -/
theorem stopsIn_concat {first : List FileStep} {last : FileStep}
    (h : StopsIn (first ++ [last]) d d') :
    StopsIn first d d'
      ∨ ∃ between, runAll d first = (between, .ok ()) ∧ last.Passes between d' := by
  induction first generalizing d with
  | nil =>
    cases h with
    | here hlast => exact .inr ⟨d, rfl, hlast⟩
    | later hlast hended =>
      cases hended
      exact .inr ⟨d, rfl, passes_of_run hlast⟩
  | cons step first ih =>
    cases h with
    | here hstep => exact .inl (.here hstep)
    | later hstep h =>
      refine (ih h).imp (.later hstep) fun ⟨between, hfirst, hlast⟩ => ⟨between, ?_, hlast⟩
      rw [runAll, hstep]
      exact hfirst

/-- **Steps that fail** have come no further than to their last one, where this one leaves
nothing behind. -/
theorem stopsIn_of_fails {first : List FileStep} {last : FileStep}
    (hlast : ∀ d, last.unfinished d = d) (h : (runAll d (first ++ [last])).2 ≠ .ok ()) :
    StopsIn first d (runAll d (first ++ [last])).1 := by
  induction first generalizing d with
  | nil =>
    rw [List.nil_append, runAll] at h ⊢
    split at h
    · exact absurd rfl h
    · rw [hlast]
      exact .ended d
  | cons step first ih =>
    rw [List.cons_append, runAll] at h ⊢
    split at h
    · next hstep => exact .later hstep (ih h)
    · exact .here (passes_unfinished step d)

end FileStep

end GraphGateway
