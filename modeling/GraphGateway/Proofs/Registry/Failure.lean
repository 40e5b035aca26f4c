import GraphGateway.Proofs.Flow.Failure
import GraphGateway.Registry.Registration
import GraphGateway.Registry.Storage

/-!
# What fails leaves the registry as it was

An operation that changes the registry does so in its last step, and that step
either succeeds or changes nothing. The steps before it only look: at the
registry, or at what a backend answers, or at a file. So an operation that fails
has changed nothing (`Flow.FailsCleanly`), in whichever of its steps it failed
and whatever other clients did between them.

`Registry.failsCleanly_operations` says this of every operation there is. The
schemas come from an `Introspector`, which may answer or fail as it likes.
-/

namespace GraphGateway

open GraphGateway.Flow (FailsCleanly LooksOnly)

/-- An insertion fails cleanly. -/
theorem Registration.failsCleanly_insert (r : Registration) (schema : Schema) :
    FailsCleanly (r.insert schema) :=
  .clock fun _ => Flow.failsCleanly_attempt _

/-- A check and an introspection only look. -/
theorem Introspector.looksOnly (i : Introspector) (endpoint : String) :
    LooksOnly (i.probe endpoint) ∧ LooksOnly (i.introspect endpoint) :=
  ⟨(i.probe_isOutside endpoint).looksOnly, (i.introspect_isOutside endpoint).looksOnly⟩

/-- **A registration fails cleanly**: at the look whether the id is free, in the
check, in the introspection, and at the insertion. -/
theorem Registration.failsCleanly_registerBy (r : Registration) (i : Introspector) :
    FailsCleanly (r.registerBy i) := by
  refine (Flow.looksOnly_readRegistry _).bind_failsCleanly fun found => ?_
  cases found with
  | ok existing => exact (Flow.looksOnly_done _).failsCleanly
  | error e =>
    refine (i.looksOnly r.endpoint).1.andThen_failsCleanly fun _ => ?_
    exact (i.looksOnly r.endpoint).2.andThen_failsCleanly fun schema => r.failsCleanly_insert schema

namespace Registry

/-- An update fails cleanly. -/
theorem failsCleanly_updateFlow (id : String) (u : ServerUpdate) :
    FailsCleanly (updateFlow id u) :=
  Flow.failsCleanly_attempt _

/-- **A refresh fails cleanly**: at the look for the server, in the introspection,
and at the update. -/
theorem failsCleanly_refreshBy (i : Introspector) (id : String) :
    FailsCleanly (refreshBy i id) := by
  refine (Flow.looksOnly_readRegistry _).andThen_failsCleanly fun server => ?_
  exact (i.looksOnly server.endpoint).2.andThen_failsCleanly fun schema =>
    failsCleanly_updateFlow id _

/-- **An import fails cleanly**: the registry is not touched before the whole text
was read, with all of its keys. -/
theorem failsCleanly_replaceFlow (octets : List UInt8) : FailsCleanly (replaceFlow octets) := by
  unfold replaceFlow
  cases ofOctets octets with
  | error e => exact (Flow.looksOnly_done _).failsCleanly
  | ok imported =>
    refine .of_among fun others r events e left hrun => ?_
    cases hrun with
    | access now seen hseen hrest =>
      obtain ⟨-, hresult, -⟩ := Flow.among_done.mp hrest
      cases hresult

/-- A loading fails cleanly. -/
theorem failsCleanly_loadFlow (d : Disk) (path : String) : FailsCleanly (loadFlow d path) := by
  unfold loadFlow
  cases d.read path with
  | ok octets => exact failsCleanly_replaceFlow octets
  | error e => cases e <;> exact (Flow.looksOnly_done _).failsCleanly

/-- **Every operation that fails leaves the registry as it was**, down to the time
of each server's last change: insertions, updates, starts and stops, removals,
imports of any text, loadings of any file, and the registrations and refreshes
that somebody's introspection comes before. -/
theorem failsCleanly_operations :
    (∀ (r : Registration) (schema : Schema), FailsCleanly (r.insert schema))
      ∧ (∀ (id : String) (u : ServerUpdate), FailsCleanly (updateFlow id u))
      ∧ (∀ id : String, FailsCleanly (activate id))
      ∧ (∀ id : String, FailsCleanly (deactivate id))
      ∧ (∀ id : String, FailsCleanly (removeFlow id))
      ∧ (∀ octets : List UInt8, FailsCleanly (replaceFlow octets))
      ∧ (∀ (d : Disk) (path : String), FailsCleanly (loadFlow d path))
      ∧ (∀ (r : Registration) (i : Introspector), FailsCleanly (r.registerBy i))
      ∧ ∀ (i : Introspector) (id : String), FailsCleanly (refreshBy i id) :=
  ⟨Registration.failsCleanly_insert, failsCleanly_updateFlow,
    fun id => failsCleanly_updateFlow id _, fun id => failsCleanly_updateFlow id _,
    fun _ => Flow.failsCleanly_attempt _, failsCleanly_replaceFlow, failsCleanly_loadFlow,
    Registration.failsCleanly_registerBy, failsCleanly_refreshBy⟩

end Registry

end GraphGateway
