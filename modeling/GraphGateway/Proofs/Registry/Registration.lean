import GraphGateway.Proofs.Registry.Failure
import GraphGateway.Proofs.Registry.History

/-!
# The activities of clients change the registry once

An activity that registers, changes, refreshes or removes a server takes
several steps, and only one of them changes the registry. Taken alone, it
either fails and leaves the registry as it was, since it fails cleanly, or makes
one change of the kind that histories are made of (`Flow.ChangesOnce`).
-/

namespace GraphGateway

open Introspection (probe introspect)
open Registry (Change)

namespace Flow

variable {α β : Type}

/-- **Whether an activity changes the registry once** if it succeeds, at a time
of the clock and with no schema but one that a backend gave, and not at all if
it fails. -/
structure ChangesOnce (world : World) (flow : Fallible α) : Prop where
  /-- A failure changes nothing. -/
  of_error : ∀ s e, (flow.run world s).1 = .error e → (flow.run world s).2.registry = s.registry
  /-- A success is a change. -/
  of_ok : ∀ s value, (flow.run world s).1 = .ok value →
    ∃ (c : Change) (n : Nat), c.IsBacked
      ∧ c.apply (world.clock n) s.registry = .ok (flow.run world s).2.registry

/-- **Whether an activity leaves the registry as it is**, however it ends. -/
def LeavesRegistry (world : World) (flow : Flow α) : Prop :=
  ∀ s : Run, (flow.run world s).2.registry = s.registry

variable {world : World}

/-- An activity that only looks leaves the registry. -/
theorem LooksOnly.leavesRegistry {flow : Flow α} (h : LooksOnly flow) :
    LeavesRegistry world flow := by
  intro s
  obtain ⟨events, hrun, -⟩ := among_run Eq (fun _ => rfl) world flow s
  exact hrun.left_eq (h _ _ _ _ _ hrun)

/-- An activity that changes the registry once may wait for one that leaves
it. -/
theorem LeavesRegistry.changesOnce {first : Fallible β} {next : β → Fallible α}
    (hfirst : LeavesRegistry world first)
    (hnext : ∀ s value, (first.run world s).1 = .ok value → ChangesOnce world (next value)) :
    ChangesOnce world (andThen first next) where
  of_error s e he := by
    rw [run_andThen] at he ⊢
    cases hvalue : (first.run world s).1 with
    | error e => exact hfirst s
    | ok value =>
      rw [hvalue] at he
      exact ((hnext s value hvalue).of_error _ e he).trans (hfirst s)
  of_ok s result hresult := by
    rw [run_andThen] at hresult ⊢
    cases hvalue : (first.run world s).1 with
    | error e =>
      rw [hvalue] at hresult
      cases hresult
    | ok value =>
      rw [hvalue] at hresult
      obtain ⟨c, n, hc, hmade⟩ := (hnext s value hvalue).of_ok _ result hresult
      rw [hfirst s] at hmade
      exact ⟨c, n, hc, hmade⟩

/-- An operation changes the registry once if what it does is a change. -/
theorem changesOnce_attempt
    {operation : Time.Instant → Registry → Except GatewayError (Registry × α)} (c : Change)
    (hc : c.IsBacked) (h : ∀ now r, c.apply now r = (operation now r).map Prod.fst) :
    ChangesOnce world (attempt operation) where
  of_error := (failsCleanly_attempt operation).alone world
  of_ok s value hvalue := by
    rw [run_attempt] at hvalue ⊢
    cases hresult : operation (world.clock s.ticks) s.registry with
    | error e =>
      rw [hresult] at hvalue
      cases hvalue
    | ok pair =>
      refine ⟨c, s.ticks, hc, ?_⟩
      rw [h, hresult]
      rfl

end Flow

variable {world : Flow.World}

/-- A probe leaves the registry. -/
theorem Introspection.leavesRegistry_probe (endpoint : String) :
    Flow.LeavesRegistry world (probe endpoint) :=
  (Introspector.overHttp.looksOnly endpoint).1.leavesRegistry

/-- An introspection leaves the registry. -/
theorem Introspection.leavesRegistry_introspect (endpoint : String) :
    Flow.LeavesRegistry world (introspect endpoint) :=
  (Introspector.overHttp.looksOnly endpoint).2.leavesRegistry

/-- **What is done with the schema of a backend** changes the registry once, if it
does so with any schema that a backend gave. -/
theorem Introspection.changesOnce_introspect {α : Type} (endpoint : String)
    {next : Schema → Flow.Fallible α}
    (h : ∀ schema, schema.IsIntrospected → Flow.ChangesOnce world (next schema)) :
    Flow.ChangesOnce world (Flow.andThen (introspect endpoint) next) :=
  (leavesRegistry_introspect endpoint).changesOnce fun _ schema hschema =>
    h schema (isIntrospected_of_introspect hschema)

/-- An insertion changes the registry once. -/
theorem Registration.changesOnce_insert (r : Registration) {schema : Schema}
    (h : schema.IsIntrospected) : Flow.ChangesOnce world (r.insert schema) where
  of_error := (r.failsCleanly_insert schema).alone world
  of_ok s server hserver := by
    rw [insert, Flow.run, Flow.run_attempt] at hserver ⊢
    cases hresult : s.registry.register (r.server schema (world.clock s.ticks)) with
    | error e =>
      dsimp only at hserver
      rw [hresult] at hserver
      cases hserver
    | ok changed =>
      refine ⟨.register r schema, s.ticks, fun found hfound => ?_, hresult⟩
      rw [← Option.some.inj hfound]
      exact h

/-- A registration under an id that is free goes on with the probe. -/
theorem Registration.run_register_of_free (r : Registration) {s : Flow.Run} {e : GatewayError}
    (h : s.registry.get r.id = .error e) :
    r.register.run world s
      = (Flow.andThen (probe r.endpoint) fun _ =>
        Flow.andThen (introspect r.endpoint) fun schema => r.insert schema).run world
          { s with ticks := s.ticks + 1 } := by
  rw [register, registerBy, Flow.run_bind, Flow.run_readRegistry]
  dsimp only
  rw [h]
  rfl

/-- A registration under an id that is taken ends there. -/
theorem Registration.run_register_of_taken (r : Registration) {s : Flow.Run} {existing : Server}
    (h : s.registry.get r.id = .ok existing) :
    r.register.run world s
      = (.error (.serverExists existing.id), { s with ticks := s.ticks + 1 }) := by
  rw [register, registerBy, Flow.run_bind, Flow.run_readRegistry]
  dsimp only
  rw [h]
  rfl

/-- **A registration changes the registry once.** -/
theorem Registration.changesOnce_register (r : Registration) :
    Flow.ChangesOnce world r.register where
  of_error := (r.failsCleanly_registerBy .overHttp).alone world
  of_ok s server hserver := by
    have hinsert : Flow.ChangesOnce world
        (Flow.andThen (introspect r.endpoint) fun schema => r.insert schema) :=
      Introspection.changesOnce_introspect r.endpoint fun _ hschema => r.changesOnce_insert hschema
    have hprobe := (Introspection.leavesRegistry_probe r.endpoint).changesOnce fun _ _ _ => hinsert
    -- whether the id is free is looked up once more at the insertion, so nothing
    -- depends on what the first look saw
    cases hget : s.registry.get r.id with
    | ok existing =>
      rw [r.run_register_of_taken hget] at hserver
      cases hserver
    | error free =>
      rw [r.run_register_of_free hget] at hserver ⊢
      exact hprobe.of_ok { s with ticks := s.ticks + 1 } server hserver

namespace Registry

/-- **An update changes the registry once.** -/
theorem changesOnce_updateFlow (id : String) {u : ServerUpdate}
    (h : ∀ schema ∈ u.schema, schema.IsIntrospected) :
    Flow.ChangesOnce world (updateFlow id u) :=
  Flow.changesOnce_attempt (.update id u) h fun _ _ => rfl

/-- **Starting a server changes the registry once.** -/
theorem changesOnce_activate (id : String) : Flow.ChangesOnce world (activate id) :=
  changesOnce_updateFlow id fun _ h => (by cases h)

/-- **Stopping a server changes the registry once.** -/
theorem changesOnce_deactivate (id : String) : Flow.ChangesOnce world (deactivate id) :=
  changesOnce_updateFlow id fun _ h => (by cases h)

/-- **A removal changes the registry once.** -/
theorem changesOnce_removeFlow (id : String) : Flow.ChangesOnce world (removeFlow id) :=
  Flow.changesOnce_attempt (.remove id) (fun _ h => (by cases h)) fun _ _ => rfl

/-- **A refresh changes the registry once.** -/
theorem changesOnce_refresh (id : String) : Flow.ChangesOnce world (refresh id) := by
  rw [refresh, refreshBy]
  refine (Flow.looksOnly_readRegistry _).leavesRegistry.changesOnce fun _ server _ => ?_
  refine Introspection.changesOnce_introspect server.endpoint fun schema hschema => ?_
  refine changesOnce_updateFlow id fun found hfound => ?_
  rw [← Option.some.inj hfound]
  exact hschema

end Registry

end GraphGateway
