import GraphGateway.Proofs.Flow.Run
import GraphGateway.Proofs.Registry.Listing
import GraphGateway.Proofs.Registry.RoundTrip

/-!
# What inactive servers do to routing

A field is looked up in two steps. The first finds the first server that
declares the name as a root type or a type, and sees the inactive servers
too; the second searches the active servers, for a type or a field. Only
active servers are ever found (`owner_active`), but an inactive one that is
hit first decides that the second step is taken: it **shadows** the name
(`isShadowed`).

That is all that inactive servers do. Where the name is not shadowed, the
lookup gives what it gives without them; where it is, it gives what the
second step alone gives without them (`owner_eq_ite`). The two differ
exactly where an active server declares the name as a root type or a type
and is not also the first active server that has it as a type or a field.
-/

namespace GraphGateway

namespace Registry

/-- **The server that a field belongs to** in a registry that nobody changes
between the two look-ups. -/
def owner (r : Registry) (name : String) : Except GatewayError Server :=
  match r.findByField name with
  | .ok server => if server.isActive then .ok server else r.findActiveByField name
  | .error _ => r.findActiveByField name

/-- **Whether a name is shadowed**: the first server that declares it as a
root type or a type is inactive. -/
def isShadowed (r : Registry) (name : String) : Bool :=
  match r.findByField name with
  | .ok server => !server.isActive
  | .error _ => false

/-! ## Look-ups without inactive servers -/

/-- What is first in a list and satisfies `q` is first among what satisfies
`q`. -/
theorem find?_filter_of_find? {α : Type} {l : List α} {p q : α → Bool} {a : α}
    (h : l.find? p = some a) (hq : q a = true) : (l.filter q).find? p = some a := by
  obtain ⟨hp, before, behind, rfl, hbefore⟩ := List.find?_eq_some_iff_append.mp h
  rw [List.filter_append, List.filter_cons_of_pos hq, List.find?_append,
    List.find?_cons_of_pos hp, List.find?_eq_none.mpr fun x hx => ?_]
  · rfl
  · simpa using hbefore x (List.mem_filter.mp hx).1

/-- The second look-up does not see inactive servers. -/
@[simp] theorem findActiveByField_activeOnly (r : Registry) (name : String) :
    r.activeOnly.findActiveByField name = r.findActiveByField name := by
  rw [findActiveByField, active_activeOnly, findActiveByField]

/-- Without inactive servers the first look-up finds active servers only. -/
theorem isActive_of_findByField_activeOnly {r : Registry} {name : String} {server : Server}
    (h : r.activeOnly.findByField name = .ok server) : server.isActive = true := by
  rw [findByField_eq_ok_iff, all_activeOnly] at h
  exact (List.mem_filter.mp (List.mem_of_find?_eq_some h)).2

/-- Nothing is shadowed without inactive servers. -/
theorem isShadowed_activeOnly (r : Registry) (name : String) :
    r.activeOnly.isShadowed name = false := by
  rw [isShadowed]
  split
  · next server h => rw [isActive_of_findByField_activeOnly h]; rfl
  · rfl

/-! ## The owner of a name -/

/-- **The owner of a shadowed name** is found by the second look-up. -/
theorem owner_of_isShadowed {r : Registry} {name : String} (h : r.isShadowed name = true) :
    r.owner name = r.findActiveByField name := by
  rw [isShadowed] at h
  rw [owner]
  split at h
  · next server hfound => exact if_neg (by simpa using h)
  · exact absurd h Bool.false_ne_true

/-- **The owner of a name that is not shadowed** is the first server that
declares it, or else found by the second look-up. -/
theorem owner_of_not_isShadowed {r : Registry} {name : String}
    (h : r.isShadowed name = false) :
    r.owner name
      = match r.findByField name with
        | .ok server => .ok server
        | .error _ => r.findActiveByField name := by
  rw [isShadowed] at h
  rw [owner]
  split at h
  · next server hfound => exact if_pos (by simpa using h)
  · rfl

/-- The owner of a name is active. -/
theorem owner_active {r : Registry} {name : String} {server : Server}
    (h : r.owner name = .ok server) : server.isActive = true := by
  have hsecond : ∀ found, r.findActiveByField name = .ok found → found.isActive = true :=
    fun found hfound => (List.mem_filter.mp (List.mem_of_find?_eq_some
      ((findActiveByField_eq_ok_iff r name found).mp hfound))).2
  rw [owner] at h
  split at h
  · split at h
    · next hactive => rw [← Except.ok.inj h]; exact hactive
    · exact hsecond server h
  · exact hsecond server h

/-- A name that is not shadowed has the owner that it has without the
inactive servers. -/
theorem owner_activeOnly_of_not_isShadowed {r : Registry} {name : String}
    (h : r.isShadowed name = false) : r.activeOnly.owner name = r.owner name := by
  rw [owner_of_not_isShadowed (isShadowed_activeOnly r name), owner_of_not_isShadowed h,
    findActiveByField_activeOnly]
  cases hfound : r.findByField name with
  | ok server =>
    have hactive : server.isActive = true := by
      simpa [isShadowed, hfound] using h
    rw [findByField_eq_ok_iff] at hfound
    have hvisible : r.activeOnly.findByField name = .ok server := by
      rw [findByField_eq_ok_iff, all_activeOnly]
      exact find?_filter_of_find? hfound hactive
    rw [hvisible]
  | error e =>
    have hvisible : r.activeOnly.findByField name = .error (.noServerFound name) := by
      cases hvisible : r.activeOnly.findByField name with
      | error e' => rw [findByField_error hvisible]
      | ok server =>
        -- a server found without the others would have been found among all
        rw [findByField_eq_ok_iff, all_activeOnly] at hvisible
        rw [findByField] at hfound
        split at hfound
        · cases hfound
        · next hnone =>
            have hmem := List.mem_filter.mp (List.mem_of_find?_eq_some hvisible)
            exact absurd (List.find?_some hvisible) (List.find?_eq_none.mp hnone server hmem.1)
    rw [hvisible]

/-- **Inactive servers matter by shadowing only.** -/
theorem owner_eq_ite (r : Registry) (name : String) :
    r.owner name
      = if r.isShadowed name then r.activeOnly.findActiveByField name
        else r.activeOnly.owner name := by
  cases h : r.isShadowed name with
  | true => rw [owner_of_isShadowed h, findActiveByField_activeOnly]; rfl
  | false => rw [← owner_activeOnly_of_not_isShadowed h]; rfl

end Registry

/-! ## Runs of the look-up -/

namespace Router

/-- A look-up by itself finds the owner of the name. -/
theorem run_resolve_fst (world : Flow.World) (field : String) (s : Flow.Run) :
    ((resolve field).run world s).1 = s.registry.owner field := by
  rw [resolve, Flow.run_bind, Flow.run_readRegistry, Registry.owner]
  cases hfound : s.registry.findByField field with
  | ok server => cases hactive : server.isActive <;> simp [Flow.run, hactive]
  | error e => simp

/-- **What inactive servers do to a look-up.** Let `found` be what is found,
and `visible` what is found without the inactive servers.

Where the name is not shadowed the two are the same; where it is, `found` is
what the second look-up finds without the inactive servers. So they differ
exactly where the name is shadowed and the first active server that declares
it as a root type or a type is not the first active one that has it as a
type or a field. In any case a server that is found is active. -/
theorem run_resolve_activeOnly (world : Flow.World) (field : String) (s : Flow.Run) :
    let found := ((resolve field).run world s).1
    let visible := ((resolve field).run world { s with registry := s.registry.activeOnly }).1
    found
        = (if s.registry.isShadowed field then s.registry.activeOnly.findActiveByField field
          else visible)
      ∧ (found = visible
        ↔ s.registry.isShadowed field = false
          ∨ ∀ first, s.registry.activeOnly.findByField field = .ok first →
            s.registry.activeOnly.findActiveByField field = .ok first)
      ∧ ∀ server, found = .ok server → server.isActive = true := by
  intro found visible
  have hfound : found = s.registry.owner field := run_resolve_fst world field s
  have hvisible : visible = s.registry.activeOnly.owner field := run_resolve_fst world field _
  have hite := s.registry.owner_eq_ite field
  rw [hfound, hvisible]
  refine ⟨hite, ?_, fun server => Registry.owner_active⟩
  -- a name that is not shadowed leaves nothing to compare
  cases hshadow : s.registry.isShadowed field with
  | false => simp [hite, hshadow]
  | true =>
    rw [hite, hshadow, if_pos rfl,
      Registry.owner_of_not_isShadowed (Registry.isShadowed_activeOnly s.registry field)]
    cases s.registry.activeOnly.findByField field <;> simp

end Router

/-! ## A shadowed name -/

/-- A server that was stopped, whose one type is that of accounts. -/
def stoppedServer : Server where
  id := "alpha"
  name := "Alpha"
  endpoint := "http://alpha/graphql"
  description := ""
  schema := some
    { queryType := none, mutationType := none, subscriptionType := none
      types := [
        { kind := .object, name := "Account", description := none, fields := []
          inputFields := [], interfaces := [], enumValues := [], possibleTypes := [] }]
      directives := [] }
  addedAt := ⟨1704067200, 0⟩
  updatedAt := ⟨1704067200, 0⟩
  isActive := false

/-- A server that was registered later, whose queries are of that type. -/
def rootServer : Server where
  id := "beta"
  name := "Beta"
  endpoint := "http://beta/graphql"
  description := ""
  schema := some
    { queryType := some (.named .object "Account"), mutationType := none
      subscriptionType := none, types := [], directives := [] }
  addedAt := ⟨1706745600, 0⟩
  updatedAt := ⟨1706745600, 0⟩
  isActive := true

/-- The registry of these two servers. -/
def shadowingRegistry : Registry := ⟨[("alpha", stoppedServer), ("beta", rootServer)]⟩

/-- This registry is sound. -/
theorem isSound_shadowingRegistry : shadowingRegistry.IsSound where
  sorted := by
    rw [shadowingRegistry, Keyed.Sorted]
    decide
  keyed := by simp [shadowingRegistry, stoppedServer, rootServer]
  storable := by
    have hstopped : stoppedServer.IsStorable := by
      refine ⟨by decide, by decide, fun schema hschema => ?_⟩
      obtain rfl := Option.some.inj hschema
      exact ⟨⟨by simp, by simp, by simp⟩, by decide⟩
    have hroot : rootServer.IsStorable := by
      refine ⟨by decide, by decide, fun schema hschema => ?_⟩
      obtain rfl := Option.some.inj hschema
      exact ⟨⟨by simp [TypeRef.IsFlat, TypeRef.named, TypeRef.inner], by simp, by simp⟩, by decide⟩
    simp [shadowingRegistry, hstopped, hroot]

/-- The stopped server is listed first. -/
theorem all_shadowingRegistry : shadowingRegistry.all = [stoppedServer, rootServer] :=
  List.mergeSort_of_pairwise (by decide)

/-- The active server is listed alone. -/
theorem active_shadowingRegistry : shadowingRegistry.active = [rootServer] := by
  rw [Registry.active, all_shadowingRegistry]
  rfl

/-- The history in which these two servers are read from a file. -/
def shadowingHistory : List (Time.Instant × Registry.Change) :=
  [(⟨1706745600, 0⟩, .replace shadowingRegistry.exportOctets)]

/-- This history can have happened. -/
theorem isHistory_shadowingHistory : Registry.IsHistory shadowingHistory := by
  intro entry hentry
  obtain rfl := List.mem_singleton.mp hentry
  exact ⟨by decide, fun _ h => (by cases h)⟩

/-- The file is read. -/
theorem after_shadowingHistory : Registry.after shadowingHistory = shadowingRegistry := by
  rw [shadowingHistory, Registry.after, List.foldl_cons, Registry.leave, Registry.Change.apply,
    isSound_shadowingRegistry.ofOctets_exportOctets]
  rfl

/-- The type of accounts has no owner, because the stopped server hides the
root type of the other. -/
theorem owner_shadowingRegistry :
    shadowingRegistry.owner "Account" = .error (.noServerFound "Account") := by
  rw [Registry.owner, Registry.findByField, all_shadowingRegistry, Registry.findActiveByField,
    active_shadowingRegistry]
  rfl

/-- Without the stopped server it has one. -/
theorem owner_activeOnly_shadowingRegistry :
    shadowingRegistry.activeOnly.owner "Account" = .ok rootServer := by
  rw [Registry.owner, Registry.findByField, Registry.all_activeOnly, active_shadowingRegistry]
  rfl

/-- **Inactive servers do influence routing**: a name that only a root type of an
active server has is not found behind an inactive server that has it, and is
found without it. -/
theorem not_run_resolve_activeOnly :
    ¬ ∀ (history : List (Time.Instant × Registry.Change)) (world : Flow.World) (field : String)
      (calls : List Call) (ticks : Nat), Registry.IsHistory history →
      ((Router.resolve field).run world ⟨Registry.after history, calls, ticks⟩).1
        = ((Router.resolve field).run world
          ⟨(Registry.after history).activeOnly, calls, ticks⟩).1 := by
  intro h
  have hsame := h shadowingHistory ⟨fun _ _ => .noAnswer, fun _ => ⟨1706745600, 0⟩⟩ "Account" [] 0
    isHistory_shadowingHistory
  rw [after_shadowingHistory, Router.run_resolve_fst, Router.run_resolve_fst] at hsame
  dsimp only at hsame
  rw [owner_shadowingRegistry, owner_activeOnly_shadowingRegistry] at hsame
  cases hsame

end GraphGateway
