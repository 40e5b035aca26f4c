import GraphGateway.Proofs.Flow.Commit
import GraphGateway.Proofs.Registry.Refresh

/-!
# Updates lie over each other

An update changes the fields that it carries in the server of one id, and the time of its
last change. So after any updates each field of a server is what the last update of its
id has carried in it (`Registry.Overlaid`), its id and the time of its registration are
as they were, and servers that were not updated are the same (`Registry.OverlaidBy`).
Two lists of updates that agree in the last of each field leave the same server but for
the time, so that two updates which carry no field in common may change places
(`Registry.edited_comm`).

Clients update by naming the fields, by starting or stopping a server, and by having it
refreshed (`Registry.Writer`). Each of these makes its update in its last step
(`Registry.Writer.commits_flow`). So whatever they do together, the registry is that
with the updates of those who have succeeded laid over it
(`Registry.keepsUpdates_together`).
-/

namespace GraphGateway

open GraphGateway.Flow (Commits Event Together)
open Time (Instant)

namespace ServerUpdate

/-- The schema that is carried takes the place of the one that was there. -/
theorem schema_apply (u : ServerUpdate) (now : Instant) (server : Server) :
    (u.apply now server).schema = u.schema.or server.schema :=
  Option.orElse_eq_or

/-- **Whether two updates carry no field in common.** -/
structure Disjoint (a b : ServerUpdate) : Prop where
  /-- One of them leaves the name. -/
  name : a.name = none ∨ b.name = none
  /-- One of them leaves the address. -/
  endpoint : a.endpoint = none ∨ b.endpoint = none
  /-- One of them leaves the description. -/
  description : a.description = none ∨ b.description = none
  /-- One of them leaves the schema. -/
  schema : a.schema = none ∨ b.schema = none
  /-- One of them leaves whether requests may be routed to the server. -/
  isActive : a.isActive = none ∨ b.isActive = none

end ServerUpdate

namespace Registry

/-! ## Updates one after the other -/

/-- **An update of a server, made at a time.** -/
structure Edit where
  /-- The id of the server. -/
  id : String
  /-- The fields that it carries. -/
  carried : ServerUpdate
  /-- The time. -/
  now : Instant

/-- The registry that an update leaves, which is the same one if the id is unknown. -/
def edit (r : Registry) (e : Edit) : Registry := r.leave (e.now, .update e.id e.carried)

/-- The registry after some updates. -/
def edited (r : Registry) (edits : List Edit) : Registry := edits.foldl edit r

/-- **What the last of some updates that carried a field has carried in it.** -/
def lastCarried {α : Type} (field : ServerUpdate → Option α) (edits : List Edit) : Option α :=
  (edits.filterMap fun e => field e.carried).getLast?

/-- **What some updates of one server make of it.** -/
structure Overlaid (edits : List Edit) (old new : Server) : Prop where
  /-- The id is not changed. -/
  id : new.id = old.id
  /-- The time of the registration is not changed. -/
  addedAt : new.addedAt = old.addedAt
  /-- The name is the last that was carried. -/
  name : new.name = (lastCarried (·.name) edits).getD old.name
  /-- The address is the last that was carried. -/
  endpoint : new.endpoint = (lastCarried (·.endpoint) edits).getD old.endpoint
  /-- The description is the last that was carried. -/
  description : new.description = (lastCarried (·.description) edits).getD old.description
  /-- The schema is the last that was carried. -/
  schema : new.schema = (lastCarried (·.schema) edits).or old.schema
  /-- Whether requests may be routed to it is as last carried. -/
  isActive : new.isActive = (lastCarried (·.isActive) edits).getD old.isActive
  /-- The time of the last change is that of the last update. -/
  updatedAt : new.updatedAt = ((edits.map (·.now)).getLast?).getD old.updatedAt

/-- **What some updates make of a registry.** -/
structure OverlaidBy (edits : List Edit) (r left : Registry) : Prop where
  /-- The updates of its id lie over each server. -/
  known : ∀ id old, r.get id = .ok old →
    ∃ new, left.get id = .ok new ∧ Overlaid (edits.filter (·.id == id)) old new
  /-- No server comes to be there. -/
  unknown : ∀ id failure, r.get id = .error failure → left.get id = .error failure
  /-- Servers that were not updated are the same. -/
  untouched : ∀ id, (∀ e ∈ edits, e.id ≠ id) → left.get id = r.get id

variable {r seen left : Registry} {e : Edit} {edits : List Edit} {old new server : Server}

/-- **What is under an id behind an update.** -/
theorem get_edit (r : Registry) (e : Edit) (id : String) :
    (r.edit e).get id = if e.id = id then (r.get id).map (e.carried.apply e.now) else r.get id := by
  cases hupdate : r.update e.id e.carried e.now with
  | error failure =>
    have hsame : r.edit e = r := by simp only [edit, leave, Change.apply, hupdate]; rfl
    rw [hsame]
    split
    · next hid =>
      cases hget : r.get id with
      | error _ => rfl
      | ok old =>
        rw [update_eq_ok_iff.mpr ⟨old, hid ▸ hget, rfl, rfl⟩] at hupdate
        cases hupdate
    · rfl
  | ok made =>
    obtain ⟨changed, server⟩ := made
    have hleft : r.edit e = changed := by simp only [edit, leave, Change.apply, hupdate]; rfl
    obtain ⟨old, hold, rfl, -⟩ := update_eq_ok_iff.mp hupdate
    rw [hleft, get_of_update hupdate]
    simp only [eq_comm (a := id)]
    split
    · next hid => rw [← hid, hold]; rfl
    · rfl

/-- The last that was carried, behind a first update. -/
theorem lastCarried_cons {α : Type} (field : ServerUpdate → Option α) (e : Edit)
    (edits : List Edit) :
    lastCarried field (e :: edits) = (lastCarried field edits).or (field e.carried) := by
  unfold lastCarried
  rw [List.filterMap_cons]
  cases field e.carried with
  | none => rw [Option.or_none]
  | some value =>
    rw [List.getLast?_cons]
    cases (edits.filterMap fun e => field e.carried).getLast? <;> rfl

/-- Nothing lies over a server that was not updated. -/
theorem overlaid_nil_iff : Overlaid [] old new ↔ new = old := by
  refine ⟨fun h => ?_, fun h => h ▸ ⟨rfl, rfl, rfl, rfl, rfl, rfl, rfl, rfl⟩⟩
  cases old
  cases new
  obtain ⟨rfl, rfl, rfl, rfl, rfl, rfl, rfl, rfl⟩ := h
  rfl

/-- **A first update and what lies over it.** -/
theorem Overlaid.cons (h : Overlaid edits (e.carried.apply e.now old) new) :
    Overlaid (e :: edits) old new where
  id := h.id
  addedAt := h.addedAt
  name := by rw [h.name, lastCarried_cons, Option.getD_or]; rfl
  endpoint := by rw [h.endpoint, lastCarried_cons, Option.getD_or]; rfl
  description := by rw [h.description, lastCarried_cons, Option.getD_or]; rfl
  schema := by rw [h.schema, lastCarried_cons, Option.or_assoc, ServerUpdate.schema_apply]
  isActive := by rw [h.isActive, lastCarried_cons, Option.getD_or]; rfl
  updatedAt := by rw [h.updatedAt, List.map_cons, List.getLast?_cons]; rfl

/-- **Updates one after the other** lie over the registry. -/
theorem overlaidBy_edited (r : Registry) (edits : List Edit) :
    OverlaidBy edits r (r.edited edits) where
  known id old hold := by
    induction edits generalizing r old with
    | nil => exact ⟨old, hold, overlaid_nil_iff.mpr rfl⟩
    | cons e edits ih =>
      by_cases hid : e.id = id
      · obtain ⟨new, hnew, hover⟩ := ih (r.edit e) (e.carried.apply e.now old) (by
          rw [get_edit, if_pos hid, hold]; rfl)
        rw [List.filter_cons_of_pos (by simpa using hid)]
        exact ⟨new, hnew, hover.cons⟩
      · rw [List.filter_cons_of_neg (by simpa using hid)]
        exact ih (r.edit e) old (by rw [get_edit, if_neg hid, hold])
  unknown id failure hfree := by
    refine List.foldlRecOn (motive := fun left => left.get id = .error failure) edits edit hfree
      fun left hleft e _ => ?_
    rw [get_edit, hleft]
    split <;> rfl
  untouched id hother := by
    refine List.foldlRecOn (motive := fun left => left.get id = r.get id) edits edit rfl
      fun left hleft e he => ?_
    rw [get_edit, if_neg (hother e he), hleft]

/-! ## Updates that change places -/

/-- Two updates, one after the other, whatever the registry is. -/
def inTurn (id : String) (a b : ServerUpdate) (first second : Instant) : List Edit :=
  [⟨id, a, first⟩, ⟨id, b, second⟩]

/-- Of two updates that do not both carry a field, it is the same which is the last. -/
theorem lastCarried_inTurn_comm {α : Type} {field : ServerUpdate → Option α} {a b : ServerUpdate}
    (h : field a = none ∨ field b = none) (id : String) (s t s' t' : Instant) :
    lastCarried field (inTurn id a b s t) = lastCarried field (inTurn id b a s' t') := by
  simp only [inTurn, lastCarried_cons]
  rcases h with h | h <;> rw [h] <;> simp

/-- **Whether two updates leave the same in either order**, on any registry and at any times:
the same server but for the time of its last change, and the same other servers. -/
def Interchangeable (a b : ServerUpdate) : Prop :=
  ∀ (r : Registry) (id : String) (s t s' t' : Instant),
    (∀ old, r.get id = .ok old → ∃ x y, (r.edited (inTurn id a b s t)).get id = .ok x
        ∧ (r.edited (inTurn id b a s' t')).get id = .ok y ∧ x = { y with updatedAt := x.updatedAt })
      ∧ ∀ other ≠ id, (r.edited (inTurn id a b s t)).get other
        = (r.edited (inTurn id b a s' t')).get other

/-- **Updates that carry no field in common may change places.** -/
theorem interchangeable_of_disjoint {a b : ServerUpdate} (h : a.Disjoint b) :
    Interchangeable a b := by
  intro r id s t s' t'
  have hab := overlaidBy_edited r (inTurn id a b s t)
  have hba := overlaidBy_edited r (inTurn id b a s' t')
  refine ⟨fun old hold => ?_, fun other hother => ?_⟩
  · obtain ⟨x, hx, hxover⟩ := hab.known id old hold
    obtain ⟨y, hy, hyover⟩ := hba.known id old hold
    rw [List.filter_eq_self.mpr (by simp [inTurn])] at hxover hyover
    refine ⟨x, y, hx, hy, overlaid_nil_iff.mp ?_⟩
    exact
      { id := hxover.id.trans hyover.id.symm
        addedAt := hxover.addedAt.trans hyover.addedAt.symm
        name := by rw [hxover.name, lastCarried_inTurn_comm h.name]; exact hyover.name.symm
        endpoint := by
          rw [hxover.endpoint, lastCarried_inTurn_comm h.endpoint]; exact hyover.endpoint.symm
        description := by
          rw [hxover.description, lastCarried_inTurn_comm h.description]
          exact hyover.description.symm
        schema := by rw [hxover.schema, lastCarried_inTurn_comm h.schema]; exact hyover.schema.symm
        isActive := by
          rw [hxover.isActive, lastCarried_inTurn_comm h.isActive]; exact hyover.isActive.symm
        updatedAt := rfl }
  · rw [hab.untouched other (by simpa [inTurn] using Ne.symm hother),
      hba.untouched other (by simpa [inTurn] using Ne.symm hother)]

/-! ## Updates by several clients -/

/-- **Whether a step of a flow made an update**, and what it brought. -/
def Edit.IsMadeBy (e : Edit) (step : Event) (server : Server) : Prop :=
  ∃ seen left, step = .access e.now seen left
    ∧ seen.update e.id e.carried e.now = .ok (left, server)

/-- **Updates that lead from one registry to another** are made on it one after the other. -/
theorem edited_of_leads {steps : List Event} (h : Flow.Leads r steps left)
    (hmade : List.Forall₂ (fun step e => ∃ server, e.IsMadeBy step server) steps edits) :
    left = r.edited edits := by
  induction h generalizing edits with
  | nil =>
    cases hmade
    rfl
  | cons _ ih =>
    cases hmade with
    | cons hfirst hmade =>
      obtain ⟨server, _, _, hstep, hupdate⟩ := hfirst
      cases hstep
      rw [ih hmade, edited, edited, List.foldl_cons]
      simp only [edit, leave, Change.apply, hupdate]
      rfl

/-- **A client that updates a server.** -/
inductive Writer where
  /-- It names the fields. -/
  | update (id : String) (u : ServerUpdate)
  /-- It lets requests through to the server again. -/
  | activate (id : String)
  /-- It keeps requests from the server. -/
  | deactivate (id : String)
  /-- It has the server asked for its schema. -/
  | refresh (i : Introspector) (id : String)

namespace Writer

/-- What the client does. -/
def flow : Writer → Flow.Fallible Server
  | update id u => updateFlow id u
  | activate id => Registry.activate id
  | deactivate id => Registry.deactivate id
  | refresh i id => refreshBy i id

/-- **Whether an update is the client's**: it is for the server that the client names, and carries
the fields that the client names, or whether the server is active, or a schema, and nothing
else. -/
def Asks : Writer → Edit → Prop
  | update id u, e => e.id = id ∧ e.carried = u
  | activate id, e => e.id = id ∧ e.carried = ⟨none, none, none, none, some true⟩
  | deactivate id, e => e.id = id ∧ e.carried = ⟨none, none, none, none, some false⟩
  | refresh _ id, e => e.id = id ∧ ∃ schema, e.carried = ⟨none, none, none, some schema, none⟩

/-- **A client makes its update in its last step.** -/
theorem commits_flow (w : Writer) :
    Commits (fun step server => ∃ e, w.Asks e ∧ e.IsMadeBy step server) w.flow := by
  have hupdates : ∀ id (u : ServerUpdate), (∀ now, w.Asks ⟨id, u, now⟩) →
      Commits (fun step server => ∃ e, w.Asks e ∧ e.IsMadeBy step server) (updateFlow id u) :=
    fun id u hasks => Flow.commits_attempt fun now seen left server hmade =>
      ⟨⟨id, u, now⟩, hasks now, seen, left, rfl, hmade⟩
  cases w with
  | update id u => exact hupdates id u fun _ => ⟨rfl, rfl⟩
  | activate id => exact hupdates id _ fun _ => ⟨rfl, rfl⟩
  | deactivate id => exact hupdates id _ fun _ => ⟨rfl, rfl⟩
  | refresh i id =>
    exact Flow.commits_andThen_readRegistry fun server =>
      (i.introspect_isOutside server.endpoint).commits_andThen fun schema =>
        hupdates id _ fun _ => ⟨rfl, schema, rfl⟩

end Writer

section Together

variable {ι : Type} [DecidableEq ι]

/-- **Whether the updates that some clients have made lie over the registry**, each as its
client asked, in the order of the steps that made them. -/
structure KeepsUpdates (writers : ι → Writer) (r : Registry) (trace : List (ι × Event))
    (ended : ι → Flow.Fallible Server) (left : Registry) (edits : List (ι × Edit)) : Prop where
  /-- No client makes two. -/
  once : (edits.map Prod.fst).Nodup
  /-- They are those of the clients that have succeeded. -/
  succeeded : ∀ i, i ∈ edits.map Prod.fst ↔ ∃ server, ended i = .done (.ok server)
  /-- Each is what its client asked. -/
  asked : ∀ made ∈ edits, (writers made.1).Asks made.2
  /-- Each was made in one step, by which its client succeeded. -/
  inSteps : ∃ steps, steps.Sublist trace ∧ List.Forall₂ (fun step made => step.1 = made.1
    ∧ ∃ server, ended made.1 = .done (.ok server) ∧ made.2.IsMadeBy step.2 server) steps edits
  /-- They lie over the registry. -/
  overlaid : OverlaidBy (edits.map Prod.snd) r left

/-- **No update is lost and none spreads**, whatever clients update servers together and
however far each of them has come: the updates of those who have succeeded lie over the
registry in the order in which they were made. And updates that carry no field in common
may change places. -/
theorem keepsUpdates_together {writers : ι → Writer} {ended : ι → Flow.Fallible Server}
    {r left : Registry} {trace : List (ι × Event)}
    (h : Together (fun i => (writers i).flow) r trace ended left) :
    (∃ edits, KeepsUpdates writers r trace ended left edits)
      ∧ ∀ a b : ServerUpdate, a.Disjoint b → Interchangeable a b := by
  refine ⟨?_, fun a b => interchangeable_of_disjoint⟩
  obtain ⟨changes, hchanges, hsucceeded⟩ := Together.commits h fun i => (writers i).commits_flow
  have hedits : ∀ change ∈ changes, ∃ e, (writers change.1).Asks e
      ∧ ∃ server, ended change.1 = .done (.ok server) ∧ e.IsMadeBy change.2 server :=
    fun change hmem =>
      have ⟨server, hdone, e, hasks, hmade⟩ := hchanges.succeeded change hmem
      ⟨e, hasks, server, hdone, hmade⟩
  have : Nonempty Edit := ⟨"", {}, ⟨0, 0⟩⟩
  choose! e hasks hmade using hedits
  refine ⟨changes.map fun change => (change.1, e change), ?_, ?_, ?_, ?_, ?_⟩
  · simpa [Function.comp_def] using hchanges.once
  · simpa [Function.comp_def] using hsucceeded
  · exact List.forall_mem_map.mpr hasks
  · refine ⟨changes, hchanges.inTrace, ?_⟩
    rw [List.forall₂_map_right_iff, List.forall₂_same]
    exact fun change hmem => ⟨rfl, hmade change hmem⟩
  · have hleft : left = r.edited (changes.map e) := by
      refine edited_of_leads hchanges.leads ?_
      rw [List.forall₂_map_left_iff, List.forall₂_map_right_iff, List.forall₂_same]
      exact fun change hmem => (hmade change hmem).imp fun _ => And.right
    rw [hleft, List.map_map]
    exact overlaidBy_edited r _

end Together

/-- Two clients, of which one gives a server another name and the other stops it. -/
def renameAndStop : Bool → Writer
  | true => .update "a" { name := some "B" }
  | false => .deactivate "a"

/-- Both updates are there, with the time of the second, and they may change places. -/
theorem keepsUpdates_renameAndStop :
    ∃ trace ended left edits, Together (fun i => (renameAndStop i).flow) (after addedHistory) trace
        ended left
      ∧ KeepsUpdates renameAndStop (after addedHistory) trace ended left edits
      ∧ left.get "a"
        = .ok { addedServer with name := "B", isActive := false, updatedAt := ⟨1700000021, 0⟩ }
      ∧ Interchangeable { name := some "B" } (.activation false) := by
  let world : Flow.World :=
    { network := fun _ _ => .noAnswer, clock := fun tick => ⟨1700000020 + tick, 0⟩ }
  have hrun := Flow.together_byTurns world [true, false] (fun i => (renameAndStop i).flow)
    { registry := after addedHistory, calls := [], ticks := 0 }
  obtain ⟨⟨edits, hkeeps⟩, hcomm⟩ := keepsUpdates_together hrun
  exact ⟨_, _, _, edits, hrun, hkeeps, rfl,
    hcomm _ _ ⟨.inr rfl, .inl rfl, .inl rfl, .inl rfl, .inl rfl⟩⟩

end Registry

end GraphGateway
