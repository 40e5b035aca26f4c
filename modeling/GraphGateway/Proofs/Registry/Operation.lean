import GraphGateway.Proofs.Registry.Overlay

/-!
# Operations on a registry

What a client does to a registry, imports apart, is one of four things: it adds a server
that it knows the schema of, registers a server that is asked for its schema, updates a
server, or removes one (`Registry.Operation`). Each of them makes its change in its last
step, with which it succeeds, and does nothing else to the registry
(`Operation.commits_flow`). So a step of it that changes the registry adds, updates or
removes one server (`Operation.Makes`).

With nobody else acting, an operation that fails leaves the registry as it was, and one
that succeeds leaves it as its last step has made it (`Flow.Commits.of_among`).
-/

namespace GraphGateway

open GraphGateway.Flow (Among Commits Event Takes)
open Time (Instant)

namespace Flow

variable {α β : Type} {P : Event → α → Prop} {flow rest : Fallible α} {events : List Event}
  {r left : Registry}

/-- It may wait for what a look at the registry sees. -/
theorem commits_bind_readRegistry {f : Registry → β} {next : β → Fallible α}
    (hnext : ∀ value, Commits P (next value)) : Commits P (bind (readRegistry f) next) :=
  fun _ seen => .inl ⟨rfl, hnext (f seen)⟩

/-- **What a flow does that makes one change in its last step**: it looks, or it makes the
change. -/
theorem Commits.isLook_or (h : flow.Commits P) (htakes : Takes flow events rest) {e : Event}
    (he : e ∈ events) : e.IsLook ∨ ∃ value, P e value := by
  induction htakes with
  | nil => exact absurd he List.not_mem_nil
  | cons hstep hrest ih =>
    rcases h.step hstep with ⟨hleft, hnext⟩ | ⟨value, now, rfl, rfl, hmade⟩
    · rcases List.mem_cons.mp he with rfl | he
      · left
        cases hstep with
        | access now => exact hleft
        | _ => trivial
      · exact ih hnext he
    · -- nothing is left to do behind the change
      cases hrest with
      | nil => exact .inr ⟨value, List.mem_singleton.mp he ▸ hmade⟩
      | cons hlater _ => cases hlater

/-- **What such a flow leaves with nobody else acting**: the registry as it was if it fails,
and what its last step leaves if it succeeds. -/
theorem Commits.of_among {result : Except GatewayError α} (h : flow.Commits P)
    (hrun : Among Eq flow r events result left) :
    (∃ e, result = .error e ∧ left = r)
      ∨ ∃ value now, result = .ok value ∧ events.getLast? = some (.access now r left)
        ∧ P (.access now r left) value := by
  induction hrun with
  | done =>
    obtain ⟨e, he⟩ := h
    exact .inl ⟨e, he, rfl⟩
  | clock now _ ih =>
    refine (ih (h now)).imp_right fun ⟨value, last, hvalue, hlast, hmade⟩ => ?_
    exact ⟨value, last, hvalue, by rw [List.getLast?_cons, hlast]; rfl, hmade⟩
  | exchange delivery _ ih =>
    refine (ih (h delivery)).imp_right fun ⟨value, last, hvalue, hlast, hmade⟩ => ?_
    exact ⟨value, last, hvalue, by rw [List.getLast?_cons, hlast]; rfl, hmade⟩
  | access now seen hseen hrest ih =>
    subst hseen
    rcases h now _ with ⟨hsame, hnext⟩ | ⟨value, hdone, hmade⟩
    · -- a look: the change, if there is one, comes later
      rw [hsame] at ih
      refine (ih hnext).imp_right fun ⟨value, last, hvalue, hlast, hmade⟩ => ?_
      exact ⟨value, last, hvalue, by rw [List.getLast?_cons, hlast]; rfl, hmade⟩
    · rw [hdone] at hrest
      obtain ⟨rfl, rfl, rfl⟩ := among_done.mp hrest
      exact .inr ⟨value, now, rfl, rfl, hmade⟩

end Flow

/-- **Whether a step removes the server of an id.** -/
def Flow.Event.Removes (id : String) (server : Server) : Event → Prop
  | access _ seen left => seen.remove id = .ok (left, server)
  | _ => False

/-- An insertion adds its server in its last step. -/
theorem Registration.commits_insert (request : Registration) (schema : Schema) :
    (request.insert schema).Commits fun e server =>
      e.Adds server ∧ ∃ schema now, server = request.server schema now := by
  intro now
  refine Flow.commits_attempt fun last seen left server hmade => ?_
  obtain ⟨changed, hregister, hpair⟩ := bind_eq_ok hmade
  obtain ⟨rfl, rfl⟩ := Prod.mk.inj (Except.ok.inj hpair)
  exact ⟨hregister, schema, now, rfl⟩

namespace Registry

/-- **A removal leaves the other servers in their places.** -/
theorem IsMap.all_of_remove {r left : Registry} {id : String} {server : Server} (h : r.IsMap)
    (hremove : r.remove id = .ok (left, server)) : left.all = r.all.filter (·.id != id) := by
  rw [remove_eq hremove, all, all, filter_inRegistrationOrder, Keyed.values, Keyed.values,
    Keyed.erase, List.filter_map]
  congr 2
  refine List.filter_congr fun entry hentry => ?_
  rw [Function.comp_apply, h.keyed entry hentry]

/-- **An operation of a client on a registry**, imports apart. -/
inductive Operation where
  /-- It adds a server with a schema. -/
  | insert (request : Registration) (schema : Schema)
  /-- It registers a server that is probed and asked for its schema. -/
  | register (i : Introspector) (request : Registration)
  /-- It updates a server, starts it, stops it or has it refreshed. -/
  | write (w : Writer)
  /-- It removes a server. -/
  | remove (id : String)

/-- The id of the server that a client updates. -/
def Writer.id : Writer → String
  | update id _ => id
  | activate id => id
  | deactivate id => id
  | refresh _ id => id

/-- An update is of the id that the client has named. -/
theorem Writer.Asks.id_eq {w : Writer} {e : Edit} (h : w.Asks e) : e.id = w.id := by
  cases w <;> exact h.1

namespace Operation

/-- What the client does. -/
def flow : Operation → Flow.Fallible Server
  | insert request schema => request.insert schema
  | register i request => request.registerBy i
  | write w => w.flow
  | remove id => removeFlow id

/-- **What an operation makes**, in the step in which it succeeds. -/
def Makes : Operation → Event → Server → Prop
  | insert request _, e, server => e.Adds server ∧ ∃ schema now, server = request.server schema now
  | register _ request, e, server =>
    e.Adds server ∧ ∃ schema now, server = request.server schema now
  | write w, e, server => ∃ edit, w.Asks edit ∧ edit.IsMadeBy e server
  | remove id, e, server => e.Removes id server

/-- **An operation makes its change in its last step.** -/
theorem commits_flow (op : Operation) : op.flow.Commits op.Makes := by
  cases op with
  | insert request schema => exact request.commits_insert schema
  | register i request =>
    refine Flow.commits_bind_readRegistry fun found => ?_
    cases found with
    | ok existing => exact ⟨_, rfl⟩
    | error free =>
      refine (i.probe_isOutside _).commits_andThen fun _ => ?_
      exact (i.introspect_isOutside _).commits_andThen fun schema => request.commits_insert schema
  | write w => exact w.commits_flow
  | remove id => exact Flow.commits_attempt fun now seen left server hmade => hmade

end Operation

end Registry

end GraphGateway
