import GraphGateway.Proofs.Flow.Failure
import GraphGateway.Proofs.Flow.Together
import GraphGateway.Proofs.Registry.Consistency
import GraphGateway.Registry.Registration

/-!
# Servers are added

To register a server is to add it under an id that is free, and an addition
changes nothing but what is under this id (`Registry.get_of_register`). An insertion
reads the clock, waits for its turn and then adds its server or finds the id taken
(`Registration.among_insert`). Whether the id is free is decided in the same
indivisible step that adds the server, so it does not matter what was looked up
before.

Where all steps on a registry are looks and additions (`Flow.Event.IsAddition`), what
is under an id stays there (`Flow.Event.IsAddition.keeps_get`), and an id that no
addition is for stays free. A flow that adds a server does so last
(`Flow.AddsLast`), so that whoever has added one has come to its end.
-/

namespace GraphGateway

open GraphGateway.Flow (Event Among Takes)
open Time (Instant)

namespace Registry

variable {r changed : Registry} {server : Server}

/-- **A server is added exactly where its id is free.** -/
theorem register_eq_ok_iff :
    r.register server = .ok changed
      ↔ r.entries.lookup server.id = none
        ∧ changed = ⟨Keyed.insert server.id server r.entries⟩ := by
  rw [register]
  cases r.entries.lookup server.id <;> simp [eq_comm]

/-- A server is not added where its id is taken. -/
theorem register_eq_error_iff {e : GatewayError} :
    r.register server = .error e
      ↔ (∃ existing, r.get server.id = .ok existing) ∧ e = .serverExists server.id := by
  rw [register, get]
  cases r.entries.lookup server.id <;> simp [eq_comm]

/-- **An addition changes what is under one id**, and nothing else. -/
theorem get_of_register (h : r.register server = .ok changed) (id : String) :
    changed.get id = if id = server.id then .ok server else r.get id := by
  obtain ⟨-, rfl⟩ := register_eq_ok_iff.mp h
  rw [get, get, Keyed.lookup_insert]
  by_cases hid : id = server.id <;> simp only [hid, if_true, if_false]

/-- An id that is free is nobody's. -/
theorem get_of_register_self (h : r.register server = .ok changed) :
    r.get server.id = .error (.unknownServer server.id) := by
  rw [get, (register_eq_ok_iff.mp h).1]

/-- **An addition keeps what is there.** -/
theorem get_eq_of_register (h : r.register server = .ok changed) {id : String} {existing : Server}
    (hget : r.get id = .ok existing) : changed.get id = .ok existing := by
  have hne : id ≠ server.id := fun hid => by
    rw [hid, get_of_register_self h] at hget
    cases hget
  rw [get_of_register h, if_neg hne, hget]

/-- What is listed behind an addition is the server and what was listed before. -/
theorem all_of_register (h : r.register server = .ok changed) :
    changed.all.Perm (server :: r.all) := by
  obtain ⟨hfree, rfl⟩ := register_eq_ok_iff.mp h
  exact (perm_all _).trans ((Keyed.values_insert_perm hfree).trans (r.perm_all.symm.cons server))

end Registry

/-! ## Steps that add -/

/-- **Whether a step adds a server.** -/
def Flow.Event.Adds (server : Server) : Event → Prop
  | access _ seen left => seen.register server = .ok left
  | _ => False

/-- **Whether a step adds a server if it changes the registry at all.** -/
def Flow.Event.IsAddition (e : Event) : Prop := e.IsLook ∨ ∃ server, e.Adds server

/-- **What an addition does not end**: whatever an addition of this server keeps. -/
theorem Flow.Event.Adds.keeps {e : Event} {server : Server} (h : e.Adds server)
    {P : Registry → Prop}
    (hP : ∀ seen left, seen.register server = .ok left → P seen → P left) : e.Keeps P := by
  cases e with
  | access now seen left => exact hP seen left h
  | _ => trivial

/-- **Additions keep what is under an id.** -/
theorem Flow.Event.IsAddition.keeps_get {e : Event} (h : e.IsAddition) (id : String)
    (server : Server) : e.Keeps fun r => r.get id = .ok server := by
  rcases h with hlook | ⟨added, hadds⟩
  · exact hlook.keeps _
  · exact hadds.keeps fun seen left hleft hget => Registry.get_eq_of_register hleft hget

/-- An addition of a server keeps other ids free. -/
theorem Flow.Event.Adds.keeps_free {e : Event} {server : Server} (h : e.Adds server) {id : String}
    (hid : server.id ≠ id) (failure : GatewayError) :
    e.Keeps fun r => r.get id = .error failure :=
  h.keeps fun seen left hleft hget => by
    rw [Registry.get_of_register hleft, if_neg (Ne.symm hid), hget]

/-- Additions keep a registry a map. -/
theorem Flow.Event.IsAddition.keeps_isMap {e : Event} (h : e.IsAddition) :
    e.Keeps Registry.IsMap := by
  rcases h with hlook | ⟨added, hadds⟩
  · exact hlook.keeps _
  · exact hadds.keeps fun seen left hleft hmap => hmap.register hleft

/-- An addition is no look: the server was not there before. -/
theorem Flow.Event.Adds.not_isLook {e : Event} {server : Server} (h : e.Adds server) :
    ¬ e.IsLook := by
  cases e with
  | access now seen left =>
    intro hlook
    have hself := Registry.get_of_register h server.id
    rw [if_pos rfl, show left = seen from hlook, Registry.get_of_register_self h] at hself
    cases hself
  | _ => exact h.elim

/-- A step adds one server. -/
theorem Flow.Event.Adds.unique {e : Event} {server other : Server} (h : e.Adds server)
    (hother : e.Adds other) : other = server := by
  cases e with
  | access now seen left =>
    have hself := Registry.get_of_register hother other.id
    rw [if_pos rfl, Registry.get_of_register h] at hself
    split at hself
    · exact (Except.ok.inj hself).symm
    · rw [Registry.get_of_register_self hother] at hself
      cases hself
  | _ => exact h.elim

/-- **Whether a flow adds a server last, or none**: it leaves the registry as it is
in all other steps. -/
def Flow.AddsLast (flow : Flow.Fallible Server) : Prop :=
  ∀ events result, Takes flow events (.done result) →
    (∀ e ∈ events, e.IsLook)
      ∨ ∃ before last server, events = before ++ [last] ∧ (∀ e ∈ before, e.IsLook)
        ∧ last.Adds server ∧ result = .ok server

/-- **What a flow has done that adds a server last**: it looked, and if it has added
a server it has come to its end. -/
theorem Flow.AddsLast.of_takes {flow rest : Flow.Fallible Server} {events : List Event}
    (h : AddsLast flow) (hpart : Takes flow events rest) :
    ∀ e ∈ events, e.IsLook ∨ ∃ server, e.Adds server ∧ rest = .done (.ok server) := by
  intro e he
  -- the flow is taken to its end, and the addition can only be the last of all steps
  obtain ⟨more, result, hrest⟩ := exists_takes_done rest
  rcases h _ _ (hpart.trans hrest) with hlooks | ⟨before, last, server, hsplit, hlooks, hadds, rfl⟩
  · exact .inl (hlooks e (List.mem_append_left _ he))
  · rcases List.eq_nil_or_concat' more with rfl | ⟨more, final, rfl⟩
    · rw [List.append_nil] at hsplit
      rw [hsplit, List.mem_append, List.mem_singleton] at he
      rcases he with he | rfl
      · exact .inl (hlooks e he)
      · cases hrest with
        | nil => exact .inr ⟨server, hadds, rfl⟩
    · rw [← List.append_assoc] at hsplit
      obtain ⟨rfl, -⟩ := List.append_inj' hsplit rfl
      exact .inl (hlooks e (List.mem_append_left _ he))

section Together

variable {ι : Type} [DecidableEq ι] {α : ι → Type} {flows ended : ∀ i, Flow (α i)}
  {r left : Registry} {trace : List (ι × Event)}

/-- **No server is added under an id that is taken**, where all steps are additions. -/
theorem Flow.Together.id_ne_of_adds (h : Together flows r trace ended left)
    (hall : ∀ step ∈ trace, step.2.IsAddition) {id : String} {existing : Server}
    (hr : r.get id = .ok existing) {i : ι} {e : Event} (hmem : (i, e) ∈ trace) {server : Server}
    (hadds : e.Adds server) : server.id ≠ id := by
  rintro rfl
  cases e with
  | access now seen left =>
    obtain ⟨before, behind, mid, next, rfl, hbefore, -⟩ := h.cut_of_mem hmem
    have hseen := hbefore.keeps (fun step hstep =>
      (hall step (List.mem_append_left _ hstep)).keeps_get server.id existing) hr
    rw [Registry.get_of_register_self hadds] at hseen
    cases hseen
  | _ => exact hadds

/-- Behind an addition no server is added under the same id. -/
theorem Flow.Together.id_ne_of_adds_behind {i j : ι} {e e' : Event}
    {before behind : List (ι × Event)} {a b : Server}
    (h : Together flows r (before ++ (i, e) :: behind) ended left)
    (hall : ∀ step ∈ before ++ (i, e) :: behind, step.2.IsAddition) (ha : e.Adds a)
    (hmem : (j, e') ∈ behind) (hb : e'.Adds b) : b.id ≠ a.id := by
  cases e with
  | access now seen seen' =>
    obtain ⟨mid, next, -, hbehind⟩ := h.cut
    have hthere : seen'.get a.id = .ok a := by rw [Registry.get_of_register ha, if_pos rfl]
    exact hbehind.id_ne_of_adds (fun step hstep =>
      hall step (List.mem_append_right _ (List.mem_cons_of_mem _ hstep))) hthere hmem hb
  | _ => exact ha.elim

/-- **Servers under one id are added by one flow**, where all steps are additions. -/
theorem Flow.Together.eq_of_adds (h : Together flows r trace ended left)
    (hall : ∀ step ∈ trace, step.2.IsAddition) {i j : ι} {e e' : Event} {a b : Server}
    (hi : (i, e) ∈ trace) (ha : e.Adds a) (hj : (j, e') ∈ trace) (hb : e'.Adds b)
    (hid : a.id = b.id) : i = j := by
  obtain ⟨before, behind, rfl⟩ := List.append_of_mem hi
  rcases List.mem_append.mp hj with hbefore | hbehind
  · -- the other addition was before this one, which is behind it then
    obtain ⟨first, between, rfl⟩ := List.append_of_mem hbefore
    rw [List.append_assoc, List.cons_append] at h hall
    have hmem : (i, e) ∈ between ++ (i, e) :: behind := by simp
    exact absurd hid (h.id_ne_of_adds_behind hall hb hmem ha)
  · rcases List.mem_cons.mp hbehind with hsame | hbehind
    · exact (congrArg Prod.fst hsame).symm
    · exact absurd hid.symm (h.id_ne_of_adds_behind hall ha hbehind hb)

/-- **A server under an id that was free was added by somebody**, where all steps are
additions. -/
theorem Flow.Together.exists_adds (h : Together flows r trace ended left)
    (hall : ∀ step ∈ trace, step.2.IsAddition) {id : String} {free : GatewayError}
    (hr : r.get id = .error free) {existing : Server} (hleft : left.get id = .ok existing) :
    ∃ i e server, (i, e) ∈ trace ∧ e.Adds server ∧ server.id = id := by
  by_contra hnone
  push Not at hnone
  have hfree := h.keeps (P := fun r => r.get id = .error free) (fun step hstep => ?_) hr
  · rw [hleft] at hfree
    cases hfree
  · rcases hall step hstep with hlook | ⟨server, hadds⟩
    · exact hlook.keeps _
    · exact hadds.keeps_free (hnone step.1 step.2 server hstep hadds) free

end Together

/-! ## Insertions -/

/-- **The ways that an insertion can go**: the clock is read, and in a later step the
server is added with this time, or its id is found taken. -/
theorem Registration.among_insert {others : Registry → Registry → Prop} {r left : Registry}
    {events : List Event} {result : Except GatewayError Server} {request : Registration}
    {schema : Schema} (h : Among others (request.insert schema) r events result left) :
    ∃ read now seen, others r seen ∧ events = [.tick read, .access now seen left]
      ∧ ((seen.register (request.server schema read) = .ok left
          ∧ result = .ok (request.server schema read))
        ∨ ((∃ existing, seen.get request.id = .ok existing) ∧ left = seen
          ∧ result = .error (.serverExists request.id))) := by
  cases h with
  | clock read hrest =>
    obtain ⟨now, seen, hseen, rfl, hmade⟩ := Flow.among_attempt.mp hrest
    refine ⟨read, now, seen, hseen, rfl, ?_⟩
    cases hregister : seen.register (request.server schema read) with
    | error failure =>
      obtain ⟨hexisting, rfl⟩ := Registry.register_eq_error_iff.mp hregister
      rw [hregister] at hmade
      rcases hmade with ⟨e, he, rfl, rfl⟩ | ⟨server, hserver, -⟩
      · obtain rfl := Except.error.inj he
        exact .inr ⟨hexisting, rfl, rfl⟩
      · cases hserver
    | ok changed =>
      rw [hregister] at hmade
      rcases hmade with ⟨e, he, -⟩ | ⟨server, hserver, rfl⟩
      · cases he
      · obtain ⟨rfl, rfl⟩ := Prod.mk.inj (Except.ok.inj hserver)
        exact .inl ⟨rfl, rfl⟩

/-- **A registration that succeeds with nobody else acting** has added the server that was
asked for, with what its introspection brought and the time that it has read. -/
theorem Registration.exists_register_of_among {r left : Registry} {events : List Event}
    {request : Registration} {i : Introspector} {server : Server}
    (h : Among Eq (request.registerBy i) r events (.ok server) left) :
    ∃ schema read answered, server = request.server schema read ∧ r.register server = .ok left
      ∧ .tick read ∈ events
      ∧ Takes (i.introspect request.endpoint) answered (.done (.ok schema)) := by
  obtain ⟨first, found, between, rest, rfl, hfirst, hrest⟩ := Flow.among_bind.mp h
  obtain ⟨now, rfl, rfl, rfl⟩ := Flow.among_readRegistry.mp hfirst
  cases hseen : r.get request.id with
  | ok existing =>
    rw [hseen] at hrest
    obtain ⟨-, hresult, -⟩ := Flow.among_done.mp hrest
    cases hresult
  | error free =>
    rw [hseen] at hrest
    rcases Flow.among_andThen.mp hrest with ⟨e, he, -⟩ | ⟨asked, _, _, rest, rfl, hcheck, hreading⟩
    · cases he
    obtain rfl := (i.probe_isOutside _).left_eq hcheck
    rcases Flow.among_andThen.mp hreading with
      ⟨e, he, -⟩ | ⟨answered, schema, _, rest, rfl, hread, hinsert⟩
    · cases he
    obtain rfl := (i.introspect_isOutside _).left_eq hread
    obtain ⟨read, now', seen, rfl, rfl, ⟨hadds, hresult⟩ | ⟨-, -, hresult⟩⟩ := among_insert hinsert
    · obtain rfl := Except.ok.inj hresult
      exact ⟨schema, read, answered, rfl, hadds, by simp, hread.takes⟩
    · cases hresult

end GraphGateway
