import GraphGateway.Proofs.Registry.Addition
import GraphGateway.Proofs.Registry.Failure
import GraphGateway.Proofs.Registry.RoundTrip

/-!
# Registrations at the same time

A registration looks whether its id is free, has the address checked and the schema
asked for, and only then inserts its server. Other registrations may have looked
at the same id in the meantime and found it free too. What admits only one of them is
that the insertion looks again, in the step that adds the server.

`Registration.Went` tells the ways that one registration can go, with what it saw and
what its introspector brought, and `Registration.AdmitsOne` what comes of many
registrations that take their steps in turn, under one id or under many:
`Registration.admitsOne_together` says that this is so in every run, and at every
moment of it.
-/

namespace GraphGateway

open GraphGateway.Flow (Event Among Takes Together)
open Time (Instant)

/-- What is done outside of the registry only looks. -/
theorem Flow.IsOutside.isLook_of_takes {α : Type} {flow : Flow α} {events : List Event} {result : α}
    (h : flow.IsOutside) (htakes : Takes flow events (.done result)) : ∀ e ∈ events, e.IsLook := by
  obtain ⟨left, hrun⟩ := htakes.among .empty
  exact h.looksOnly _ _ _ _ _ hrun

namespace Registration

/-! ## One registration -/

/-- **The ways that a registration can go**, with what it saw and what its introspector
brought. -/
inductive Went (request : Registration) (i : Introspector) :
    List Event → Except GatewayError Server → Prop where
  /-- The id was taken at the first look. -/
  | taken {now : Instant} {seen : Registry} {existing : Server}
    (hseen : seen.get request.id = .ok existing) :
    Went request i [.look now seen] (.error (.serverExists existing.id))
  /-- The check failed. -/
  | unchecked {now : Instant} {seen : Registry} {free e : GatewayError} {asked : List Event}
    (hseen : seen.get request.id = .error free)
    (hcheck : Takes (i.probe request.endpoint) asked (.done (.error e))) :
    Went request i (.look now seen :: asked) (.error e)
  /-- The introspection failed. -/
  | unread {now : Instant} {seen : Registry} {free e : GatewayError} {asked answered : List Event}
    (hseen : seen.get request.id = .error free)
    (hcheck : Takes (i.probe request.endpoint) asked (.done (.ok ())))
    (hread : Takes (i.introspect request.endpoint) answered (.done (.error e))) :
    Went request i (.look now seen :: (asked ++ answered)) (.error e)
  /-- The id was taken at the insertion. -/
  | overtaken {now read now' : Instant} {seen seen' : Registry} {free : GatewayError}
    {asked answered : List Event} {schema : Schema} {existing : Server}
    (hseen : seen.get request.id = .error free)
    (hcheck : Takes (i.probe request.endpoint) asked (.done (.ok ())))
    (hread : Takes (i.introspect request.endpoint) answered (.done (.ok schema)))
    (hseen' : seen'.get request.id = .ok existing) :
    Went request i
      (.look now seen :: (asked ++ (answered ++ [.tick read, .look now' seen'])))
      (.error (.serverExists request.id))
  /-- The server was added. -/
  | added {now read now' : Instant} {seen seen' left : Registry} {free : GatewayError}
    {asked answered : List Event} {schema : Schema}
    (hseen : seen.get request.id = .error free)
    (hcheck : Takes (i.probe request.endpoint) asked (.done (.ok ())))
    (hread : Takes (i.introspect request.endpoint) answered (.done (.ok schema)))
    (hleft : seen'.register (request.server schema read) = .ok left) :
    Went request i
      (.look now seen :: (asked ++ (answered ++ [.tick read, .access now' seen' left])))
      (.ok (request.server schema read))

variable {request : Registration} {i : Introspector} {events : List Event}
  {result : Except GatewayError Server}

/-- **A registration goes one of these ways.** -/
theorem went_of_takes (h : Takes (request.registerBy i) events (.done result)) :
    Went request i events result := by
  obtain ⟨left, h⟩ := h.among .empty
  obtain ⟨first, found, between, rest, rfl, hfirst, hrest⟩ := Flow.among_bind.mp h
  obtain ⟨now, -, rfl, rfl⟩ := Flow.among_readRegistry.mp hfirst
  rw [List.singleton_append]
  cases hseen : between.get request.id with
  | ok existing =>
    rw [hseen] at hrest
    obtain ⟨rfl, rfl, -⟩ := Flow.among_done.mp hrest
    exact .taken hseen
  | error free =>
    rw [hseen] at hrest
    rcases Flow.among_andThen.mp hrest with
      ⟨e, rfl, hcheck⟩ | ⟨asked, ⟨⟩, between', rest, rfl, hcheck, hrest⟩
    · exact .unchecked hseen hcheck.takes
    · rcases Flow.among_andThen.mp hrest with
        ⟨e, rfl, hread⟩ | ⟨answered, schema, _, rest, rfl, hread, hrest⟩
      · exact .unread hseen hcheck.takes hread.takes
      · obtain ⟨read, now', seen', -, rfl, ⟨hleft, rfl⟩ | ⟨⟨existing, htaken⟩, rfl, rfl⟩⟩ :=
          among_insert hrest
        · exact .added hseen hcheck.takes hread.takes hleft
        · exact .overtaken hseen hcheck.takes hread.takes htaken

/-- **A registration adds its server last, or none.** -/
theorem addsLast_registerBy (request : Registration) (i : Introspector) :
    Flow.AddsLast (request.registerBy i) := by
  intro events result h
  have hchecks : ∀ {asked value}, Takes (i.probe request.endpoint) asked (.done value) →
      ∀ e ∈ asked, e.IsLook := fun h => (i.probe_isOutside _).isLook_of_takes h
  have hreads : ∀ {answered value}, Takes (i.introspect request.endpoint) answered (.done value) →
      ∀ e ∈ answered, e.IsLook := fun h => (i.introspect_isOutside _).isLook_of_takes h
  cases went_of_takes h with
  | taken => exact .inl (List.forall_mem_singleton.mpr rfl)
  | unchecked _ hcheck => exact .inl (List.forall_mem_cons.mpr ⟨rfl, hchecks hcheck⟩)
  | unread _ hcheck hread =>
    exact .inl (List.forall_mem_cons.mpr
      ⟨rfl, List.forall_mem_append.mpr ⟨hchecks hcheck, hreads hread⟩⟩)
  | overtaken _ hcheck hread =>
    refine .inl (List.forall_mem_cons.mpr ⟨rfl, List.forall_mem_append.mpr ⟨hchecks hcheck,
      List.forall_mem_append.mpr ⟨hreads hread, ?_⟩⟩⟩)
    exact List.forall_mem_cons.mpr ⟨trivial, List.forall_mem_singleton.mpr rfl⟩
  | @added now read now' seen seen' left free asked answered schema _ hcheck hread hleft =>
    refine .inr ⟨.look now seen :: (asked ++ (answered ++ [.tick read])),
      .access now' seen' left, _, by simp, ?_, hleft, rfl⟩
    refine List.forall_mem_cons.mpr ⟨rfl, List.forall_mem_append.mpr ⟨hchecks hcheck,
      List.forall_mem_append.mpr ⟨hreads hread, ?_⟩⟩⟩
    exact List.forall_mem_singleton.mpr trivial

/-- **Whether a registration got through both calls of its introspector**, after it had
found its id free. -/
def GotThrough (request : Registration) (i : Introspector) (events : List Event) : Prop :=
  ∃ now seen free asked answered schema rest,
    events = .look now seen :: (asked ++ (answered ++ rest))
      ∧ seen.get request.id = .error free
      ∧ Takes (i.probe request.endpoint) asked (.done (.ok ()))
      ∧ Takes (i.introspect request.endpoint) answered (.done (.ok schema))

/-- **Whether a call of its introspector failed** for a registration, after it had found its
id free. -/
def FailedOutside (request : Registration) (i : Introspector) (events : List Event)
    (e : GatewayError) : Prop :=
  ∃ now seen free asked, events = .look now seen :: asked ∧ seen.get request.id = .error free
    ∧ (Takes (i.probe request.endpoint) asked (.done (.error e))
      ∨ ∃ checked answered, asked = checked ++ answered
        ∧ Takes (i.probe request.endpoint) checked (.done (.ok ()))
        ∧ Takes (i.introspect request.endpoint) answered (.done (.error e)))

/-- **Who got through adds the server or finds the id taken.** -/
theorem Went.of_gotThrough (h : Went request i events result)
    (hthrough : request.GotThrough i events) :
    (∃ server, result = .ok server)
      ∨ ∃ before now seen existing, events = before ++ [.look now seen]
        ∧ seen.get request.id = .ok existing := by
  obtain ⟨now₀, seen₀, free₀, asked₀, answered₀, schema₀, rest₀, hsplit, hfree₀, hcheck₀, hread₀⟩ :=
    hthrough
  cases h with
  | taken hseen =>
    obtain ⟨hlook, -⟩ := List.cons.inj hsplit
    cases hlook
    rw [hseen] at hfree₀
    cases hfree₀
  | unchecked _ hcheck =>
    -- the check has one way to go from what came back
    obtain ⟨-, hevents⟩ := List.cons.inj hsplit
    obtain ⟨-, hresult⟩ := hcheck.deterministic hcheck₀ ((List.append_nil _).trans hevents)
    cases hresult
  | unread _ hcheck hread =>
    obtain ⟨-, hevents⟩ := List.cons.inj hsplit
    obtain ⟨rfl, -⟩ := hcheck.deterministic hcheck₀ hevents
    obtain ⟨-, hresult⟩ := hread.deterministic hread₀
      ((List.append_nil _).trans (List.append_cancel_left hevents))
    cases hresult
  | @overtaken now read now' seen seen' free asked answered schema existing _ _ _ hseen' =>
    exact .inr ⟨.look now seen :: (asked ++ (answered ++ [.tick read])), now', seen', existing,
      by simp, hseen'⟩
  | added => exact .inl ⟨_, rfl⟩

/-- A server that was added is the one that was asked for, with what the own
introspection brought. -/
theorem Went.of_ok {server : Server} (h : Went request i events (.ok server)) :
    ∃ now seen asked answered schema read now' seen' left,
      events = .look now seen :: (asked ++ (answered ++ [.tick read, .access now' seen' left]))
        ∧ Takes (i.probe request.endpoint) asked (.done (.ok ()))
        ∧ Takes (i.introspect request.endpoint) answered (.done (.ok schema))
        ∧ server = request.server schema read ∧ seen'.register server = .ok left := by
  cases h with
  | @added now read now' seen seen' left free asked answered schema hseen hcheck hread hleft =>
    exact ⟨now, seen, asked, answered, schema, read, now', seen', left, rfl, hcheck, hread, rfl,
      hleft⟩

/-! ## Many registrations -/

variable {ι : Type} [DecidableEq ι]

/-- **Whether a server is as a registration asks for it**, with the schema that was found,
and as it was registered at a time. -/
structure Describes (request : Registration) (found : Schema) (read : Instant)
    (server : Server) : Prop where
  /-- It has the id. -/
  id : server.id = request.id
  /-- It has the name. -/
  name : server.name = request.name
  /-- It has the address. -/
  endpoint : server.endpoint = request.endpoint
  /-- It has the description. -/
  description : server.description = request.description
  /-- It has the schema. -/
  schema : server.schema = some found
  /-- It was registered then. -/
  addedAt : server.addedAt = read
  /-- It has not changed since. -/
  updatedAt : server.updatedAt = read
  /-- Requests may be routed to it. -/
  isActive : server.isActive = true

/-- The server that a registration makes is as it asks for. -/
theorem describes_server (request : Registration) (found : Schema) (read : Instant) :
    request.Describes found read (request.server found read) :=
  ⟨rfl, rfl, rfl, rfl, rfl, rfl, rfl, rfl⟩

/-- **Whether some registrations admit one for each id**, in a run from a registry `r`
on. -/
structure AdmitsOne (requests : ι → Registration) (introspectors : ι → Introspector)
    (r : Registry) (trace : List (ι × Event)) (ended : ι → Flow.Fallible Server)
    (left : Registry) : Prop where
  /-- A server that was there at the start is there as it was. -/
  kept : ∀ id server, r.get id = .ok server → left.get id = .ok server
  /-- Under an id that was taken at the start, none has succeeded. -/
  taken : ∀ i existing, r.get (requests i).id = .ok existing →
    ∀ server, ended i ≠ .done (.ok server)
  /-- Under one id no two have succeeded. -/
  once : ∀ i j a b, (requests i).id = (requests j).id → ended i = .done (.ok a) →
    ended j = .done (.ok b) → i = j
  /-- One has succeeded under an id that was free at the start, if any that got through
  both calls of its introspector has come to its end. -/
  admitted : ∀ i free result, r.get (requests i).id = .error free →
    (requests i).GotThrough (introspectors i) (own i trace) → ended i = .done result →
    ∃! j, (requests j).id = (requests i).id ∧ ∃ server, ended j = .done (.ok server)
  /-- Who has succeeded is stored as it was asked for, with the schema that its own
  introspection brought. -/
  stored : ∀ i server, ended i = .done (.ok server) →
    ∃ now seen asked answered schema read rest,
      own i trace = .look now seen :: (asked ++ (answered ++ rest))
        ∧ Takes ((introspectors i).probe (requests i).endpoint) asked (.done (.ok ()))
        ∧ Takes ((introspectors i).introspect (requests i).endpoint) answered (.done (.ok schema))
        ∧ (requests i).Describes schema read server ∧ left.get (requests i).id = .ok server
  /-- Who has failed found the id taken, or failed with what its own introspector failed
  with. -/
  failed : ∀ i e, ended i = .done (.error e) →
    e = .serverExists (requests i).id
      ∨ (requests i).FailedOutside (introspectors i) (own i trace) e

section Together

variable {requests : ι → Registration} {introspectors : ι → Introspector} {r left : Registry}
  {trace : List (ι × Event)} {ended : ι → Flow.Fallible Server}

/-- Each of many registrations goes one of the ways that there are. -/
theorem went_of_together
    (h : Together (fun i => (requests i).registerBy (introspectors i)) r trace ended left) {i : ι}
    {result : Except GatewayError Server} (hended : ended i = .done result) :
    Went (requests i) (introspectors i) (own i trace) result :=
  went_of_takes (hended ▸ h.takes i)

/-- **Each step of many registrations looks**, or it adds the server of a registration
that has succeeded. -/
theorem isLook_or_adds
    (h : Together (fun i => (requests i).registerBy (introspectors i)) r trace ended left) {i : ι}
    {e : Event} (hmem : (i, e) ∈ trace) :
    e.IsLook ∨ ∃ server, e.Adds server ∧ ended i = .done (.ok server) :=
  (addsLast_registerBy (requests i) (introspectors i)).of_takes (h.takes i) e (mem_own.mpr hmem)

/-- All steps of many registrations are additions. -/
theorem isAddition_of_mem
    (h : Together (fun i => (requests i).registerBy (introspectors i)) r trace ended left) :
    ∀ step ∈ trace, step.2.IsAddition := fun _ hmem =>
  (isLook_or_adds h hmem).imp_right fun ⟨server, hadds, _⟩ => ⟨server, hadds⟩

/-- **Who has succeeded added its server** in a step of its own. -/
theorem adds_of_ended
    (h : Together (fun i => (requests i).registerBy (introspectors i)) r trace ended left) {i : ι}
    {server : Server} (hended : ended i = .done (.ok server)) :
    server.id = (requests i).id ∧ ∃ now seen seen', (i, .access now seen seen') ∈ trace
      ∧ seen.register server = .ok seen' := by
  obtain ⟨_, _, asked, answered, schema, read, now, seen, seen', hown, -, -, rfl, hleft⟩ :=
    (went_of_together h hended).of_ok
  refine ⟨rfl, now, seen, seen', mem_own.mp ?_, hleft⟩
  rw [hown]
  simp

/-- **No two succeed under one id.** -/
theorem eq_of_ended
    (h : Together (fun i => (requests i).registerBy (introspectors i)) r trace ended left)
    {i j : ι} {a b : Server} (hid : (requests i).id = (requests j).id)
    (ha : ended i = .done (.ok a)) (hb : ended j = .done (.ok b)) : i = j := by
  obtain ⟨ha_id, now, seen, seen', hamem, haadds⟩ := adds_of_ended h ha
  obtain ⟨hb_id, now', sight, sight', hbmem, hbadds⟩ := adds_of_ended h hb
  exact h.eq_of_adds (isAddition_of_mem h) hamem haadds hbmem hbadds
    (ha_id.trans (hid.trans hb_id.symm))

/-- **Somebody succeeds under an id that was free** if a registration got through that has
come to its end: this one, or one that overtook it. -/
theorem exists_ended
    (h : Together (fun i => (requests i).registerBy (introspectors i)) r trace ended left) {i : ι}
    {free : GatewayError} {result : Except GatewayError Server}
    (hfree : r.get (requests i).id = .error free)
    (hthrough : (requests i).GotThrough (introspectors i) (own i trace))
    (hended : ended i = .done result) :
    ∃ j, (requests j).id = (requests i).id ∧ ∃ server, ended j = .done (.ok server) := by
  rcases (went_of_together h hended).of_gotThrough hthrough with
    ⟨server, rfl⟩ | ⟨before, now, seen, existing, hown, htaken⟩
  · exact ⟨i, rfl, server, hended⟩
  · have hall := isAddition_of_mem h
    have hmem : (i, Event.look now seen) ∈ trace := mem_own.mp (by rw [hown]; simp)
    obtain ⟨first, behind, mid, next, rfl, hfirst, -⟩ := h.cut_of_mem hmem
    obtain ⟨j, e, server, hjmem, hadds, hid⟩ := hfirst.exists_adds
      (fun step hstep => hall step (List.mem_append_left _ hstep)) hfree htaken
    rcases isLook_or_adds h (List.mem_append_left _ hjmem) with hlook | ⟨other, hother, hjended⟩
    · exact absurd hlook hadds.not_isLook
    · obtain rfl := hadds.unique hother
      exact ⟨j, (adds_of_ended h hjended).1.symm.trans hid, other, hjended⟩

/-- **What has succeeded stays** as it was added. -/
theorem get_of_ended
    (h : Together (fun i => (requests i).registerBy (introspectors i)) r trace ended left) {i : ι}
    {server : Server} (hended : ended i = .done (.ok server)) :
    left.get (requests i).id = .ok server := by
  have hall := isAddition_of_mem h
  obtain ⟨hid, now, seen, seen', hmem, hadds⟩ := adds_of_ended h hended
  obtain ⟨first, behind, mid, next, rfl, -, hbehind⟩ := h.cut_of_mem hmem
  refine hbehind.keeps (fun step hstep => (hall step (List.mem_append_right _
    (List.mem_cons_of_mem _ hstep))).keeps_get _ _) ?_
  rw [Registry.get_of_register hadds, hid]
  exact if_pos rfl

/-- **Who has failed found the id taken**, or failed with what its introspector failed
with. -/
theorem failed_of_ended
    (h : Together (fun i => (requests i).registerBy (introspectors i)) r trace ended left)
    (hr : r.IsMap) {i : ι} {e : GatewayError} (hended : ended i = .done (.error e)) :
    e = .serverExists (requests i).id
      ∨ (requests i).FailedOutside (introspectors i) (own i trace) e := by
  generalize hown : own i trace = steps
  have hwent := hown ▸ went_of_together h hended
  cases hwent with
  | @taken now seen existing hseen =>
    -- the failure names the server that was found, and in a map that is the one asked for
    have hall := isAddition_of_mem h
    have hmem : (i, Event.look now seen) ∈ trace := mem_own.mp (by simp [hown])
    obtain ⟨first, behind, mid, next, rfl, hfirst, -⟩ := h.cut_of_mem hmem
    have hmap : seen.IsMap := hfirst.keeps (fun step hstep =>
      (hall step (List.mem_append_left _ hstep)).keeps_isMap) hr
    rw [(hmap.get_eq_ok_iff.mp hseen).2]
    exact .inl rfl
  | unchecked hseen hcheck => exact .inr ⟨_, _, _, _, rfl, hseen, .inl hcheck⟩
  | unread hseen hcheck hread =>
    exact .inr ⟨_, _, _, _, rfl, hseen, .inr ⟨_, _, rfl, hcheck, hread⟩⟩
  | overtaken => exact .inl rfl

/-- **Registrations at the same time admit one for each id**, in whatever order they take
their steps and at every moment: at most one under an id, and one if the id was free
and any of them has got through. It is stored as it was asked for, with the schema that its
own introspection brought; the others have failed, and no server that was there at the start
has changed. -/
theorem admitsOne_together (history : List (Instant × Registry.Change))
    (h : Together (fun i => (requests i).registerBy (introspectors i)) (Registry.after history)
      trace ended left) :
    AdmitsOne requests introspectors (Registry.after history) trace ended left := by
  have hall := isAddition_of_mem h
  refine {
    kept := fun id server hr => h.keeps (fun step hmem => (hall step hmem).keeps_get id server) hr
    taken := fun i existing hr server hended => ?_
    once := fun i j a b => eq_of_ended h
    admitted := fun i free result hfree hthrough hended => ?_
    stored := fun i server hended => ?_
    failed := fun i e => failed_of_ended h (Registry.isMap_after history) }
  · obtain ⟨hid, now, seen, seen', hmem, hadds⟩ := adds_of_ended h hended
    exact h.id_ne_of_adds hall hr hmem hadds hid
  · obtain ⟨j, hid, server, hjended⟩ := exists_ended h hfree hthrough hended
    refine ⟨j, ⟨hid, server, hjended⟩, fun k ⟨hkid, other, hkended⟩ => ?_⟩
    exact eq_of_ended h (hkid.trans hid.symm) hkended hjended
  · obtain ⟨now, seen, asked, answered, schema, read, now', seen', left', hown, hcheck, hread,
      rfl, -⟩ := (went_of_together h hended).of_ok
    exact ⟨now, seen, asked, answered, schema, read, _, hown, hcheck, hread,
      describes_server _ _ _, get_of_ended h hended⟩

end Together

/-- Two registrations of one id with two backends. -/
def rivals (first : Bool) : Registration :=
  if first then { id := "a", name := "A", endpoint := "http://a/graphql", description := "" }
  else { id := "a", name := "B", endpoint := "http://b/graphql", description := "" }

/-- A world in which every backend gives the answer of the example. -/
def rivalWorld : Flow.World where
  network _ _ := .answer 200 Registry.exampleAnswer.octets true
  clock n := ⟨1700000000 + n, 0⟩

/-- Two registrations take their steps in turn. -/
def rivalSchedule : List Bool := [true, false, true, false, true, false, true, false, true, false]

/-- Both registrations find the id free and ask their backends, and the first inserts its
server first. -/
def rivalRun : List (Bool × Event) × (Bool → Flow (Except GatewayError Server)) × Flow.Run :=
  Flow.byTurns rivalWorld rivalSchedule (fun i => (rivals i).registerBy .overHttp) ⟨.empty, [], 0⟩

/-- This is a run of the two. -/
theorem together_rivalRun :
    Together (fun i => (rivals i).registerBy .overHttp) .empty rivalRun.1 rivalRun.2.1
      rivalRun.2.2.registry := by
  unfold rivalRun
  exact Flow.together_byTurns rivalWorld rivalSchedule (fun i => (rivals i).registerBy .overHttp)
    ⟨.empty, [], 0⟩

/-- The first of the two is admitted and stored, and the other fails. -/
theorem admitsOne_together_rivals :
    AdmitsOne rivals (fun _ => .overHttp) (Registry.after []) rivalRun.1 rivalRun.2.1
        rivalRun.2.2.registry
      ∧ (rivalRun.2.1 true).result?.map Except.isOk = some true
      ∧ (rivalRun.2.1 false).result?.map Except.isOk = some false
      ∧ rivalRun.2.2.registry.entries.map (fun entry => (entry.1, entry.2.id, entry.2.name,
          entry.2.endpoint, entry.2.description, entry.2.isActive))
        = [("a", "a", "A", "http://a/graphql", "", true)]
      ∧ rivalRun.2.2.registry.entries.map (fun entry =>
          entry.2.schema.map Schema.availableFields) = [some ["Query", "Query"]] :=
  ⟨admitsOne_together [] together_rivalRun, by decide +kernel, by decide +kernel,
    by decide +kernel, by decide +kernel⟩

end Registration

end GraphGateway
