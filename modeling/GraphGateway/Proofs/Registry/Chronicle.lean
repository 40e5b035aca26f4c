import GraphGateway.Proofs.Registry.Arrival
import GraphGateway.Proofs.Registry.Operation
import GraphGateway.Proofs.Routing.Stability

/-!
# Listings follow the history

Operations are carried out one after the other, on a registry that is empty at first
(`Registry.OneByOne`). What each of them did can be told from what it was for and whether
it succeeded (`Deed.did`), and with that the listing can be told from the history alone:
an id is listed if it was registered and neither registered again nor removed later, and
the ids are in the order of these registrations (`Registry.standing`).

The registry sorts by stored times and knows nothing of the history. The two agree
because all times that are stored were read from the clock in earlier operations, so
that a clock that rises puts a new server behind all that are there
(`Registry.Chronicles`). For the same reason the time of the last change of a server
is that of its registration as long as no update of it has succeeded, and later than that
from then on (`Registry.isChronological_of_oneByOne`).
-/

namespace GraphGateway

open GraphGateway.Flow (Among Event)
open Time (Instant)

/-- The time that a step on the registry knows. -/
def Flow.Event.time? : Event → Option Instant
  | access now _ _ => some now
  | _ => none

namespace Registry

/-! ## Histories of operations -/

/-- **What an operation is for.** -/
inductive Purpose where
  /-- A server is registered. -/
  | registers
  /-- A server is updated. -/
  | updates
  /-- A server is removed. -/
  | removes
  deriving DecidableEq, Repr

namespace Operation

/-- What an operation is for. -/
def purpose : Operation → Purpose
  | insert _ _ => .registers
  | register _ _ => .registers
  | write _ => .updates
  | remove _ => .removes

/-- The id that an operation names. -/
def id : Operation → String
  | insert request _ => request.id
  | register _ request => request.id
  | write w => w.id
  | remove id => id

end Operation

/-- **An operation that was carried out.** -/
structure Deed where
  /-- The operation. -/
  operation : Operation
  /-- The steps that it took. -/
  events : List Event
  /-- How it ended. -/
  result : Except GatewayError Server

namespace Deed

/-- **Whether an operation did something to the server of an id**: it was for that, and it
succeeded. -/
def did (d : Deed) (purpose : Purpose) (id : String) : Bool :=
  d.result.isOk && d.operation.purpose == purpose && d.operation.id == id

/-- **The readings of the clock that an operation took**, in their order. An update takes one
in the step that makes it; other steps on a registry do not ask for the time. -/
def times (d : Deed) : List Instant :=
  d.events.filterMap Event.reading? ++
    if d.operation.purpose = .updates ∧ d.result.isOk then
      (d.events.getLast?.bind Event.time?).toList
    else []

/-- Whether an operation ends what an earlier registration of an id stands for. -/
def supersedes (d : Deed) (id : String) : Bool := d.did .registers id || d.did .removes id

end Deed

/-- **What operations leave that are carried out one after the other**, on a registry that is
empty at first. None begins before the one before it has ended. -/
inductive OneByOne : List Deed → Registry → Prop where
  /-- Nothing was done yet. -/
  | nil : OneByOne [] .empty
  /-- One more operation was carried out, with nobody else acting. -/
  | next {log : List Deed} {r left : Registry} {d : Deed} (h : OneByOne log r)
    (hrun : Among Eq d.operation.flow r d.events d.result left) : OneByOne (log ++ [d]) left

/-- The readings of the clock in a history. -/
def readings (log : List Deed) : List Instant := log.flatMap Deed.times

/-- **Whether the clock rises in a history**: each reading of it is later than those before. -/
def TimesRise (log : List Deed) : Prop := (readings log).Pairwise Instant.Before

/-- Whether it does can be told. -/
instance (log : List Deed) : Decidable (TimesRise log) :=
  inferInstanceAs (Decidable (List.Pairwise _ _))

/-- **The ids that a history leaves registered**, in the order of their latest registrations:
an id counts where it is registered and neither registered again nor removed later. -/
def standing : List Deed → List String
  | [] => []
  | d :: later =>
    if d.did .registers d.operation.id && !later.any (·.supersedes d.operation.id) then
      d.operation.id :: standing later
    else standing later

/-- **What was done since the latest registration of an id**, the last first. -/
def since (id : String) (log : List Deed) : List Deed :=
  log.reverse.takeWhile fun d => !d.did .registers id

variable {log : List Deed} {d : Deed} {r left : Registry} {id : String}

/-- **What one more operation makes of the ids that are registered.** -/
theorem standing_concat (log : List Deed) (d : Deed) :
    standing (log ++ [d]) = ((standing log).filter fun id => !d.supersedes id)
      ++ if d.did .registers d.operation.id then [d.operation.id] else [] := by
  induction log with
  | nil => cases h : d.did .registers d.operation.id <;> simp [standing, h]
  | cons first log ih =>
    rw [List.cons_append, standing, standing, ih, List.any_append]
    cases hfirst : first.did .registers first.operation.id with
    | false => simp
    | true =>
      cases hlog : log.any (·.supersedes first.operation.id) with
      | true => simp
      | false => cases hd : d.supersedes first.operation.id <;> simp [hd]

/-- The readings in one more operation come last. -/
theorem readings_concat (log : List Deed) (d : Deed) :
    readings (log ++ [d]) = readings log ++ d.times := by
  simp [readings]

/-- What was done since a registration, with one more operation. -/
theorem since_concat (id : String) (log : List Deed) (d : Deed) :
    since id (log ++ [d]) = if d.did .registers id then [] else d :: since id log := by
  rw [since, List.reverse_append, List.reverse_singleton, List.singleton_append,
    List.takeWhile_cons]
  cases d.did .registers id <;> rfl


/-! ## What an operation leaves -/

namespace Deed

/-- Something was done to the server that the operation names. -/
theorem id_eq_of_did {purpose : Purpose} (h : d.did purpose id = true) : d.operation.id = id := by
  simpa using (Bool.and_eq_true_iff.mp h).2

/-- **An operation does one thing to one server.** -/
theorem did_eq_of_did {purpose : Purpose} (h : d.did purpose id = true) (purpose' : Purpose)
    (id' : String) : d.did purpose' id' = (purpose == purpose' && id == id') := by
  simp only [did, Bool.and_eq_true, beq_iff_eq] at h ⊢
  obtain ⟨⟨hok, rfl⟩, rfl⟩ := h
  rw [hok, Bool.true_and]

/-- What a registration or a removal supersedes. -/
theorem not_supersedes_of_did {purpose : Purpose} (h : d.did purpose id = true)
    (hpurpose : purpose ≠ .updates) : (fun other => !d.supersedes other) = (· != id) := by
  funext other
  rw [supersedes, did_eq_of_did h, did_eq_of_did h, bne, show (id == other) = _ from Bool.beq_comm]
  cases purpose with
  | registers => exact congrArg _ (Bool.or_false _)
  | updates => exact absurd rfl hpurpose
  | removes => rfl

/-- An update supersedes nothing, and neither does an operation that fails. -/
theorem did_eq_false_of_keeps (h : d.operation.purpose = .updates ∨ d.result.isOk = false)
    (id : String) : d.did .registers id = false ∧ d.did .removes id = false := by
  rcases h with h | h <;> simp [did, h]

/-- **The ways that an operation can go** with nobody else acting. -/
inductive Leaves (d : Deed) (r left : Registry) : Prop where
  /-- It has failed. -/
  | failed (hdid : ∀ purpose id, d.did purpose id = false) (hleft : left = r)
  /-- It has added a server, with a time that it has read. -/
  | registered (server : Server) (hdid : d.did .registers server.id = true)
    (hadded : server.addedAt ∈ d.times) (hupdated : server.updatedAt = server.addedAt)
    (hleft : r.register server = .ok left)
  /-- It has updated a server, at a time that it has read. -/
  | updated (id : String) (u : ServerUpdate) (now : Instant) (server : Server)
    (hdid : d.did .updates id = true) (hnow : now ∈ d.times)
    (hleft : r.update id u now = .ok (left, server))
  /-- It has removed a server. -/
  | removed (id : String) (server : Server) (hdid : d.did .removes id = true)
    (hleft : r.remove id = .ok (left, server))

/-- A reading of the clock is one of its times. -/
theorem mem_times_of_tick {now : Instant} (h : .tick now ∈ d.events) : now ∈ d.times :=
  List.mem_append_left _ (List.mem_filterMap.mpr ⟨_, h, rfl⟩)

/-- **An operation goes in one of these ways.** -/
theorem leaves_of_among (h : Among Eq d.operation.flow r d.events d.result left) :
    d.Leaves r left := by
  obtain ⟨operation, events, result⟩ := d
  rcases operation.commits_flow.of_among h with ⟨e, rfl, rfl⟩ | ⟨server, now, rfl, hlast, hmade⟩
  · exact .failed (fun _ _ => rfl) rfl
  cases operation with
  | insert request schema =>
    obtain ⟨read, now', seen, rfl, rfl, ⟨hadds, hresult⟩ | ⟨-, -, hresult⟩⟩ :=
      Registration.among_insert h
    · obtain rfl := Except.ok.inj hresult
      exact .registered _ (by simp [did, Except.isOk, Except.toBool, Operation.purpose,
        Operation.id, Registration.server]) (mem_times_of_tick (List.mem_cons_self ..)) rfl hadds
    · cases hresult
  | register i request =>
    obtain ⟨schema, read, answered, rfl, hadds, hread, -⟩ := Registration.exists_register_of_among h
    exact .registered _ (by simp [did, Except.isOk, Except.toBool, Operation.purpose,
      Operation.id, Registration.server]) (mem_times_of_tick hread) rfl hadds
  | write w =>
    obtain ⟨e, hasks, _, _, hstep, hupdate⟩ := hmade
    cases hstep
    refine .updated e.id e.carried e.now server (by simp [did, Except.isOk, Except.toBool,
      Operation.purpose, Operation.id, hasks.id_eq]) ?_ hupdate
    refine List.mem_append_right _ ?_
    rw [if_pos ⟨rfl, rfl⟩, hlast]
    exact List.mem_singleton.mpr rfl
  | remove id =>
    exact .removed id server (by simp [did, Except.isOk, Except.toBool, Operation.purpose,
      Operation.id]) hmade

end Deed

/-! ## The listing and the history -/

/-- **Whether the times of a server tell if it was updated.** -/
def TellsUpdates (s : Server) (later : List Deed) : Prop :=
  if later.any (·.did .updates s.id) then s.addedAt.Before s.updatedAt else s.updatedAt = s.addedAt

/-- **What holds behind each operation**: the listing is that of the history, and all times
that are stored were read. -/
structure Chronicles (log : List Deed) (r : Registry) : Prop where
  /-- The registry is a map. -/
  isMap : r.IsMap
  /-- The ids are those that the history leaves. -/
  ids : r.all.map Server.id = standing log
  /-- The times were read from the clock. -/
  known : ∀ s ∈ r.all, s.addedAt ∈ readings log ∧ s.updatedAt ∈ readings log
  /-- The times of a server tell if it was updated. -/
  tells : ∀ s ∈ r.all, TellsUpdates s (since s.id log)

namespace Chronicles

/-- The empty registry has no history. -/
theorem nil : Chronicles [] .empty := by
  have hall : empty.all = [] := List.mergeSort_nil
  exact ⟨isMap_empty, by rw [hall]; rfl, by simp [hall], by simp [hall]⟩

/-- A server that an operation did nothing to tells what it told before. -/
theorem tellsUpdates_concat {s : Server} (h : TellsUpdates s (since s.id log))
    (hregisters : d.did .registers s.id = false) (hupdates : d.did .updates s.id = false) :
    TellsUpdates s (since s.id (log ++ [d])) := by
  simpa [TellsUpdates, since_concat, hregisters, hupdates] using h

/-- **An operation that has failed** counts for nothing. -/
theorem failed (h : Chronicles log r) (hdid : ∀ purpose id, d.did purpose id = false) :
    Chronicles (log ++ [d]) r where
  isMap := h.isMap
  ids := by simp [standing_concat, Deed.supersedes, hdid, h.ids]
  known s hs := by
    rw [readings_concat]
    exact (h.known s hs).imp (List.mem_append_left _) (List.mem_append_left _)
  tells s hs := tellsUpdates_concat (h.tells s hs) (hdid _ _) (hdid _ _)

variable {server : Server}

/-- **A server that was added** is later than all that are there, and comes last. -/
theorem registered (h : Chronicles log r) (hdid : d.did .registers server.id = true)
    (hadded : server.addedAt ∈ d.times) (hupdated : server.updatedAt = server.addedAt)
    (hleft : r.register server = .ok left)
    (hlater : ∀ a ∈ readings log, ∀ b ∈ d.times, a.Before b) : Chronicles (log ++ [d]) left := by
  have hall : left.all = r.all ++ [server] := h.isMap.all_of_register_last hleft fun s hs =>
    .inl (hlater _ (h.known s hs).1 _ hadded)
  have hfree : ∀ s ∈ r.all, s.id ≠ server.id := fun s hs hid => by
    have hget := (h.isMap.mem_all_iff s).mp hs
    rw [hid, get_of_register_self hleft] at hget
    cases hget
  refine ⟨h.isMap.register hleft, ?_, ?_, ?_⟩
  · have hkept : ((standing log).filter fun id => !d.supersedes id) = standing log := by
      rw [← h.ids, List.filter_eq_self, List.forall_mem_map]
      intro s hs
      simp [Deed.supersedes, Deed.did_eq_of_did hdid, (hfree s hs).symm]
    rw [standing_concat, hkept, Deed.id_eq_of_did hdid, if_pos hdid, hall, List.map_append, h.ids]
    rfl
  · rw [hall, readings_concat]
    intro s hs
    rcases List.mem_append.mp hs with hs | hs
    · exact (h.known s hs).imp (List.mem_append_left _) (List.mem_append_left _)
    · obtain rfl := List.mem_singleton.mp hs
      rw [hupdated]
      exact ⟨List.mem_append_right _ hadded, List.mem_append_right _ hadded⟩
  · rw [hall]
    intro s hs
    rcases List.mem_append.mp hs with hs | hs
    · refine tellsUpdates_concat (h.tells s hs) ?_ ?_ <;>
        simp [Deed.did_eq_of_did hdid, (hfree s hs).symm]
    · obtain rfl := List.mem_singleton.mp hs
      simp [TellsUpdates, since_concat, hdid, hupdated]

/-- **A server that was updated** keeps its place and the time of its registration, and the
time of its last change is later. -/
theorem updated {u : ServerUpdate} {now : Instant} (h : Chronicles log r)
    (hdid : d.did .updates id = true) (hnow : now ∈ d.times)
    (hleft : r.update id u now = .ok (left, server))
    (hlater : ∀ a ∈ readings log, ∀ b ∈ d.times, a.Before b) : Chronicles (log ++ [d]) left := by
  have hall := h.isMap.all_of_update hleft
  have hregisters : ∀ other, d.did .registers other = false := by
    simp [Deed.did_eq_of_did hdid]
  have hremoves : ∀ other, d.did .removes other = false := by
    simp [Deed.did_eq_of_did hdid]
  refine ⟨h.isMap.update hleft, ?_, ?_, ?_⟩
  · have hids : (Server.id ∘ Registry.updated id u now) = Server.id :=
      funext fun s => (updated_id_addedAt id u now s).1
    simp [standing_concat, Deed.supersedes, hregisters, hremoves, hall, hids, h.ids]
  · rw [hall, readings_concat, List.forall_mem_map]
    intro s hs
    rw [(updated_id_addedAt id u now s).2]
    refine ⟨List.mem_append_left _ (h.known s hs).1, ?_⟩
    rw [Registry.updated]
    split
    · exact List.mem_append_right _ hnow
    · exact List.mem_append_left _ (h.known s hs).2
  · rw [hall, List.forall_mem_map]
    intro s hs
    rw [(updated_id_addedAt id u now s).1, Registry.updated]
    split
    · next hid =>
      rw [TellsUpdates, since_concat, hregisters, if_neg Bool.false_ne_true, List.any_cons,
        if_pos (by simp [ServerUpdate.apply, hid, hdid])]
      exact hlater _ (h.known s hs).1 _ hnow
    · next hid =>
      refine tellsUpdates_concat (h.tells s hs) (hregisters _) ?_
      simpa [Deed.did_eq_of_did hdid] using Ne.symm hid

/-- **A server that was removed** leaves the others in their places. -/
theorem removed (h : Chronicles log r) (hdid : d.did .removes id = true)
    (hleft : r.remove id = .ok (left, server)) : Chronicles (log ++ [d]) left := by
  have hall := h.isMap.all_of_remove hleft
  have hmem : ∀ s ∈ left.all, s ∈ r.all := fun s hs => (List.mem_filter.mp (hall ▸ hs)).1
  refine ⟨h.isMap.remove hleft, ?_, fun s hs => ?_, fun s hs => ?_⟩
  · rw [standing_concat, Deed.not_supersedes_of_did hdid (by decide), ← h.ids, List.filter_map,
      hall]
    simp [Deed.did_eq_of_did hdid, Function.comp_def]
  · rw [readings_concat]
    exact (h.known s (hmem s hs)).imp (List.mem_append_left _) (List.mem_append_left _)
  · refine tellsUpdates_concat (h.tells s (hmem s hs)) ?_ ?_ <;>
      simp [Deed.did_eq_of_did hdid]

/-- **One more operation**, all readings of which are later than those before. -/
theorem step (h : Chronicles log r) (hd : d.Leaves r left)
    (hlater : ∀ a ∈ readings log, ∀ b ∈ d.times, a.Before b) : Chronicles (log ++ [d]) left := by
  cases hd with
  | failed hdid hleft => exact hleft ▸ h.failed hdid
  | registered server hdid hadded hupdated hleft =>
    exact h.registered hdid hadded hupdated hleft hlater
  | updated id u now server hdid hnow hleft => exact h.updated hdid hnow hleft hlater
  | removed id server hdid hleft => exact h.removed hdid hleft

end Chronicles

/-- **Behind each operation** under a clock that rises. -/
theorem OneByOne.chronicles (h : OneByOne log left) (hclock : TimesRise log) :
    Chronicles log left := by
  induction h with
  | nil => exact .nil
  | next _ hrun ih =>
    rw [TimesRise, readings_concat] at hclock
    obtain ⟨hbefore, -, hlater⟩ := List.pairwise_append.mp hclock
    exact (ih hbefore).step (Deed.leaves_of_among hrun) hlater

/-- **Whether the listing and the times of a registry follow its history.** -/
structure IsChronological (log : List Deed) (r : Registry) : Prop where
  /-- The ids are listed in the order of their latest registrations. -/
  listed : r.all.map Server.id = standing log
  /-- An id that is registered comes to the end, wherever it was before its removal. -/
  last : ∀ before d mid id, log = before ++ [d] → OneByOne before mid →
    d.did .registers id = true →
    r.all.map Server.id = (mid.all.map Server.id).filter (· != id) ++ [id]
  /-- An update moves no id, and neither does an operation that fails. -/
  stays : ∀ before d mid, log = before ++ [d] → OneByOne before mid →
    d.operation.purpose = .updates ∨ d.result.isOk = false →
    r.all.map Server.id = mid.all.map Server.id
  /-- A removal takes its id away. -/
  gone : ∀ before d mid id, log = before ++ [d] → OneByOne before mid →
    d.did .removes id = true →
    r.all.map Server.id = (mid.all.map Server.id).filter (· != id)
  /-- No server was last changed before it was registered. -/
  notBefore : ∀ s ∈ r.all, s.addedAt = s.updatedAt ∨ s.addedAt.Before s.updatedAt
  /-- The two times are the same exactly if no update of the server has succeeded since. -/
  unchanged : ∀ s ∈ r.all, s.addedAt = s.updatedAt
    ↔ ∀ d ∈ since s.id log, d.did .updates s.id = false

/-- The times of a server are in their order, whether it was updated or not. -/
theorem TellsUpdates.notBefore {s : Server} {later : List Deed} (h : TellsUpdates s later) :
    s.addedAt = s.updatedAt ∨ s.addedAt.Before s.updatedAt := by
  rw [TellsUpdates] at h
  split at h
  · exact .inr h
  · exact .inl h.symm

/-- The times of a server are the same exactly if it was not updated. -/
theorem TellsUpdates.unchanged {s : Server} {later : List Deed} (h : TellsUpdates s later) :
    s.addedAt = s.updatedAt ↔ ∀ d ∈ later, d.did .updates s.id = false := by
  rw [TellsUpdates] at h
  split at h
  · next hany =>
    obtain ⟨d, hd, hdid⟩ := List.any_eq_true.mp hany
    refine iff_of_false (fun hsame => ?_) fun hnone => ?_
    · rw [hsame] at h
      exact h.asymm h
    · exact Bool.false_ne_true ((hnone d hd).symm.trans hdid)
  · next hany =>
    refine iff_of_true h.symm fun d hd => Bool.eq_false_iff.mpr fun hdid => hany ?_
    exact List.any_eq_true.mpr ⟨d, hd, hdid⟩

/-- **The listing and the times follow the history**, whatever is registered, updated and
removed one after the other under a clock that rises. -/
theorem isChronological_of_oneByOne (h : OneByOne log left) (hclock : TimesRise log) :
    IsChronological log left := by
  have hchronicles := h.chronicles hclock
  have hbefore : ∀ before d mid, log = before ++ [d] → OneByOne before mid →
      left.all.map Server.id = ((mid.all.map Server.id).filter fun id => !d.supersedes id)
        ++ if d.did .registers d.operation.id then [d.operation.id] else [] := by
    rintro before d mid rfl hmid
    rw [TimesRise, readings_concat] at hclock
    rw [(hmid.chronicles (List.pairwise_append.mp hclock).1).ids, ← standing_concat]
    exact hchronicles.ids
  refine ⟨hchronicles.ids, fun before d mid id hlog hmid hdid => ?_,
    fun before d mid hlog hmid hkeeps => ?_, fun before d mid id hlog hmid hdid => ?_,
    fun s hs => (hchronicles.tells s hs).notBefore,
    fun s hs => (hchronicles.tells s hs).unchanged⟩
  · rw [hbefore before d mid hlog hmid, Deed.not_supersedes_of_did hdid (by decide),
      Deed.id_eq_of_did hdid, if_pos hdid]
  · simp [hbefore before d mid hlog hmid, Deed.supersedes, Deed.did_eq_false_of_keeps hkeeps]
  · rw [hbefore before d mid hlog hmid, Deed.not_supersedes_of_did hdid (by decide)]
    simp [Deed.did_eq_of_did hdid]

/-! ## A server that comes back -/

/-- What is asked for to register a server. -/
def plainRegistration (id : String) : Registration :=
  { id := id, name := "", endpoint := "http://localhost/", description := "" }

/-- A server with the seconds of its two times. -/
def plainServer (id : String) (added updated : Int) : Server :=
  { plainRegistration id |>.server exampleSchema ⟨added, 0⟩ with updatedAt := ⟨updated, 0⟩ }

/-- Somebody who has one schema for all backends. -/
def plainIntrospector : Introspector where
  probe _ := .done (.ok ())
  introspect _ := .done (.ok exampleSchema)
  probe_isOutside _ := trivial
  introspect_isOutside _ := trivial

/-- Two servers are registered, of which the first is removed and registered again, and the
second is refreshed. A registration under an id that is taken fails. -/
def returnLog : List Deed :=
  let a := plainServer "a" 1 1
  let b := plainServer "b" 2 2
  let back := plainServer "a" 4 4
  let fresh := plainServer "b" 2 5
  [ ⟨.insert (plainRegistration "a") exampleSchema,
      [.tick ⟨1, 0⟩, .access ⟨1, 0⟩ .empty ⟨[("a", a)]⟩], .ok a⟩,
    ⟨.register plainIntrospector (plainRegistration "b"),
      [.look ⟨1, 0⟩ ⟨[("a", a)]⟩, .tick ⟨2, 0⟩,
        .access ⟨2, 0⟩ ⟨[("a", a)]⟩ ⟨[("a", a), ("b", b)]⟩], .ok b⟩,
    ⟨.insert (plainRegistration "a") exampleSchema,
      [.tick ⟨3, 0⟩, .look ⟨3, 0⟩ ⟨[("a", a), ("b", b)]⟩], .error (.serverExists "a")⟩,
    ⟨.remove "a", [.access ⟨3, 0⟩ ⟨[("a", a), ("b", b)]⟩ ⟨[("b", b)]⟩], .ok a⟩,
    ⟨.insert (plainRegistration "a") exampleSchema,
      [.tick ⟨4, 0⟩, .access ⟨4, 0⟩ ⟨[("b", b)]⟩ ⟨[("a", back), ("b", b)]⟩], .ok back⟩,
    ⟨.write (.refresh plainIntrospector "b"),
      [.look ⟨4, 0⟩ ⟨[("a", back), ("b", b)]⟩,
        .access ⟨5, 0⟩ ⟨[("a", back), ("b", b)]⟩ ⟨[("a", back), ("b", fresh)]⟩], .ok fresh⟩ ]

/-- What they leave. -/
def returned : Registry := ⟨[("a", plainServer "a" 4 4), ("b", plainServer "b" 2 5)]⟩

/-- They can be carried out. -/
theorem oneByOne_returnLog : OneByOne returnLog returned := by
  have hinsert : OneByOne (returnLog.take 1) _ :=
    OneByOne.nil.next (.clock _ (.access _ _ rfl (.done ..)))
  have hregister : OneByOne (returnLog.take 2) _ :=
    hinsert.next (.access _ _ rfl (.clock _ (.access _ _ rfl (.done ..))))
  have htaken : OneByOne (returnLog.take 3) _ :=
    hregister.next (.clock _ (.access _ _ rfl (.done ..)))
  have hremove : OneByOne (returnLog.take 4) _ := htaken.next (.access _ _ rfl (.done ..))
  have hback : OneByOne (returnLog.take 5) _ :=
    hremove.next (.clock _ (.access _ _ rfl (.done ..)))
  exact hback.next (.access _ _ rfl (.access _ _ rfl (.done ..)))

/-- The server that has come back is listed behind the one that has stayed. -/
theorem isChronological_returned :
    (OneByOne returnLog returned ∧ TimesRise returnLog) ∧ IsChronological returnLog returned
      ∧ returned.all.map Server.id = ["b", "a"] := by
  have hclock : TimesRise returnLog := by decide
  have hlog := isChronological_of_oneByOne oneByOne_returnLog hclock
  exact ⟨⟨oneByOne_returnLog, hclock⟩, hlog, hlog.listed⟩

end Registry

end GraphGateway
