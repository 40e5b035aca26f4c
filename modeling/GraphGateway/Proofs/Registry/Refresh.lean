import GraphGateway.Proofs.Registry.Addition
import GraphGateway.Proofs.Registry.RoundTrip
import GraphGateway.Proofs.Routing.Steps

/-!
# What a refresh stores

A refresh reads a server, has the backend at its address asked for its schema, and
puts the schema in place. Others may act between these steps, and as an update
changes the fields that it names and no others, they can give the server another
address while the backend at the old one is answering. Nothing looks at the address
again when the schema is stored.

`Registry.Refreshed` tells the one way in which a refresh succeeds: what it stores is
the server as it is at that moment, with the schema of the backend that was the
server's when the refresh began. So it is the schema of the server's own backend if
the address is still the same (`Refreshed.storesSchemaOf`), which it is when nobody
changes the address, removes the server or replaces the registry
(`Change.LeavesEndpoint`), and not in general (`not_storesSchemaOf_refresh`).
-/

namespace GraphGateway

open GraphGateway.Flow (Event Among Takes)
open Time (Instant)

namespace Registry

variable {others : Registry → Registry → Prop} {r changed left : Registry} {id : String}
  {u : ServerUpdate} {now : Instant} {server : Server} {events : List Event}

/-! ## Updates -/

/-- **An update succeeds where its id is known**, and puts the changed server in place of
the old one. -/
theorem update_eq_ok_iff :
    r.update id u now = .ok (changed, server)
      ↔ ∃ old, r.get id = .ok old ∧ server = u.apply now old
        ∧ changed = ⟨Keyed.insert id server r.entries⟩ := by
  rw [update, get]
  cases r.entries.lookup id with
  | none => simp
  | some old =>
    constructor
    · intro h
      obtain ⟨rfl, rfl⟩ := Prod.mk.inj (Except.ok.inj h)
      exact ⟨old, rfl, rfl, rfl⟩
    · rintro ⟨_, hold, rfl, rfl⟩
      rw [Except.ok.inj hold]

/-- **An update changes what is under its id**, and nothing else. -/
theorem get_of_update (h : r.update id u now = .ok (changed, server)) (other : String) :
    changed.get other = if other = id then .ok server else r.get other := by
  obtain ⟨old, -, -, rfl⟩ := update_eq_ok_iff.mp h
  rw [get, get, Keyed.lookup_insert]
  by_cases hother : other = id <;> simp only [hother, if_true, if_false]

/-- **An update that succeeds** among others works on what they have made of the
registry. -/
theorem among_updateFlow :
    Among others (updateFlow id u) r events (.ok server) left
      ↔ ∃ now seen, others r seen ∧ events = [.access now seen left]
        ∧ seen.update id u now = .ok (left, server) := by
  refine Flow.among_attempt.trans ⟨?_, ?_⟩
  · rintro ⟨now, seen, hseen, hevents, ⟨e, -, -, hresult⟩ | ⟨value, hvalue, hresult⟩⟩
    · cases hresult
    · obtain rfl := Except.ok.inj hresult
      exact ⟨now, seen, hseen, hevents, hvalue⟩
  · rintro ⟨now, seen, hseen, hevents, hvalue⟩
    exact ⟨now, seen, hseen, hevents, .inr ⟨server, hvalue, rfl⟩⟩

/-! ## The steps of a refresh -/

variable {i : Introspector} {old current : Server}

/-- **The way that a refresh succeeds** where the others do what `others` says: it reads
the server `old` and stores a schema in `current`, which it finds in its place.
The schema is of the backend at the address of `old`. -/
inductive Refreshed (others : Registry → Registry → Prop) (i : Introspector) (id : String)
    (old current : Server) : List Event → Server → Registry → Prop where
  /-- A schema was stored. -/
  | stored {first last : Instant} {read seen left : Registry} {asked : List Event}
    {schema : Schema} (hread : read.get id = .ok old)
    (hasked : Takes (i.introspect old.endpoint) asked (.done (.ok schema)))
    (hothers : others read seen) (hcurrent : seen.get id = .ok current)
    (hleft : ∀ other, left.get other
      = if other = id then .ok { current with schema := some schema, updatedAt := last }
        else seen.get other) :
    Refreshed others i id old current
      (.look first read :: (asked ++ [.access last seen left]))
      { current with schema := some schema, updatedAt := last } left

/-- **A refresh succeeds in this way.** -/
theorem refreshed_of_among (h : Among others (refreshBy i id) r events (.ok server) left) :
    ∃ old current, Refreshed others i id old current events server left := by
  rcases Flow.among_andThen.mp h with ⟨e, he, -⟩ | ⟨looked, old, read, rest, rfl, hread, hrest⟩
  · cases he
  rcases Flow.among_andThen.mp hrest with
    ⟨e, he, -⟩ | ⟨asked, schema, _, rest, rfl, hasked, hupdate⟩
  · cases he
  obtain ⟨first, -, rfl, hold⟩ := Flow.among_readRegistry.mp hread
  obtain rfl := (i.introspect_isOutside old.endpoint).left_eq hasked
  obtain ⟨last, seen, hseen, rfl, hupdated⟩ := among_updateFlow.mp hupdate
  obtain ⟨current, hcurrent, rfl, -⟩ := update_eq_ok_iff.mp hupdated
  exact ⟨old, current,
    .stored hold.symm hasked.takes hseen hcurrent (get_of_update hupdated)⟩

/-- **Whether a refresh stored the schema of the backend at an address**: this backend
was asked, and its answer is the schema of the server. -/
def StoresSchemaOf (i : Introspector) (endpoint : String) (events : List Event) (server : Server) :
    Prop :=
  ∃ now read asked schema last, events = .look now read :: (asked ++ [last])
    ∧ Takes (i.introspect endpoint) asked (.done (.ok schema)) ∧ server.schema = some schema

/-- What is stored is the schema of the backend at the address that was read. -/
theorem Refreshed.storesSchemaOf (h : Refreshed others i id old current events server left) :
    StoresSchemaOf i old.endpoint events server := by
  cases h with
  | stored _ hasked => exact ⟨_, _, _, _, _, rfl, hasked, rfl⟩

/-- **What is stored is the schema of the server's own backend** if the address is the
one that was read. -/
theorem Refreshed.storesSchemaOf_self (h : Refreshed others i id old current events server left)
    (hsame : current.endpoint = old.endpoint) : StoresSchemaOf i server.endpoint events server := by
  have hstores := h.storesSchemaOf
  cases h with
  | stored => rwa [← hsame] at hstores

/-! ## Changes that leave the address -/

/-- **Whether a change leaves the address of a server as it is.** -/
def Change.LeavesEndpoint (id : String) : Change → Prop
  | register _ _ => True
  | update other u => other = id → u.endpoint = none
  | remove other => other ≠ id
  | replace _ => False

/-- What others can make of a registry by changes that they are allowed. -/
def BecomesBy (allowed : Change → Prop) (r changed : Registry) : Prop :=
  ∃ history : List (Instant × Change), (∀ entry ∈ history, allowed entry.2)
    ∧ changed = history.foldl leave r

/-- **A change that leaves the address keeps the server**, with the address that it has. -/
theorem Change.LeavesEndpoint.apply {c : Change} (h : c.LeavesEndpoint id) {server : Server}
    (hserver : r.get id = .ok server) (hchanged : c.apply now r = .ok changed) :
    ∃ kept, changed.get id = .ok kept ∧ kept.endpoint = server.endpoint := by
  cases c with
  | register registration schema =>
    exact ⟨server, get_eq_of_register hchanged hserver, rfl⟩
  | update other u =>
    obtain ⟨⟨_, updated⟩, hupdated, rfl⟩ := map_eq_ok hchanged
    by_cases hother : id = other
    · subst hother
      obtain ⟨old, hold, rfl, -⟩ := update_eq_ok_iff.mp hupdated
      obtain rfl := Except.ok.inj (hold.symm.trans hserver)
      refine ⟨_, by rw [get_of_update hupdated, if_pos rfl], ?_⟩
      simp only [ServerUpdate.apply, h rfl, Option.getD_none]
    · exact ⟨server, by rw [get_of_update hupdated, if_neg hother, hserver], rfl⟩
  | remove other =>
    obtain ⟨⟨_, removed⟩, hremoved, rfl⟩ := map_eq_ok hchanged
    refine ⟨server, ?_, rfl⟩
    rw [remove_eq hremoved, get, Keyed.lookup_erase_of_ne h.symm]
    exact hserver
  | replace octets => exact h.elim

/-- Others who leave the address keep the server, with the address that it has. -/
theorem exists_get_of_becomesBy {allowed : Change → Prop}
    (hallowed : ∀ c, allowed c → c.LeavesEndpoint id) (hbecomes : BecomesBy allowed r changed)
    (hserver : r.get id = .ok server) :
    ∃ kept, changed.get id = .ok kept ∧ kept.endpoint = server.endpoint := by
  obtain ⟨history, hhistory, rfl⟩ := hbecomes
  refine List.foldlRecOn history leave
    (motive := fun r => ∃ kept, r.get id = .ok kept ∧ kept.endpoint = server.endpoint)
    ⟨server, hserver, rfl⟩ fun r ⟨kept, hkept, hsame⟩ entry hentry => ?_
  rcases r.leave_eq_or entry with hleave | hleave
  · rw [hleave]
    exact ⟨kept, hkept, hsame⟩
  · obtain ⟨next, hnext, hnextsame⟩ := (hallowed _ (hhistory entry hentry)).apply hkept hleave
    exact ⟨next, hnext, hnextsame.trans hsame⟩

/-- Who is allowed everything can make what anybody can. -/
theorem becomesBy_true : BecomesBy (fun _ => True) = Becomes := by
  funext r changed
  simp [BecomesBy, Becomes]

/-- **What a refresh stores**, whatever the others do that are `allowed` some changes: the
server as it is at that moment, with the schema of the backend that was the server's
when the refresh began. This is the server's own backend if the address is still the
same, and so in every run in which the others leave the address as it is. -/
theorem storesSchemaOf_refresh (allowed : Change → Prop) {history : List (Instant × Change)}
    (h : Among (BecomesBy allowed) (refreshBy i id) (after history) events (.ok server) left) :
    ∃ old current, Refreshed (BecomesBy allowed) i id old current events server left
      ∧ StoresSchemaOf i old.endpoint events server
      ∧ (current.endpoint = old.endpoint → StoresSchemaOf i server.endpoint events server)
      ∧ ((∀ c, allowed c → c.LeavesEndpoint id) →
        StoresSchemaOf i server.endpoint events server) := by
  obtain ⟨old, current, hrefreshed⟩ := refreshed_of_among h
  refine ⟨old, current, hrefreshed, hrefreshed.storesSchemaOf, hrefreshed.storesSchemaOf_self,
    fun hallowed => hrefreshed.storesSchemaOf_self ?_⟩
  cases hrefreshed with
  | stored hread _ hothers hcurrent =>
    obtain ⟨kept, hkept, hsame⟩ := exists_get_of_becomesBy hallowed hothers hread
    rwa [Except.ok.inj (hcurrent.symm.trans hkept)]

/-! ## A server that is changed during its refresh -/

/-- The history in which one server is registered. -/
def addedHistory : List (Instant × Change) :=
  [(⟨1700000000, 0⟩, .register
    { id := "a", name := "A", endpoint := "http://a/graphql", description := "" } exampleSchema)]

/-- The server as it was registered. -/
def addedServer : Server :=
  { id := "a", name := "A", endpoint := "http://a/graphql", description := ""
    schema := some exampleSchema, addedAt := ⟨1700000000, 0⟩, updatedAt := ⟨1700000000, 0⟩
    isActive := true }

/-- The address of a server, from its host. -/
def hostUrl (host : String) : Url :=
  { scheme := "http".toList, host := some host.toList, tail := "/graphql".toList }

/-- The request for a schema. -/
def schemaCall (host : String) : Call :=
  { url := hostUrl host, body := Json.compact (Introspection.asRequest Introspection.fullDocument) }

/-- The steps of a refresh while somebody makes the change `c`. -/
def refreshSteps (c : Change) (left : Registry) : List Event :=
  [.look ⟨1700000010, 0⟩ (after addedHistory),
    .exchange (schemaCall "a") (.answer 200 exampleAnswer.octets true),
    .access ⟨1700000060, 0⟩ ((after addedHistory).leave (⟨1700000030, 0⟩, c)) left]

/-- These steps can be taken. -/
theorem exists_among_refresh (allowed : Change → Prop) {c : Change} (hc : allowed c)
    {current : Server}
    (hcurrent : ((after addedHistory).leave (⟨1700000030, 0⟩, c)).get "a" = .ok current) :
    ∃ left, Among (BecomesBy allowed) (refreshBy .overHttp "a") (after addedHistory)
      (refreshSteps c left)
      (.ok { current with schema := some exampleSchema, updatedAt := ⟨1700000060, 0⟩ }) left := by
  have hurl : Url.ofEndpoint "http://a/graphql" = .ok (hostUrl "a") := by decide +kernel
  have hbody : Text.Sniffed.decode exampleAnswer.octets = exampleAnswer.body := by decide +kernel
  have hanswer : Backend.Answer.ofDelivery "http://a/graphql" (hostUrl "a")
      (.answer 200 exampleAnswer.octets true) = .ok exampleAnswer := by
    rw [Backend.Answer.ofDelivery, if_pos rfl, hbody]
    rfl
  have hintrospect : Among (BecomesBy allowed) (Introspection.introspect "http://a/graphql")
      (after addedHistory) [.exchange (schemaCall "a") (.answer 200 exampleAnswer.octets true)]
      (.ok exampleSchema) (after addedHistory) := by
    refine Flow.among_andThen_done.mpr ⟨.ok exampleAnswer, ?_, ?_⟩
    · exact Backend.among_exchange.mpr ⟨rfl, .inr ⟨hostUrl "a", _, hurl, rfl, hanswer.symm⟩⟩
    · rw [Except.bind, readSchema_exampleAnswer]
  obtain ⟨left, hupdated⟩ : ∃ left, ((after addedHistory).leave (⟨1700000030, 0⟩, c)).update "a"
      (.replaceSchema exampleSchema) ⟨1700000060, 0⟩
        = .ok (left, { current with schema := some exampleSchema, updatedAt := ⟨1700000060, 0⟩ }) :=
    ⟨_, update_eq_ok_iff.mpr ⟨current, hcurrent, rfl, rfl⟩⟩
  refine ⟨left, Flow.among_andThen.mpr (.inr ⟨[_], addedServer, after addedHistory, [_, _], rfl,
    ?_, Flow.among_andThen.mpr (.inr ⟨[_], exampleSchema, after addedHistory, [_], rfl,
      hintrospect, ?_⟩)⟩)⟩
  · exact Flow.among_readRegistry.mpr ⟨_, ⟨[], by simp, rfl⟩, rfl, rfl⟩
  · exact among_updateFlow.mpr ⟨⟨1700000060, 0⟩, _,
      ⟨[(⟨1700000030, 0⟩, c)], List.forall_mem_singleton.mpr hc, rfl⟩, rfl, hupdated⟩

/-- The server is stopped during its refresh, and the schema is that of its backend. -/
theorem storesSchemaOf_refresh_stopped :
    ∃ left, Among (BecomesBy (Change.LeavesEndpoint "a")) (refreshBy .overHttp "a")
        (after addedHistory) (refreshSteps (.deactivate "a") left)
        (.ok { addedServer with isActive := false, updatedAt := ⟨1700000060, 0⟩ }) left
      ∧ StoresSchemaOf .overHttp "http://a/graphql" (refreshSteps (.deactivate "a") left)
        { addedServer with isActive := false, updatedAt := ⟨1700000060, 0⟩ } := by
  obtain ⟨left, hrun⟩ := exists_among_refresh (Change.LeavesEndpoint "a")
    (c := .deactivate "a") (fun _ => rfl) rfl
  obtain ⟨old, current, -, -, -, hstores⟩ := storesSchemaOf_refresh _ hrun
  exact ⟨left, hrun, hstores fun _ h => h⟩

/-- **A refresh does not store the schema of the server's own backend** where somebody
gives the server another address while the backend at the old one is answering. -/
theorem not_storesSchemaOf_refresh :
    ¬ ∀ (history : List (Instant × Change)) (i : Introspector) (id : String) (events : List Event)
      (server : Server) (left : Registry),
      Among Becomes (refreshBy i id) (after history) events (.ok server) left →
        StoresSchemaOf i server.endpoint events server := by
  intro h
  obtain ⟨left, hrun⟩ := exists_among_refresh (fun _ => True)
    (c := .update "a" { endpoint := some "http://b/graphql" }) trivial rfl
  rw [becomesBy_true] at hrun
  -- the backend at the new address was not asked
  obtain ⟨now, read, asked, schema, last, hsteps, hasked, -⟩ := h _ _ _ _ _ _ hrun
  obtain ⟨-, hrest⟩ := List.cons.inj hsteps
  have hrest : [.exchange (schemaCall "a") (.answer 200 exampleAnswer.octets true)] ++ [_]
    = asked ++ [last] := hrest
  obtain ⟨rfl, -⟩ := List.append_inj' hrest rfl
  obtain ⟨_, hasked⟩ := hasked.among .empty
  obtain ⟨answer, hasked, -⟩ := Flow.among_andThen_done.mp hasked
  have hurl : Url.ofEndpoint "http://b/graphql" = .ok (hostUrl "b") := by decide +kernel
  rcases Backend.among_exchange.mp hasked with ⟨-, ⟨_, -, hnone, -⟩ | ⟨url, _, hother, hcall, -⟩⟩
  · cases hnone
  · obtain rfl := Except.ok.inj (hurl.symm.trans hother)
    have hsame : hostUrl "a" = hostUrl "b" := by
      injection hcall with hfirst
      injection hfirst with hfirst
      exact congrArg Call.url hfirst
    revert hsame
    decide

end Registry

end GraphGateway
