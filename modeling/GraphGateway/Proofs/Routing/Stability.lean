import GraphGateway.Proofs.Registry.Refresh
import GraphGateway.Proofs.Routing.Prediction
import Mathlib.Data.List.Nodup

/-!
# What becomes of a name when other servers change

A name that belongs to a server goes on belonging to it while other servers are
stopped, get other names, addresses or descriptions, or are registered behind all
that are there. The first two kinds of changes leave the listing as it is but for
the changed server, which keeps its place and its schema and is not active where
it was not before (`IsMap.all_of_update`, `owner_of_map`). The third puts a
server at the end of the listing (`IsMap.all_of_register_last`), where both
look-ups come to it last.

There is one way only in which the new server gets the name: it declares the
name as a root type or a type, and no server before it does, active or not
(`Registry.TakesOver`). Then the first look-up, which had found nothing, finds
the new server before the second one is taken (`owner_of_takesOver`).

`Router.resolve_stable` says all of this of the look-up of a name after any
history.
-/

namespace GraphGateway

open Time (Instant)

namespace Registry

variable {r changed : Registry} {id name : String} {u : ServerUpdate} {now : Instant}
  {server new : Server}

/-! ## Listings behind a change -/

/-- A server that comes before another one is listed before it. -/
theorem listedBefore_of_precedes {a b : Server} (h : a.Precedes b) : listedBefore a b = true := by
  unfold listedBefore
  rcases h with hearlier | ⟨hsame, hid⟩
  · rw [hearlier]
  · have heq : compare a.addedAt b.addedAt = .eq :=
      Ordering.then_eq_eq.mpr
        ⟨Int.compare_eq_eq.mpr (by rw [hsame]), Nat.compare_eq_eq.mpr (by rw [hsame])⟩
    rw [heq]
    simpa using String.lt_asymm hid

/-- **The listing of a map** is the only list of its servers in their order. -/
theorem IsMap.eq_all_of_perm (h : r.IsMap) {servers : List Server} (hperm : servers.Perm r.all)
    (hsorted : servers.Pairwise fun a b => listedBefore a b = true) : servers = r.all := by
  refine List.Perm.eq_of_pairwise (fun a b ha hb hab hba => ?_) hsorted
    (List.pairwise_mergeSort listedBefore_trans listedBefore_total _) hperm
  exact h.eq_of_id_eq (r.perm_all.mem_iff.mp (hperm.mem_iff.mp ha)) (r.perm_all.mem_iff.mp hb)
    (id_eq_of_listedBefore hab hba)

/-- What an update of an id makes of a server. -/
def updated (id : String) (u : ServerUpdate) (now : Instant) (s : Server) : Server :=
  if s.id = id then u.apply now s else s

/-- An update keeps the id of a server and the time of its registration. -/
theorem updated_id_addedAt (id : String) (u : ServerUpdate) (now : Instant) (s : Server) :
    (updated id u now s).id = s.id ∧ (updated id u now s).addedAt = s.addedAt := by
  unfold updated
  split <;> exact ⟨rfl, rfl⟩

/-- **An update leaves every server in its place.** -/
theorem IsMap.all_of_update (h : r.IsMap) (hupdate : r.update id u now = .ok (changed, server)) :
    changed.all = r.all.map (updated id u now) := by
  have hmap := h.update hupdate
  have hids : (r.all.map (updated id u now)).map Server.id = r.all.map Server.id := by
    rw [List.map_map]
    exact List.map_congr_left fun s _ => (updated_id_addedAt id u now s).1
  refine (hmap.eq_all_of_perm ?_ ?_).symm
  · rw [List.perm_ext_iff_of_nodup (List.Nodup.of_map Server.id (hids ▸ h.nodup_ids))
      (List.Nodup.of_map Server.id hmap.nodup_ids)]
    intro s
    obtain ⟨old, hold, rfl, -⟩ := update_eq_ok_iff.mp hupdate
    rw [hmap.mem_all_iff, get_of_update hupdate, List.mem_map]
    obtain ⟨hlisted, hid⟩ := h.mem_all_of_get hold
    constructor
    · rintro ⟨before, hbefore, rfl⟩
      have hget := (h.mem_all_iff before).mp hbefore
      rw [(updated_id_addedAt id u now before).1, updated]
      split
      · next hsame =>
        rw [hsame, hold] at hget
        rw [Except.ok.inj hget]
      · exact hget
    · intro hs
      split at hs
      · exact ⟨old, hlisted, by rw [updated, if_pos hid, Except.ok.inj hs]⟩
      · next hother => exact ⟨s, (h.mem_all_iff s).mpr hs, if_neg hother⟩
  · refine List.pairwise_map.mpr ?_
    refine (List.pairwise_mergeSort listedBefore_trans listedBefore_total _).imp fun {a b} hab => ?_
    rw [listedBefore_iff] at hab ⊢
    simpa only [updated_id_addedAt] using hab

/-- **A server behind all others** is put at the end. -/
theorem IsMap.all_of_register_last (h : r.IsMap) (hregister : r.register new = .ok changed)
    (hlast : ∀ s ∈ r.all, s.Precedes new) : changed.all = r.all ++ [new] := by
  refine ((h.register hregister).eq_all_of_perm ?_ ?_).symm
  · exact List.perm_append_comm.trans (all_of_register hregister).symm
  · rw [List.pairwise_append]
    refine ⟨List.pairwise_mergeSort listedBefore_trans listedBefore_total _,
      List.pairwise_singleton .., fun s hs s' hs' => ?_⟩
    rw [List.mem_singleton.mp hs']
    exact listedBefore_of_precedes (hlast s hs)

/-! ## Look-ups by the listing -/

/-- The first active server that has a name as a type or a field is behind servers that
are inactive or do not have it. -/
theorem findActiveByField_eq_ok_iff_append :
    r.findActiveByField name = .ok server ↔ ∃ before behind, r.all = before ++ server :: behind
      ∧ (server.isActive = true ∧ server.DeclaresTypeOrField name)
      ∧ ∀ earlier ∈ before, earlier.isActive = true → ¬ earlier.DeclaresTypeOrField name := by
  rw [findActiveByField_eq_ok_iff, active, List.find?_filter, List.find?_eq_some_iff_append]
  simp only [Bool.not_eq_true', decide_eq_true_eq, Bool.eq_false_iff, ne_eq,
    hasSchema_declaresTypeOrField_iff, not_and]
  constructor
  · rintro ⟨hname, before, behind, hall, hbefore⟩
    exact ⟨before, behind, hall, hname, hbefore⟩
  · rintro ⟨before, behind, hall, hname, hbefore⟩
    exact ⟨hname, before, behind, hall, hbefore⟩

/-- **The owner of a name** is found active by the first look-up, or by the second one where
the first has found nothing active. -/
theorem owner_eq_ok_iff :
    r.owner name = .ok server
      ↔ r.findByField name = .ok server ∧ server.isActive = true
        ∨ (∀ first, r.findByField name = .ok first → first.isActive = false)
          ∧ r.findActiveByField name = .ok server := by
  rw [owner]
  cases hfound : r.findByField name with
  | error e => simp
  | ok first =>
    have honly : (∀ other, Except.ok first = Except.ok (ε := GatewayError) other →
        other.isActive = false) ↔ first.isActive = false :=
      ⟨fun h => h first rfl, fun h other hother => Except.ok.inj hother ▸ h⟩
    rw [honly]
    dsimp only
    cases hactive : first.isActive with
    | false =>
      refine ⟨fun h => .inr ⟨rfl, h⟩, ?_⟩
      rintro (⟨hsame, hserver⟩ | ⟨-, h⟩)
      · rw [← Except.ok.inj hsame, hactive] at hserver
        exact absurd hserver Bool.false_ne_true
      · exact h
    | true =>
      refine ⟨fun h => .inl ⟨h, Except.ok.inj h ▸ hactive⟩, ?_⟩
      rintro (⟨h, -⟩ | ⟨hnever, -⟩)
      · exact h
      · exact absurd hnever.symm Bool.false_ne_true

/-! ## Servers that change in their places -/

section Map

variable {f : Server → Server}

/-- What is found first is what has become of the server that was found first. -/
theorem findByField_of_map (hall : changed.all = r.all.map f)
    (hschema : ∀ s, (f s).schema = s.schema) :
    changed.findByField name = .ok server ↔ ∃ s, r.findByField name = .ok s ∧ f s = server := by
  have htest : hasSchema (·.declaresType name) ∘ f = hasSchema (·.declaresType name) := by
    funext s
    rw [Function.comp_apply, hasSchema, hschema, hasSchema]
  rw [findByField_eq_ok_iff, hall, List.find?_map, htest, Option.map_eq_some_iff]
  simp only [findByField_eq_ok_iff]

/-- The first active server that has a name is still found if it has not changed and no
server has become active. -/
theorem findActiveByField_of_map (hall : changed.all = r.all.map f)
    (hschema : ∀ s, (f s).schema = s.schema)
    (hactive : ∀ s, (f s).isActive = true → s.isActive = true) (hserver : f server = server)
    (h : r.findActiveByField name = .ok server) : changed.findActiveByField name = .ok server := by
  rw [findActiveByField_eq_ok_iff_append] at h ⊢
  obtain ⟨before, behind, hsplit, hname, hbefore⟩ := h
  refine ⟨before.map f, behind.map f, ?_, hname, List.forall_mem_map.mpr fun s hs hs' => ?_⟩
  · rw [hall, hsplit, List.map_append, List.map_cons, hserver]
  · rw [Server.DeclaresTypeOrField, hschema]
    exact hbefore s hs (hactive s hs')

/-- **Servers may change in their places**, if they keep their schemas and none of them
becomes active: a name goes on belonging to a server that has not changed. -/
theorem owner_of_map (hall : changed.all = r.all.map f) (hschema : ∀ s, (f s).schema = s.schema)
    (hactive : ∀ s, (f s).isActive = true → s.isActive = true) (hserver : f server = server)
    (h : r.owner name = .ok server) : changed.owner name = .ok server := by
  rw [owner_eq_ok_iff] at h ⊢
  rcases h with ⟨hfound, hserver'⟩ | ⟨hmissed, hfound⟩
  · exact .inl ⟨(findByField_of_map hall hschema).mpr ⟨server, hfound, hserver⟩, hserver'⟩
  · refine .inr ⟨fun first hfirst => ?_,
      findActiveByField_of_map hall hschema hactive hserver hfound⟩
    obtain ⟨s, hs, rfl⟩ := (findByField_of_map hall hschema).mp hfirst
    refine Bool.eq_false_iff.mpr fun hstarted => ?_
    exact Bool.false_ne_true ((hmissed s hs).symm.trans (hactive s hstarted))

end Map

/-- **An update of another server** that brings no schema and does not start the server
leaves a name where it is. -/
theorem IsMap.owner_of_update (hmap : r.IsMap) {result : Server}
    (hupdate : r.update id u now = .ok (changed, result)) (hid : id ≠ server.id)
    (hschema : u.schema = none) (hactive : u.isActive ≠ some true)
    (h : r.owner name = .ok server) : changed.owner name = .ok server := by
  refine owner_of_map (hmap.all_of_update hupdate) (fun s => ?_) (fun s hs => ?_)
    (if_neg (Ne.symm hid)) h
  · unfold updated
    split
    · rw [ServerUpdate.apply, hschema]
      rfl
    · rfl
  · unfold updated at hs
    split at hs
    · cases hgiven : u.isActive with
      | none => rwa [ServerUpdate.apply, hgiven] at hs
      | some given =>
        rw [ServerUpdate.apply, hgiven] at hs
        exact absurd (hgiven.trans (congrArg some hs)) hactive
    · exact hs

/-! ## A server behind all others -/

section Append

variable (hall : changed.all = r.all ++ [new])

include hall

/-- What the first look-up finds it finds again. -/
theorem findByField_of_append (h : r.findByField name = .ok server) :
    changed.findByField name = .ok server := by
  rw [findByField_eq_ok_iff] at h ⊢
  rw [hall, List.find?_append, h]
  rfl

/-- What the second look-up finds it finds again. -/
theorem findActiveByField_of_append (h : r.findActiveByField name = .ok server) :
    changed.findActiveByField name = .ok server := by
  rw [findActiveByField_eq_ok_iff, active] at h ⊢
  rw [hall, List.filter_append, List.find?_append, h]
  rfl

end Append

/-- **Whether a new server takes a name over**: it declares the name as a root type or a
type, and no server that is there does. -/
def TakesOver (r : Registry) (new : Server) (name : String) : Prop :=
  new.DeclaresType name ∧ ∀ s ∈ r.all, ¬ s.DeclaresType name

/-- **A new server behind all others** leaves a name where it is, unless it takes the name
over. -/
theorem owner_of_append (hall : changed.all = r.all ++ [new]) (hkeeps : ¬ r.TakesOver new name)
    (h : r.owner name = .ok server) : changed.owner name = .ok server := by
  rw [owner_eq_ok_iff] at h ⊢
  rcases h with ⟨hfound, hserver⟩ | ⟨hmissed, hfound⟩
  · exact .inl ⟨findByField_of_append hall hfound, hserver⟩
  · refine .inr ⟨fun first hfirst => ?_, findActiveByField_of_append hall hfound⟩
    cases hbefore : r.findByField name with
    | ok earlier =>
      rw [findByField_of_append hall hbefore] at hfirst
      exact Except.ok.inj hfirst ▸ hmissed earlier hbefore
    | error e =>
      -- nobody declared the name, and the new server does not either
      rw [findByField_error hbefore, findByField_eq_error_iff] at hbefore
      obtain ⟨earlier, later, hsplit, hname, -⟩ := (findByField_eq_ok_iff_append ..).mp hfirst
      have hmem : first ∈ r.all ++ [new] := by
        rw [← hall, hsplit]
        exact List.mem_append_right _ (List.mem_cons_self ..)
      rcases List.mem_append.mp hmem with hthere | hnew
      · exact absurd hname (hbefore first hthere)
      · rw [List.mem_singleton.mp hnew] at hname
        exact absurd ⟨hname, hbefore⟩ hkeeps

/-- **A new server that takes a name over** is found first. -/
theorem owner_of_takesOver (hall : changed.all = r.all ++ [new]) (hactive : new.isActive = true)
    (htakes : r.TakesOver new name) : changed.owner name = .ok new :=
  owner_eq_ok_iff.mpr (.inl ⟨(findByField_eq_ok_iff_append ..).mpr
    ⟨r.all, [], hall, htakes.1, htakes.2⟩, hactive⟩)

/-! ## Changes one after another -/

/-- **Whether a change spares a name and its server**: it changes another server without
bringing a schema or starting it, or it registers a server behind all others that does not
take the name over. -/
inductive Spares (r : Registry) (name : String) (server : Server) : Instant × Change → Prop where
  /-- Another server gets another name, address or description, or is stopped. -/
  | update {now : Instant} {id : String} {u : ServerUpdate} (hid : id ≠ server.id)
    (hschema : u.schema = none) (hactive : u.isActive ≠ some true) :
    Spares r name server (now, .update id u)
  /-- A server is registered. -/
  | register {now : Instant} {registration : Registration} {schema : Schema}
    (hlast : ∀ s ∈ r.all, s.Precedes (registration.server schema now))
    (hkeeps : ¬ r.TakesOver (registration.server schema now) name) :
    Spares r name server (now, .register registration schema)

/-- **A change that spares a name leaves it where it is**, whether it succeeds or fails. -/
theorem IsMap.owner_leave (hmap : r.IsMap) {entry : Instant × Change}
    (hspares : r.Spares name server entry) (h : r.owner name = .ok server) :
    (r.leave entry).owner name = .ok server := by
  rcases r.leave_eq_or entry with hsame | hmade
  · rwa [hsame]
  cases hspares with
  | update hid hschema hactive =>
    obtain ⟨⟨_, result⟩, hupdate, rfl⟩ := map_eq_ok hmade
    exact hmap.owner_of_update hupdate hid hschema hactive h
  | register hlast hkeeps => exact owner_of_append (hmap.all_of_register_last hmade hlast) hkeeps h

/-- Whether each of some changes spares a name, in what those before it have left. -/
def SparesEach (r : Registry) (name : String) (server : Server) : List (Instant × Change) → Prop
  | [] => True
  | entry :: rest => r.Spares name server entry ∧ (r.leave entry).SparesEach name server rest

/-- **Changes that spare a name leave it where it is**, however many there are. -/
theorem IsMap.owner_foldl_leave {entries : List (Instant × Change)} (hmap : r.IsMap)
    (hspares : r.SparesEach name server entries) (h : r.owner name = .ok server) :
    (entries.foldl Registry.leave r).owner name = .ok server := by
  induction entries generalizing r with
  | nil => exact h
  | cons entry rest ih =>
    exact ih (hmap.leave entry) hspares.2 (hmap.owner_leave hspares.1 h)

end Registry

namespace Router

/-- **Whether a name resolves to a server** where nobody else acts, in whatever world. -/
def ResolvesTo (r : Registry) (name : String) (server : Server) : Prop :=
  ∀ (world : Flow.World) (calls : List Call) (ticks : Nat),
    ((resolve name).run world ⟨r, calls, ticks⟩).1 = .ok server

/-- A name resolves to the server that it belongs to. -/
theorem resolvesTo_of_owner {r : Registry} {name : String} {server : Server}
    (h : r.owner name = .ok server) : ResolvesTo r name server := fun world calls ticks => by
  rw [run_resolve_fst, h]

/-- **What becomes of a name when other servers change.** Let a name resolve to a server after
some history. It still does after another server was stopped, after another server got any
other name, address or description, and after any number of changes of these kinds and
registrations that leave the name where it is. A server that is registered behind all others
leaves it there, unless it declares the name as a root type or a type and no server before it
does; then the name resolves to the new server. -/
theorem resolve_stable {history : List (Instant × Registry.Change)} {world : Flow.World}
    {calls : List Call} {ticks : Nat} {name : String} {server : Server}
    (h : ((resolve name).run world ⟨Registry.after history, calls, ticks⟩).1 = .ok server) :
    let r := Registry.after history
    (∀ now id, id ≠ server.id → ResolvesTo (r.leave (now, .deactivate id)) name server)
      ∧ (∀ now id (u : ServerUpdate), id ≠ server.id → u.schema = none → u.isActive = none →
        ResolvesTo (r.leave (now, .update id u)) name server)
      ∧ (∀ now registration schema changed,
        (Registry.Change.register registration schema).apply now r = .ok changed →
        (∀ s ∈ r.all, s.Precedes (registration.server schema now)) →
        (¬ r.TakesOver (registration.server schema now) name → ResolvesTo changed name server)
          ∧ (r.TakesOver (registration.server schema now) name →
            ResolvesTo changed name (registration.server schema now)))
      ∧ ∀ entries, r.SparesEach name server entries →
        ResolvesTo (entries.foldl Registry.leave r) name server := by
  intro r
  have hmap : r.IsMap := Registry.isMap_after history
  have howner : r.owner name = .ok server := by rwa [run_resolve_fst] at h
  refine ⟨fun now id hid => ?_, fun now id u hid hschema hactive => ?_,
    fun now registration schema changed hregister hlast => ⟨fun hkeeps => ?_, fun htakes => ?_⟩,
    fun entries hspares => ?_⟩
  · exact resolvesTo_of_owner
      (hmap.owner_leave (.update hid rfl (by simp [ServerUpdate.activation])) howner)
  · exact resolvesTo_of_owner (hmap.owner_leave (.update hid hschema (by simp [hactive])) howner)
  · exact resolvesTo_of_owner
      (Registry.owner_of_append (hmap.all_of_register_last hregister hlast) hkeeps howner)
  · exact resolvesTo_of_owner
      (Registry.owner_of_takesOver (hmap.all_of_register_last hregister hlast) rfl htakes)
  · exact resolvesTo_of_owner (hmap.owner_foldl_leave hspares howner)

end Router

/-! ## A name behind a server that was stopped -/

/-- A schema with one type that has one field. -/
def oneFieldSchema (type field : String) : Schema where
  queryType := none
  mutationType := none
  subscriptionType := none
  types := [
    { kind := .object, name := type, description := none
      fields := [
        { name := field, description := none, args := [], type := .named .scalar "ID"
          isDeprecated := false, deprecationReason := none }]
      inputFields := [], interfaces := [], enumValues := [], possibleTypes := [] }]
  directives := []

/-- A third server, with a field of the name that the stopped server has as a type. -/
def fieldRegistration : Registration :=
  { id := "gamma", name := "Gamma", endpoint := "http://gamma/graphql", description := "" }

/-- The history in which this server joins the stopped one and the one with the root type. -/
def fieldHistory : List (Instant × Registry.Change) :=
  shadowingHistory
    ++ [(⟨1706745660, 0⟩, .register fieldRegistration (oneFieldSchema "Query" "Account"))]

/-- The third server as it is then. -/
def fieldServer : Server :=
  fieldRegistration.server (oneFieldSchema "Query" "Account") ⟨1706745660, 0⟩

/-- The registry of these three servers. -/
def fieldRegistry : Registry :=
  ⟨[("alpha", stoppedServer), ("beta", rootServer), ("gamma", fieldServer)]⟩

/-- The history leads there. -/
theorem after_fieldHistory : Registry.after fieldHistory = fieldRegistry := by
  rw [fieldHistory, Registry.after, List.foldl_append, ← Registry.after, after_shadowingHistory]
  rfl

/-- The third server is listed last. -/
theorem all_fieldRegistry : fieldRegistry.all = [stoppedServer, rootServer, fieldServer] :=
  List.mergeSort_of_pairwise (by decide)

/-- The name belongs to the server with the field: the stopped one is found first, and behind
it the root type of the other is not looked at. -/
theorem owner_fieldRegistry : fieldRegistry.owner "Account" = .ok fieldServer := by
  rw [Registry.owner, Registry.findByField, Registry.findActiveByField, Registry.active,
    all_fieldRegistry]
  rfl

/-- A fourth server, with a type of the name. -/
def fourthRegistration : Registration :=
  { id := "delta", name := "Delta", endpoint := "http://delta/graphql", description := "" }

/-- The name stays with the third server when the second one is stopped, and when a fourth one
declares the type: the stopped server declares it too. -/
theorem resolve_stable_account :
    ((Router.resolve "Account").run silentWorld ⟨Registry.after fieldHistory, [], 0⟩).1
        = .ok fieldServer
      ∧ Router.ResolvesTo
        ((Registry.after fieldHistory).leave (⟨1706745720, 0⟩, .deactivate "beta"))
        "Account" fieldServer
      ∧ Router.ResolvesTo ((Registry.after fieldHistory).leave
        (⟨1706745720, 0⟩, .register fourthRegistration (oneFieldSchema "Account" "id"))) "Account"
        fieldServer := by
  have hresolved : ((Router.resolve "Account").run silentWorld
      ⟨Registry.after fieldHistory, [], 0⟩).1 = .ok fieldServer := by
    rw [Router.run_resolve_fst, after_fieldHistory]
    exact owner_fieldRegistry
  obtain ⟨hstop, -, hregister, -⟩ := Router.resolve_stable hresolved
  refine ⟨hresolved, hstop _ _ (by decide), (hregister ⟨1706745720, 0⟩
    fourthRegistration (oneFieldSchema "Account" "id") _ ?_ ?_).1 ?_⟩
  · rw [after_fieldHistory]
    rfl
  · rw [after_fieldHistory, all_fieldRegistry]
    simp only [List.forall_mem_cons]
    exact ⟨.inl rfl, .inl rfl, .inl rfl, List.forall_mem_nil _⟩
  · rintro ⟨-, hnobody⟩
    rw [after_fieldHistory, all_fieldRegistry] at hnobody
    refine hnobody stoppedServer (List.mem_cons_self ..) ?_
    exact (Registry.hasSchema_declaresType_iff ..).mp rfl

end GraphGateway
