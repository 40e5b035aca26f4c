import GraphGateway.Proofs.Registry.History
import GraphGateway.Proofs.Registry.Listing
import GraphGateway.Proofs.Registry.Names
import Mathlib.Data.List.Basic

/-!
# What a registry shows fits together

A registry is asked for its servers in several ways: all of them, the active
ones, the one of an id, the first that declares a name, and how many there
are. `Registry.IsConsistent` says how the answers fit together, and
`isConsistent_after` says that they do after every history.

What carries this is that a registry is a map: two servers of it differ in
their ids, so that the order by time and id is strict and there is one way
only to list the servers. Therefore no answer depends on the order in which the
entries of the map are walked (`IsMap.looksLike_of_perm`). The entries of a
`Registry` are sorted, but what a registry shows is defined for entries in any
order, and here they are put into any other.
-/

namespace GraphGateway

/-- **Whether a server comes before another one**: it was registered earlier, or
at the same time and has the smaller id. -/
def Server.Precedes (a b : Server) : Prop :=
  compare a.addedAt b.addedAt = .lt ∨ a.addedAt = b.addedAt ∧ a.id < b.id

namespace Registry

/-! ## The order of a map -/

/-- What is listed is what is in the registry. -/
theorem perm_all (r : Registry) : r.all.Perm (Keyed.values r.entries) := List.mergeSort_perm ..

/-- Times that compare as equal are equal. -/
theorem addedAt_eq_of_compare {a b : Time.Instant} (h : compare a b = .eq) : a = b := by
  obtain ⟨hseconds, hnanos⟩ := Ordering.then_eq_eq.mp h
  cases a
  cases b
  exact congrArg₂ _ (Int.compare_eq_eq.mp hseconds) (Nat.compare_eq_eq.mp hnanos)

/-- Of two servers with different ids, the one that is listed before the other
comes before it. -/
theorem precedes_of_listedBefore {a b : Server} (h : listedBefore a b = true) (hid : a.id ≠ b.id) :
    a.Precedes b := by
  unfold listedBefore at h
  cases hcompare : compare a.addedAt b.addedAt with
  | lt => exact .inl hcompare
  | gt =>
    rw [hcompare] at h
    cases h
  | eq =>
    rw [hcompare] at h
    refine .inr ⟨addedAt_eq_of_compare hcompare, ?_⟩
    have hle : ¬ b.id < a.id := by simpa using h
    exact String.not_le.mp fun hge => hid (String.le_antisymm (String.not_lt.mp hle) hge)

/-- Servers that are listed before each other have one id. -/
theorem id_eq_of_listedBefore {a b : Server} (hab : listedBefore a b = true)
    (hba : listedBefore b a = true) : a.id = b.id := by
  rw [listedBefore_iff] at hab hba
  rcases hab with hab | ⟨hab, hab' | ⟨hab', hle⟩⟩ <;>
    rcases hba with hba | ⟨hba, hba' | ⟨hba', hge⟩⟩
  -- only equal times leave the order to the ids
  case inr.inr.inr.inr => exact String.le_antisymm hle hge
  all_goals omega

/-! ## A map has one listing -/

variable {r : Registry}

namespace IsMap

/-- The servers that are listed differ in their ids. -/
theorem nodup_ids (h : r.IsMap) : (r.all.map Server.id).Nodup := by
  refine (r.perm_all.map Server.id).nodup_iff.mpr ?_
  have hkeys : (Keyed.values r.entries).map Server.id = r.entries.map Prod.fst := by
    unfold Keyed.values
    rw [List.map_map]
    exact List.map_congr_left fun entry hentry => (h.keyed entry hentry).symm
  rw [hkeys]
  exact h.sorted.nodup_keys

/-- **The servers of a map are listed strictly** in the order of time and id. -/
theorem pairwise_all (h : r.IsMap) : r.all.Pairwise Server.Precedes := by
  have hsorted := List.pairwise_mergeSort listedBefore_trans listedBefore_total
    (Keyed.values r.entries)
  exact (hsorted.and (List.pairwise_map.mp h.nodup_ids)).imp fun hboth =>
    precedes_of_listedBefore hboth.1 hboth.2

/-- **A server is listed** exactly if it is what its id is looked up as. -/
theorem mem_all_iff (h : r.IsMap) (server : Server) :
    server ∈ r.all ↔ r.get server.id = .ok server := by
  rw [r.perm_all.mem_iff, h.get_eq_ok_iff, and_iff_left rfl]

/-- What an id is looked up as is listed and has this id. -/
theorem mem_all_of_get (h : r.IsMap) {id : String} {server : Server}
    (hget : r.get id = .ok server) : server ∈ r.all ∧ server.id = id := by
  rw [r.perm_all.mem_iff]
  exact h.get_eq_ok_iff.mp hget

/-- **An id is listed once** if a server is found under it, and otherwise not
at all. -/
theorem count_ids (h : r.IsMap) (id : String) :
    (r.all.map Server.id).count id = if (r.get id).isOk then 1 else 0 := by
  have hlisted : id ∈ r.all.map Server.id ↔ (r.get id).isOk = true := by
    rw [List.mem_map]
    cases hget : r.get id with
    | ok server => exact iff_of_true ⟨server, h.mem_all_of_get hget⟩ rfl
    | error e =>
      refine iff_of_false ?_ Bool.false_ne_true
      rintro ⟨server, hserver, rfl⟩
      rw [(h.mem_all_iff server).mp hserver] at hget
      cases hget
  rw [h.nodup_ids.count]
  exact if_congr hlisted rfl rfl

/-- **A map has one listing**, in whatever order its entries are walked. -/
theorem all_of_perm (h : r.IsMap) {shuffled : Registry}
    (hperm : shuffled.entries.Perm r.entries) : shuffled.all = r.all := by
  have hvalues : shuffled.all.Perm r.all :=
    (shuffled.perm_all.trans (hperm.map Prod.snd)).trans r.perm_all.symm
  refine List.Perm.eq_of_pairwise (fun a b ha hb hab hba => ?_)
    (List.pairwise_mergeSort listedBefore_trans listedBefore_total _)
    (List.pairwise_mergeSort listedBefore_trans listedBefore_total _) hvalues
  -- two servers that come before each other have one id, and a map has only one such
  exact h.eq_of_id_eq (r.perm_all.mem_iff.mp (hvalues.mem_iff.mp ha)) (r.perm_all.mem_iff.mp hb)
    (id_eq_of_listedBefore hab hba)

/-- An id is looked up as the same server, in whatever order the entries are. -/
theorem get_of_perm (h : r.IsMap) {shuffled : Registry}
    (hperm : shuffled.entries.Perm r.entries) (id : String) : shuffled.get id = r.get id := by
  unfold get
  rw [Keyed.lookup_perm h.sorted.nodup_keys hperm]

end IsMap

/-! ## How many servers there are -/

/-- All servers are counted. -/
theorem count_eq (r : Registry) : r.count = r.all.length := by
  rw [r.perm_all.length_eq]
  exact (List.length_map _).symm

/-- The active servers are counted. -/
theorem activeCount_eq (r : Registry) : r.activeCount = r.active.length := by
  unfold active
  rw [(r.perm_all.filter _).length_eq, Keyed.values, List.filter_map, List.length_map]
  rfl

/-- **All servers are the active and the inactive ones**, so that no more are
active than there are. -/
theorem count_eq_add (r : Registry) :
    r.count = r.activeCount + (r.all.filter (!·.isActive)).length := by
  rw [count_eq, activeCount_eq]
  exact List.length_eq_length_filter_add _

/-! ## The first server that declares a name -/

/-- The first server that declares a name is behind servers that do not. -/
theorem findByField_eq_ok_iff_append (r : Registry) (name : String) (server : Server) :
    r.findByField name = .ok server ↔ ∃ before behind, r.all = before ++ server :: behind
      ∧ server.DeclaresType name ∧ ∀ earlier ∈ before, ¬ earlier.DeclaresType name := by
  rw [findByField_eq_ok_iff, List.find?_eq_some_iff_append, hasSchema_declaresType_iff]
  simp only [Bool.not_eq_true', Bool.eq_false_iff, ne_eq, hasSchema_declaresType_iff]
  exact ⟨fun ⟨hname, before, behind, hall, hbefore⟩ => ⟨before, behind, hall, hname, hbefore⟩,
    fun ⟨before, behind, hall, hname, hbefore⟩ => ⟨hname, before, behind, hall, hbefore⟩⟩

/-- Nothing is found where no server declares the name. -/
theorem findByField_eq_error_iff (r : Registry) (name : String) :
    r.findByField name = .error (.noServerFound name)
      ↔ ∀ server ∈ r.all, ¬ server.DeclaresType name := by
  have hnone : r.findByField name = .error (.noServerFound name)
      ↔ r.all.find? (hasSchema (·.declaresType name)) = none := by
    unfold findByField
    cases r.all.find? (hasSchema (·.declaresType name)) <;> simp
  rw [hnone, List.find?_eq_none]
  simp only [hasSchema_declaresType_iff]

/-! ## All of it together -/

/-- **Whether two registries show the same**, whatever they are asked. -/
structure LooksLike (a b : Registry) : Prop where
  /-- The same servers in the same order. -/
  all : a.all = b.all
  /-- The same active servers in the same order. -/
  active : a.active = b.active
  /-- As many servers. -/
  count : a.count = b.count
  /-- As many active servers. -/
  activeCount : a.activeCount = b.activeCount
  /-- The same server under every id. -/
  get : ∀ id, a.get id = b.get id
  /-- The same first server that declares a name. -/
  findByField : ∀ name, a.findByField name = b.findByField name

/-- **What a map shows does not depend on the order of its entries.** -/
theorem IsMap.looksLike_of_perm (h : r.IsMap) {shuffled : Registry}
    (hperm : shuffled.entries.Perm r.entries) : shuffled.LooksLike r := by
  have hall := h.all_of_perm hperm
  have hactive : shuffled.active = r.active := by
    unfold Registry.active
    rw [hall]
  refine ⟨hall, hactive, hperm.length_eq, ?_, h.get_of_perm hperm, fun name => ?_⟩
  · rw [activeCount_eq, activeCount_eq, hactive]
  · unfold Registry.findByField
    rw [hall]

/-- **Whether what a registry shows fits together.** -/
structure IsConsistent (r : Registry) : Prop where
  /-- A server is under its own id. -/
  keyed : ∀ entry ∈ r.entries, entry.1 = entry.2.id
  /-- Servers are listed strictly in the order of time and id. -/
  ordered : r.all.Pairwise Server.Precedes
  /-- What is listed is what its id is looked up as. -/
  listed : ∀ server, server ∈ r.all ↔ r.get server.id = .ok server
  /-- What an id is looked up as has this id. -/
  found : ∀ id server, r.get id = .ok server → server.id = id
  /-- An id that is found is listed once, and no other id is listed. -/
  once : ∀ id, (r.all.map Server.id).count id = if (r.get id).isOk then 1 else 0
  /-- The active servers are listed as they are among all. -/
  active : r.active = r.all.filter (·.isActive)
  /-- All servers are counted. -/
  count : r.count = r.all.length
  /-- The active servers are counted. -/
  activeCount : r.activeCount = r.active.length
  /-- No more servers are active than there are. -/
  activeCount_le : r.activeCount ≤ r.count
  /-- The others are the inactive ones. -/
  inactive : r.count - r.activeCount = (r.all.filter (!·.isActive)).length
  /-- The server that declares a name is the first one listed that does. -/
  first : ∀ name server, r.findByField name = .ok server
    ↔ ∃ before behind, r.all = before ++ server :: behind ∧ server.DeclaresType name
      ∧ ∀ earlier ∈ before, ¬ earlier.DeclaresType name
  /-- No server is found for a name that none declares. -/
  undeclared : ∀ name, r.findByField name = .error (.noServerFound name)
    ↔ ∀ server ∈ r.all, ¬ server.DeclaresType name
  /-- Nothing of this depends on the order of the entries. -/
  unordered : ∀ shuffled : Registry, shuffled.entries.Perm r.entries → shuffled.LooksLike r

/-- **What a map shows fits together.** -/
theorem IsMap.isConsistent (h : r.IsMap) : r.IsConsistent where
  keyed := h.keyed
  ordered := h.pairwise_all
  listed := h.mem_all_iff
  found _ _ hget := (h.mem_all_of_get hget).2
  once := h.count_ids
  active := rfl
  count := r.count_eq
  activeCount := r.activeCount_eq
  activeCount_le := r.count_eq_add ▸ Nat.le_add_right ..
  inactive := by rw [r.count_eq_add, Nat.add_sub_cancel_left]
  first := r.findByField_eq_ok_iff_append
  undeclared := r.findByField_eq_error_iff
  unordered _ := h.looksLike_of_perm

/-- **What a registry shows fits together after every history**, with changes
that succeed or fail and texts of any kind. -/
theorem isConsistent_after (history : List (Time.Instant × Change)) :
    (after history).IsConsistent :=
  (isMap_after history).isConsistent

end Registry

end GraphGateway
