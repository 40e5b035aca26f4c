import GraphGateway.Proofs.Except
import GraphGateway.Proofs.Keyed
import GraphGateway.Proofs.Wire.Depth
import GraphGateway.Registry.Codec

/-!
# Registries are maps

A registry is a **map** (`Registry.IsMap`) if its ids strictly increase and
every server is kept under its own id. Nothing that a client can do ends
that: an operation of the registry works on a single id, and a text is
refused if it has a key that is not the id of its server
(`isMap_of_ofOctets`). A text may have one key several times; its entries are
put in one after another, so the last of them stays.

In a map, an id has one server at most (`IsMap.eq_of_id_eq`), and a server is
in the registry exactly if it is what its id is looked up as
(`IsMap.get_eq_ok_iff`).
-/

namespace GraphGateway

open Time (Instant)

namespace Registry

/-- **Whether a registry is a map** from ids to their own servers. -/
structure IsMap (r : Registry) : Prop where
  /-- The ids strictly increase. -/
  sorted : Keyed.Sorted r.entries
  /-- A server is under its own id. -/
  keyed : ∀ entry ∈ r.entries, entry.1 = entry.2.id

variable {r changed : Registry}

/-! ## What keeps a registry a map -/

/-- The empty registry is a map. -/
theorem isMap_empty : empty.IsMap where
  sorted := List.Pairwise.nil
  keyed _ h := by cases h

/-- Putting a server under its own id keeps a registry a map. -/
theorem IsMap.insert (h : r.IsMap) (server : Server) :
    IsMap ⟨Keyed.insert server.id server r.entries⟩ where
  sorted := Keyed.sorted_insert h.sorted
  keyed entry hentry := by
    rcases Keyed.mem_insert hentry with rfl | hentry
    · rfl
    · exact h.keyed entry hentry

/-- **A registration keeps a registry a map.** -/
theorem IsMap.register (h : r.IsMap) {server : Server}
    (hchanged : r.register server = .ok changed) : changed.IsMap := by
  rw [Registry.register] at hchanged
  split at hchanged
  · cases hchanged
  · rw [← Except.ok.inj hchanged]
    exact h.insert server

/-- An update puts the changed server under its own id: it keeps the id that
it was found under. -/
theorem IsMap.update_eq (h : r.IsMap) {id : String} {u : ServerUpdate} {now : Instant}
    {server : Server} (hchanged : r.update id u now = .ok (changed, server)) :
    ∃ old, (id, old) ∈ r.entries ∧ server = u.apply now old
      ∧ changed = ⟨Keyed.insert server.id server r.entries⟩ := by
  rw [Registry.update] at hchanged
  split at hchanged
  · next old hold =>
    have hmem := Keyed.mem_of_lookup hold
    have hid : id = (u.apply now old).id := h.keyed (id, old) hmem
    obtain ⟨rfl, rfl⟩ := Prod.mk.inj (Except.ok.inj hchanged)
    exact ⟨old, hmem, rfl, by rw [← hid]⟩
  · cases hchanged

/-- **An update keeps a registry a map.** -/
theorem IsMap.update (h : r.IsMap) {id : String} {u : ServerUpdate} {now : Instant}
    {server : Server} (hchanged : r.update id u now = .ok (changed, server)) : changed.IsMap := by
  obtain ⟨old, -, -, rfl⟩ := h.update_eq hchanged
  exact h.insert server

/-- What a removal leaves was there before. -/
theorem remove_eq {id : String} {server : Server} (hchanged : r.remove id = .ok (changed, server)) :
    changed = ⟨Keyed.erase id r.entries⟩ := by
  rw [Registry.remove] at hchanged
  split at hchanged
  · exact (Prod.mk.inj (Except.ok.inj hchanged)).1.symm
  · cases hchanged

/-- **A removal keeps a registry a map.** -/
theorem IsMap.remove (h : r.IsMap) {id : String} {server : Server}
    (hchanged : r.remove id = .ok (changed, server)) : changed.IsMap := by
  rw [remove_eq hchanged]
  exact {
    sorted := Keyed.sorted_erase h.sorted
    keyed := fun entry hentry => h.keyed entry (List.mem_of_mem_filter hentry) }

/-- A text that is read as a registry has every server under its own id. -/
theorem ofOctets_eq_ok {octets : List UInt8} (h : ofOctets octets = .ok r) :
    Wire.decodeText (.map (.record .server)) octets = .ok r.entries
      ∧ ∀ entry ∈ r.entries, entry.1 = entry.2.id := by
  rw [ofOctets] at h
  split at h
  · cases h
  · next entries hentries =>
    split at h
    · cases h
    · next hkeys =>
      obtain rfl := Except.ok.inj h
      refine ⟨hentries, fun entry hentry => ?_⟩
      simpa using List.find?_eq_none.mp hkeys entry hentry

/-- **A registry that was read from a text is a map**, whatever the text has. -/
theorem isMap_of_ofOctets {octets : List UInt8} (h : ofOctets octets = .ok r) : r.IsMap := by
  obtain ⟨hentries, hkeyed⟩ := ofOctets_eq_ok h
  exact { sorted := (Wire.readable_of_decodeText hentries).sorted, keyed := hkeyed }

/-! ## Servers and their ids -/

/-- What an id is looked up as. -/
theorem get_eq_ok_iff_lookup {id : String} {server : Server} :
    r.get id = .ok server ↔ r.entries.lookup id = some server := by
  rw [get]
  cases r.entries.lookup id <;> simp

namespace IsMap

/-- A server is in a map under its own id, or not at all. -/
theorem mem_values_iff (h : r.IsMap) {server : Server} :
    server ∈ Keyed.values r.entries ↔ (server.id, server) ∈ r.entries := by
  rw [Keyed.values, List.mem_map]
  constructor
  · rintro ⟨⟨key, server⟩, hentry, rfl⟩
    rw [← h.keyed (key, server) hentry]
    exact hentry
  · exact fun hentry => ⟨_, hentry, rfl⟩

/-- **What an id is looked up as** is the server with this id. -/
theorem get_eq_ok_iff (h : r.IsMap) {id : String} {server : Server} :
    r.get id = .ok server ↔ server ∈ Keyed.values r.entries ∧ server.id = id := by
  rw [get_eq_ok_iff_lookup, Keyed.lookup_eq_some_iff h.sorted.nodup_keys, h.mem_values_iff]
  constructor
  · intro hentry
    obtain rfl : id = server.id := h.keyed (id, server) hentry
    exact ⟨hentry, rfl⟩
  · rintro ⟨hentry, rfl⟩
    exact hentry

/-- **Two servers of a map differ in their ids.** -/
theorem eq_of_id_eq (h : r.IsMap) {a b : Server} (ha : a ∈ Keyed.values r.entries)
    (hb : b ∈ Keyed.values r.entries) (hid : a.id = b.id) : a = b := by
  have hget := h.get_eq_ok_iff.mpr ⟨ha, hid⟩
  rw [h.get_eq_ok_iff.mpr ⟨hb, rfl⟩] at hget
  exact (Except.ok.inj hget).symm

end IsMap

end Registry

end GraphGateway
