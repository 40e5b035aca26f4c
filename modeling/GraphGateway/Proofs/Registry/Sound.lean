import GraphGateway.Introspection.Client
import GraphGateway.Proofs.Registry.Map

/-!
# Sound registries

A registry is **sound** (`Registry.IsSound`) if it is a map from ids to their
own servers, and each of these can be kept in a file: its instants are dated,
and its schema is one that a text can be read as, flat in its root types and
not nested too deeply.

Whatever a client can put into a registry keeps it sound. A schema comes from
an answer of a backend, where it lies under two objects of its own
(`Introspection.isStorable_of_readSchema`), and in a file it lies under two
objects again: the registry and the server. So an answer that could be read
has room for the schema in the file. A file that could be read is sound for
the same reason (`isSound_ofOctets`).
-/

namespace GraphGateway

open Time (Instant)
open Wire (Readable)

/-- **Whether a schema can be kept in a file**: it has flat root types, and it
is nested at most as deep as a file leaves room for. -/
structure Schema.IsStorable (s : Schema) : Prop where
  /-- The root types wrap nothing. -/
  flat : s.HasFlatRoots
  /-- The objects of the registry and the server are around it. -/
  shallow : s.toJson.depth ≤ 125

/-- **Whether a server can be kept in a file.** -/
structure Server.IsStorable (s : Server) : Prop where
  /-- The time of its registration has a timestamp. -/
  added : s.addedAt.IsDated
  /-- The time of its last change has one too. -/
  updated : s.updatedAt.IsDated
  /-- Its schema can be kept in a file. -/
  schema : ∀ schema ∈ s.schema, schema.IsStorable

/-- **Whether a registry is sound**: a map from ids to their own servers, which
can all be kept in a file. -/
structure Registry.IsSound (r : Registry) : Prop extends r.IsMap where
  /-- The servers can be kept in a file. -/
  storable : ∀ entry ∈ r.entries, entry.2.IsStorable

/-! ## Schemas and servers -/

/-- A schema that was read with room for it can be kept in a file. -/
theorem Schema.isStorable_of_readable {s : Schema} {room : Nat} (hroom : room ≤ 125)
    (h : Readable room (.record .schema) s) : s.IsStorable := by
  obtain ⟨hflat, hdepth⟩ := Schema.hasFlatRoots_of_readable h
  exact ⟨hflat, hdepth.trans (Nat.max_le.mpr ⟨by decide, hroom⟩)⟩

/-- A server that was read with room for its schema can be kept in a file. -/
theorem Server.isStorable_of_readable {s : Server} {room : Nat} (hroom : room ≤ 126)
    (h : Readable room (.record .server) s) : s.IsStorable := by
  obtain ⟨left, ⟨id, name, endpoint, description, schema, added, updated, isActive, _⟩, rfl, rfl,
    -, -, -, -, hschema, hadded, hupdated, -⟩ := h.record
  exact {
    added := (Wire.readable_of_need hadded).isDated
    updated := (Wire.readable_of_need hupdated).isDated
    schema := fun s hs => Schema.isStorable_of_readable (Nat.le_of_succ_le_succ hroom)
      (Wire.readable_of_may hschema hs) }

/-- What a registration makes can be kept in a file. -/
theorem Registration.isStorable_server (r : Registration) {schema : Schema} {now : Instant}
    (hschema : schema.IsStorable) (hnow : now.IsDated) : (r.server schema now).IsStorable where
  added := hnow
  updated := hnow
  schema s hs := by
    rw [← Option.some.inj hs]
    exact hschema

/-- **An update leaves a server that can be kept in a file**, if its own schema
can. -/
theorem ServerUpdate.isStorable_apply {u : ServerUpdate} {now : Instant} {s : Server}
    (hschema : ∀ schema ∈ u.schema, schema.IsStorable) (hnow : now.IsDated)
    (hs : s.IsStorable) : (u.apply now s).IsStorable where
  added := hs.added
  updated := hnow
  schema schema h := by
    rw [apply] at h
    cases hu : u.schema with
    | none =>
      rw [hu] at h
      exact hs.schema schema h
    | some new =>
      rw [hu] at h
      rw [← Option.some.inj h]
      exact hschema new hu

/-! ## What comes from outside -/

/-- A member of an object is nested one level less deep than the object. -/
theorem Json.depth_of_member? {key : String} {v data : Json} {n : Nat}
    (h : v.member? key = some data) (hv : v.depth ≤ n + 1) : data.depth ≤ n := by
  cases v with
  | object members =>
    rw [depth_object_le, membersDepth_le_iff] at hv
    exact hv (key, data) (Keyed.mem_of_lookup h)
  | _ => cases h

/-- The data of an answer is nested one level less deep than the answer. -/
theorem Introspection.depth_of_dataOf {v data : Json} {n : Nat} (h : dataOf v = some data)
    (hv : v.depth ≤ n + 1) : data.depth ≤ n := by
  rw [dataOf] at h
  split at h
  · cases h
  · exact Json.depth_of_member? h hv

/-- **A schema that a backend gave can be kept in a file**: in the answer it
lay under two objects too. -/
theorem Introspection.isStorable_of_readSchema {endpoint : String} {a : Backend.Answer}
    {schema : Schema} (h : readSchema endpoint a = .ok schema) : schema.IsStorable := by
  rw [readSchema] at h
  split at h
  · cases h
  · split at h
    · cases h
    · next value hvalue =>
      split at h
      · cases h
      · cases h
      · split at h
        · cases h
        · next data hdata =>
          split at h
          · cases h
          · next found hfound =>
            obtain rfl := Except.ok.inj h
            have hdepth := depth_of_dataOf hdata (Wire.readable_of_decodeText hvalue).depth_le
            have hread := Wire.readable_of_valueOf? hdepth
              ((Wire.decodeValue_eq_ok_iff ..).mp hfound)
            obtain ⟨left, ⟨schema, _⟩, hleft, rfl, hschema, -⟩ := hread.record
            exact Schema.isStorable_of_readable (by omega) (Wire.readable_of_need hschema)

/-! ## Registries -/

namespace Registry

/-- The empty registry is sound. -/
theorem isSound_empty : empty.IsSound where
  toIsMap := isMap_empty
  storable _ h := by cases h

variable {r changed : Registry}

/-- Putting a server under its own id keeps a registry sound. -/
theorem IsSound.insert (h : r.IsSound) {server : Server} (hserver : server.IsStorable) :
    IsSound ⟨Keyed.insert server.id server r.entries⟩ where
  toIsMap := h.toIsMap.insert server
  storable entry hentry := by
    rcases Keyed.mem_insert hentry with rfl | hentry
    · exact hserver
    · exact h.storable entry hentry

/-- **A registration keeps a registry sound.** -/
theorem IsSound.register (h : r.IsSound) {server : Server} (hserver : server.IsStorable)
    (hchanged : r.register server = .ok changed) : changed.IsSound := by
  rw [Registry.register] at hchanged
  split at hchanged
  · cases hchanged
  · rw [← Except.ok.inj hchanged]
    exact h.insert hserver

/-- **An update keeps a registry sound.** -/
theorem IsSound.update (h : r.IsSound) {id : String} {u : ServerUpdate} {now : Instant}
    {server : Server} (hschema : ∀ schema ∈ u.schema, schema.IsStorable) (hnow : now.IsDated)
    (hchanged : r.update id u now = .ok (changed, server)) : changed.IsSound := by
  obtain ⟨old, hold, rfl, rfl⟩ := h.toIsMap.update_eq hchanged
  exact h.insert (ServerUpdate.isStorable_apply hschema hnow (h.storable (id, old) hold))

/-- **A removal keeps a registry sound.** -/
theorem IsSound.remove (h : r.IsSound) {id : String} {server : Server}
    (hchanged : r.remove id = .ok (changed, server)) : changed.IsSound where
  toIsMap := h.toIsMap.remove hchanged
  storable entry hentry := by
    rw [remove_eq hchanged] at hentry
    exact h.storable entry (List.mem_of_mem_filter hentry)

/-- **A registry that was read from a file is sound.** -/
theorem isSound_of_ofOctets {octets : List UInt8} (h : ofOctets octets = .ok r) : r.IsSound where
  toIsMap := isMap_of_ofOctets h
  storable entry hentry := by
    obtain ⟨left, hleft, hserver⟩ :=
      (Wire.readable_of_decodeText (ofOctets_eq_ok h).1).map hentry
    exact Server.isStorable_of_readable (by omega) hserver

end Registry

end GraphGateway
