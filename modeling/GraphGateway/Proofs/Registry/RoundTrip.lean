import GraphGateway.Proofs.Json.Reading
import GraphGateway.Proofs.Registry.History
import GraphGateway.Proofs.Wire.Whole

/-!
# Registries are read as they were written

The text of a sound registry is read as the registry
(`IsSound.ofOctets_exportOctets`): the text is that of a value with whole
numbers, so it is read as the value; the value is nested no deeper than a text
may be; its members stand for the servers; and the map that they make is the
sorted map, in whatever order they were written (`Registry.WrittenAs`).

So every registry that a history can leave may be exported and imported again
(`Registry.import_export`).
-/

namespace GraphGateway

open Time (Instant)

/-- A server that can be kept in a file leaves a level for the registry. -/
theorem Server.IsStorable.depth_toJson {s : Server} (h : s.IsStorable) :
    s.toJson.depth ≤ 126 := by
  rw [Server.toJson, Json.depth_object_le]
  simp only [Json.membersDepth_append_le, Json.membersDepth_always_le,
    Json.membersDepth_orNull_le, Json.depth_string, Json.depth_bool, Nat.zero_le, true_and,
    and_true]
  exact fun schema hschema => (h.schema schema hschema).shallow

/-- **A server that can be kept in a file** is read as it was written. -/
theorem Server.IsStorable.valueOf?_toJson {s : Server} (h : s.IsStorable) :
    Wire.valueOf? (.record .server) s.toJson = some s :=
  Server.valueOf?_toJson h.added h.updated fun schema hschema => (h.schema schema hschema).flat

namespace Registry

variable {r : Registry}

/-- The record of a registry has no numbers but whole ones. -/
theorem isWhole_toJson (r : Registry) : r.toJson.isWhole = true := by
  rw [toJson, Json.isWhole, Json.membersAreWhole_iff]
  intro member hmember
  obtain ⟨entry, -, rfl⟩ := List.mem_map.mp hmember
  exact entry.2.isWhole_toJson

/-- The record of servers that can be kept in a file is nested no deeper than a text may be. -/
theorem depth_toJson (h : ∀ entry ∈ r.entries, entry.2.IsStorable) : r.toJson.depth ≤ 127 := by
  rw [toJson, Json.depth_object_le, Json.membersDepth_le_iff]
  intro member hmember
  obtain ⟨entry, hentry, rfl⟩ := List.mem_map.mp hmember
  exact (h entry hentry).depth_toJson

/-- The members of a record stand for the servers of the registry. -/
theorem entriesOf?_toJson {entries : List (String × Server)}
    (h : ∀ entry ∈ entries, entry.2.IsStorable) :
    Wire.entriesOf? (.record .server) (entries.map fun entry => (entry.1, entry.2.toJson))
      = some entries := by
  induction entries with
  | nil => rfl
  | cons entry rest ih =>
    have hrest := ih fun later hlater => h later (List.mem_cons_of_mem _ hlater)
    rw [Wire.entriesOf?] at hrest ⊢
    rw [List.map_cons, List.mapM_cons, hrest,
      (h entry (List.mem_cons_self ..)).valueOf?_toJson]
    rfl

/-! ## The order of the members -/

/-- **Whether two registries have the same servers**, each under its key, in whatever order. -/
def Shuffles (shuffled r : Registry) : Prop := shuffled.entries.Perm r.entries

/-- **Whether a registry is written as some octets**: they are the text of its servers in some
order. -/
def WrittenAs (r : Registry) (octets : List UInt8) : Prop :=
  ∃ shuffled : Registry, shuffled.Shuffles r ∧ octets = shuffled.exportOctets

/-- A registry is written in its own order. -/
theorem writtenAs_exportOctets (r : Registry) : r.WrittenAs r.exportOctets := ⟨r, .refl _, rfl⟩

/-- **The record of a sound registry** stands for its map, whatever the order of its members. -/
theorem IsSound.valueOf?_toJson (h : r.IsSound) {shuffled : Registry} (hs : shuffled.Shuffles r) :
    Wire.valueOf? (.map (.record .server)) shuffled.toJson = some r.entries := by
  have hstorable : ∀ entry ∈ shuffled.entries, entry.2.IsStorable := fun entry hentry =>
    h.storable entry (hs.subset hentry)
  rw [toJson, Wire.valueOf?_object, Wire.objectOf?, entriesOf?_toJson hstorable]
  exact congrArg some (Keyed.ofList_eq_of_perm h.sorted hs)

/-- **The text of a sound registry is read as the registry**, whatever the order of its
members. -/
theorem IsSound.ofOctets_eq (h : r.IsSound) {octets : List UInt8} (hwritten : r.WrittenAs octets) :
    ofOctets octets = .ok r := by
  obtain ⟨shuffled, hs, rfl⟩ := hwritten
  have hdepth : shuffled.toJson.depth ≤ 127 :=
    depth_toJson fun entry hentry => h.storable entry (hs.subset hentry)
  obtain ⟨node, hread, hnode⟩ := Json.read_pretty shuffled.isWhole_toJson
  have hdecode : Wire.decodeText (.map (.record .server)) shuffled.exportOctets = .ok r.entries :=
    (Wire.decodeText_eq_ok_iff hread hnode hdepth ..).mpr (h.valueOf?_toJson hs)
  have hkeys : r.entries.find? (fun entry => entry.1 != entry.2.id) = none := by
    refine List.find?_eq_none.mpr fun entry hentry => ?_
    simpa using h.keyed entry hentry
  rw [ofOctets, hdecode]
  dsimp only
  rw [hkeys]

/-- **The text of a sound registry is read as the registry.** -/
theorem IsSound.ofOctets_exportOctets (h : r.IsSound) : ofOctets r.exportOctets = .ok r :=
  h.ofOctets_eq r.writtenAs_exportOctets

/-- **A registry that was exported is imported again**, after any history and
in place of any registry: the same ids, and under each the same server, to the
nanosecond of its times and to the last reference of its schema. The order in
which the text has the servers does not matter. -/
theorem import_export {history : List (Instant × Change)} (h : IsHistory history)
    (target : Registry) (now : Instant) :
    (Change.replace (after history).exportOctets).apply now target = .ok (after history)
      ∧ ∀ octets, (after history).WrittenAs octets →
        (Change.replace octets).apply now target = .ok (after history) :=
  ⟨(isSound_after h).ofOctets_exportOctets, fun _ => (isSound_after h).ofOctets_eq⟩

/-- The answer of a backend with one type, whose one field is never null. -/
def exampleAnswer : Backend.Answer where
  status := 200
  body :=
    "\x7b\"data\":\x7b\"__schema\":\x7b\"queryType\":\x7b\"name\":\"Query\"\x7d," ++
    "\"types\":[\x7b\"kind\":\"OBJECT\",\"name\":\"Query\",\"fields\":[\x7b\"name\":\"me\"," ++
    "\"type\":\x7b\"kind\":\"NON_NULL\",\"ofType\":\x7b\"kind\":\"SCALAR\",\"name\":\"ID\"" ++
    "\x7d\x7d\x7d]\x7d]\x7d\x7d\x7d"

/-- The schema in this answer. -/
def exampleSchema : Schema :=
  (Introspection.readSchema "http://a/graphql" exampleAnswer).toOption.getD
    { queryType := none, mutationType := none, subscriptionType := none, types := [],
      directives := [] }

/-- The answer has this schema. -/
theorem readSchema_exampleAnswer :
    Introspection.readSchema "http://a/graphql" exampleAnswer = .ok exampleSchema := by
  have h : (Introspection.readSchema "http://a/graphql" exampleAnswer).toOption.isSome = true := by
    decide +kernel
  rw [exampleSchema]
  cases hread : Introspection.readSchema "http://a/graphql" exampleAnswer with
  | error e =>
    rw [hread] at h
    cases h
  | ok schema => rfl

/-- The schema was given by a backend. -/
theorem isIntrospected_exampleSchema : exampleSchema.IsIntrospected :=
  ⟨"http://a/graphql", exampleAnswer, readSchema_exampleAnswer⟩

/-- A server is registered and stopped, and cannot be registered again. -/
def exampleHistory : List (Instant × Change) :=
  let registration : Registration :=
    { id := "a", name := "A", endpoint := "http://a/graphql", description := "" }
  [(⟨1700000000, 0⟩, .register registration exampleSchema),
    (⟨1700000060, 500000000⟩, .deactivate "a"),
    (⟨1700000120, 0⟩, .register registration exampleSchema)]

/-- This history can have happened. -/
theorem isHistory_exampleHistory : IsHistory exampleHistory := by
  refine List.forall_mem_cons.mpr ⟨⟨?_, ?_⟩, List.forall_mem_cons.mpr ⟨⟨?_, ?_⟩,
    List.forall_mem_cons.mpr ⟨⟨?_, ?_⟩, fun _ hnone => (by cases hnone)⟩⟩⟩
  · decide
  · intro schema hschema
    exact Option.some.inj hschema ▸ isIntrospected_exampleSchema
  · decide
  · intro schema hschema
    cases hschema
  · decide
  · intro schema hschema
    exact Option.some.inj hschema ▸ isIntrospected_exampleSchema

/-- Two servers are registered. -/
def pairHistory : List (Instant × Change) :=
  [(⟨1700000000, 0⟩, .register ⟨"b", "B", "http://b/graphql", ""⟩ exampleSchema),
    (⟨1700000060, 0⟩, .register ⟨"a", "A", "http://a/graphql", ""⟩ exampleSchema)]

/-- This history can have happened. -/
theorem isHistory_pairHistory : IsHistory pairHistory := by
  refine List.forall_mem_cons.mpr ⟨⟨?_, ?_⟩, List.forall_mem_cons.mpr ⟨⟨?_, ?_⟩,
    fun _ hnone => (by cases hnone)⟩⟩
  · decide
  · intro schema hschema
    exact Option.some.inj hschema ▸ isIntrospected_exampleSchema
  · decide
  · intro schema hschema
    exact Option.some.inj hschema ▸ isIntrospected_exampleSchema

/-- The registries after these histories are exported and imported again, and that of two
servers from a text in which the second is the first. -/
theorem import_export_exampleHistory :
    IsHistory exampleHistory
      ∧ (Change.replace (after exampleHistory).exportOctets).apply ⟨0, 0⟩ empty
        = .ok (after exampleHistory)
      ∧ IsHistory pairHistory
      ∧ (after pairHistory).entries.map Prod.fst = ["a", "b"]
      ∧ (Change.replace (exportOctets ⟨(after pairHistory).entries.reverse⟩)).apply ⟨0, 0⟩ empty
        = .ok (after pairHistory) :=
  ⟨isHistory_exampleHistory, (import_export isHistory_exampleHistory empty ⟨0, 0⟩).1,
    isHistory_pairHistory, by decide +kernel,
    (import_export isHistory_pairHistory empty ⟨0, 0⟩).2 _ ⟨_, List.reverse_perm _, rfl⟩⟩

end Registry

end GraphGateway
