import GraphGateway.Proofs.Flow.Run
import GraphGateway.Proofs.Registry.Sound

/-!
# Histories of a registry

A `Registry.Change` is what a client can do to a registry: register a server,
change or remove it, or put what a file holds in place of everything. A change
that fails leaves the registry as it was, and a history is any list of changes
with their times, made on the registry that is empty at first
(`Registry.after`). What no change ends holds after every history
(`after_induction`).

Any history leaves a map (`isMap_after`), with whatever schemas and texts. If
the schemas are not made up, but each was given by a backend
(`Change.IsBacked`), the registry after the history is also sound
(`isSound_after`), because every change keeps it so (`IsSound.apply`).
-/

namespace GraphGateway

open Time (Instant)

/-- **Whether a backend may have given a schema**, in some answer of its. -/
def Schema.IsIntrospected (s : Schema) : Prop :=
  ∃ endpoint a, Introspection.readSchema endpoint a = .ok s

/-- A schema that a backend gave can be kept in a file. -/
theorem Schema.IsIntrospected.isStorable {s : Schema} (h : s.IsIntrospected) : s.IsStorable := by
  obtain ⟨endpoint, a, h⟩ := h
  exact Introspection.isStorable_of_readSchema h

/-- **What a backend is asked for is a schema that it gave**, whatever the
network brings. -/
theorem Introspection.isIntrospected_of_introspect {world : Flow.World} {endpoint : String}
    {s : Flow.Run} {schema : Schema}
    (h : ((introspect endpoint).run world s).1 = .ok schema) : schema.IsIntrospected := by
  rw [introspect, Flow.run_andThen] at h
  split at h
  · next a ha => exact ⟨endpoint, a, h⟩
  · cases h

namespace Registry

/-- **A change of a registry**, as a client makes it. -/
inductive Change where
  /-- Registers a server with a schema. -/
  | register (registration : Registration) (schema : Schema)
  /-- Changes the server of an id. -/
  | update (id : String) (u : ServerUpdate)
  /-- Removes the server of an id. -/
  | remove (id : String)
  /-- Puts what a text holds in place of the registry. -/
  | replace (octets : List UInt8)

namespace Change

/-- Lets requests through to a server again. -/
def activate (id : String) : Change := update id (.activation true)

/-- Keeps requests from a server. -/
def deactivate (id : String) : Change := update id (.activation false)

/-- **Makes a change** at a time; it may fail. -/
def apply (now : Instant) : Change → Registry → Except GatewayError Registry
  | register registration schema, r => r.register (registration.server schema now)
  | update id u, r => (r.update id u now).map Prod.fst
  | remove id, r => (r.remove id).map Prod.fst
  | replace octets, _ => ofOctets octets

/-- The schema that a change brings. -/
def schema? : Change → Option Schema
  | register _ schema => some schema
  | update _ u => u.schema
  | remove _ => none
  | replace _ => none

/-- **Whether a change brings no schema but one that a backend gave.** -/
def IsBacked (c : Change) : Prop := ∀ schema ∈ c.schema?, schema.IsIntrospected

end Change

/-- **A history that can have happened**: its times have timestamps, and its
schemas were given by backends. -/
def IsHistory (history : List (Instant × Change)) : Prop :=
  ∀ entry ∈ history, entry.1.IsDated ∧ entry.2.IsBacked

/-- The registry that a change leaves, which is the same one if the change
fails. -/
def leave (r : Registry) (entry : Instant × Change) : Registry :=
  (entry.2.apply entry.1 r).toOption.getD r

/-- **The registry after a history**, in which changes may fail. -/
def after (history : List (Instant × Change)) : Registry := history.foldl leave empty

/-- A change leaves the registry as it was, or leaves what it made. -/
theorem leave_eq_or (r : Registry) (entry : Instant × Change) :
    r.leave entry = r ∨ entry.2.apply entry.1 r = .ok (r.leave entry) := by
  unfold leave
  cases entry.2.apply entry.1 r with
  | error e => exact .inl rfl
  | ok changed => exact .inr rfl

/-- **What no change ends holds after every history**, if it holds of the empty
registry. -/
theorem after_induction {P : Registry → Prop} {history : List (Instant × Change)}
    (hempty : P empty) (hleave : ∀ r, ∀ entry ∈ history, P r → P (r.leave entry)) :
    P (after history) :=
  List.foldlRecOn history leave hempty fun r hr entry hentry => hleave r entry hentry hr

/-! ## Maps -/

/-- **A change keeps a registry a map**, with any schema and any text. -/
theorem IsMap.apply {r changed : Registry} (h : r.IsMap) {now : Instant} {c : Change}
    (hchanged : c.apply now r = .ok changed) : changed.IsMap := by
  cases c with
  | register registration schema => exact h.register hchanged
  | update id u =>
    obtain ⟨⟨_, server⟩, hupdate, rfl⟩ := map_eq_ok hchanged
    exact h.update hupdate
  | remove id =>
    obtain ⟨⟨_, server⟩, hremove, rfl⟩ := map_eq_ok hchanged
    exact h.remove hremove
  | replace octets => exact isMap_of_ofOctets hchanged

/-- What a change leaves is a map. -/
theorem IsMap.leave {r : Registry} (h : r.IsMap) (entry : Instant × Change) :
    (r.leave entry).IsMap := by
  rcases r.leave_eq_or entry with hsame | hmade
  · rw [hsame]
    exact h
  · exact h.apply hmade

/-- **The registry after a history is a map.** -/
theorem isMap_after (history : List (Instant × Change)) : (after history).IsMap :=
  after_induction isMap_empty fun _ entry _ hr => hr.leave entry

/-! ## What others do -/

/-- **What other clients can make of a registry**, by any changes. -/
def Becomes (r changed : Registry) : Prop :=
  ∃ history : List (Instant × Change), changed = history.foldl leave r

/-- What other clients make of a map is a map. -/
theorem IsMap.becomes {r changed : Registry} (h : r.IsMap) (hchanged : r.Becomes changed) :
    changed.IsMap := by
  obtain ⟨history, rfl⟩ := hchanged
  exact List.foldlRecOn history Registry.leave h fun _ hr entry _ => hr.leave entry

/-! ## Sound registries -/

/-- **A change keeps a registry sound.** -/
theorem IsSound.apply {r changed : Registry} (h : r.IsSound) {now : Instant} {c : Change}
    (hnow : now.IsDated) (hc : c.IsBacked) (hchanged : c.apply now r = .ok changed) :
    changed.IsSound := by
  cases c with
  | register registration schema =>
    exact h.register (registration.isStorable_server (hc schema rfl).isStorable hnow) hchanged
  | update id u =>
    obtain ⟨⟨_, server⟩, hupdate, rfl⟩ := map_eq_ok hchanged
    exact h.update (fun schema hschema => (hc schema hschema).isStorable) hnow hupdate
  | remove id =>
    obtain ⟨⟨_, server⟩, hremove, rfl⟩ := map_eq_ok hchanged
    exact h.remove hremove
  | replace octets => exact isSound_of_ofOctets hchanged

/-- What a change leaves is sound. -/
theorem IsSound.leave {r : Registry} (h : r.IsSound) {entry : Instant × Change}
    (hnow : entry.1.IsDated) (hc : entry.2.IsBacked) : (r.leave entry).IsSound := by
  rcases r.leave_eq_or entry with hsame | hmade
  · rw [hsame]
    exact h
  · exact h.apply hnow hc hmade

/-- **The registry after a history is sound.** -/
theorem isSound_after {history : List (Instant × Change)} (h : IsHistory history) :
    (after history).IsSound :=
  after_induction isSound_empty fun _ entry hentry hr =>
    hr.leave (h entry hentry).1 (h entry hentry).2

end Registry

end GraphGateway
