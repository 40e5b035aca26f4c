import GraphGateway.Proofs.Routing.Prediction

/-!
# What is offered under a name

Who asks for the fields that can be routed gets a map from the names of the active servers to what
these offer, and who has a query checked gets the names of the active servers that offer its
field. An id belongs to one server, but a name may be that of several. In the map, of servers with
one name only the last registered counts (`Registry.lookup_offeredFields`), while a check lists the
name if any of them offers the field (`Registry.mem_serversOffering_iff`).

So what is offered under a name in the map is listed by a check, and the two agree on a name that
only one active server with a schema has (`Router.compares_run`). Where the last server of a name
does not offer a field that an earlier one offers, the map loses it (`not_listed_iff_offered`).
-/

namespace GraphGateway

namespace Registry

/-- **The schemas of the active servers of a name**, in the order of their registration. -/
def schemasNamed (r : Registry) (name : String) : List Schema :=
  (r.active.filter (·.name == name)).filterMap (·.schema)

/-- **What is offered under a name** is what the last of its servers offers. -/
theorem lookup_offeredFields (r : Registry) (name : String) :
    r.offeredFields.lookup name = (r.schemasNamed name).getLast?.map Schema.availableFields := by
  have hvalues : ((r.active.filterMap fun server =>
        server.schema.map fun schema => (server.name, schema.availableFields)).filter
          (·.1 == name)).map Prod.snd
      = (r.schemasNamed name).map Schema.availableFields := by
    rw [schemasNamed, List.filter_filterMap, List.map_filterMap, List.map_filterMap,
      List.filterMap_filter]
    congr 1
    funext server
    cases server.schema with
    | none => simp
    | some schema => by_cases h : server.name = name <;> simp [Option.filter, h]
  rw [offeredFields, Keyed.lookup_ofList, hvalues, List.getLast?_map]

/-- **A name is listed by a check** if any of its servers offers the field. -/
theorem mem_serversOffering_iff (r : Registry) (name field : String) :
    name ∈ r.serversOffering field
      ↔ ∃ schema ∈ r.schemasNamed name, field ∈ schema.availableFields := by
  simp only [serversOffering, schemasNamed, List.mem_map, List.mem_filter, List.mem_filterMap,
    hasSchema, Option.any_eq_true, List.any_eq_true, beq_iff_eq]
  constructor
  · rintro ⟨server, ⟨hserver, schema, hschema, _, hfield, rfl⟩, rfl⟩
    exact ⟨schema, ⟨server, ⟨hserver, rfl⟩, hschema⟩, hfield⟩
  · rintro ⟨schema, ⟨server, ⟨hserver, rfl⟩, hschema⟩, hfield⟩
    exact ⟨server, ⟨hserver, schema, hschema, field, hfield, rfl⟩, rfl⟩

/-- The schema of an active server is one of those of its name. -/
theorem mem_schemasNamed {r : Registry} {server : Server} (hactive : server ∈ r.active)
    {schema : Schema} (hschema : server.schema = some schema) :
    schema ∈ r.schemasNamed server.name :=
  List.mem_filterMap.mpr ⟨server, List.mem_filter.mpr ⟨hactive, beq_self_eq_true _⟩, hschema⟩

end Registry

/-- **Whether a map of fields has a field under a name.** -/
def Offered (fields : List (String × List String)) (name field : String) : Prop :=
  ∃ names, fields.lookup name = some names ∧ field ∈ names

/-- **How the names that a check lists compare with a map of fields**, for one field and one
name. -/
structure Compares (r : Registry) (field name : String) (listed : List String)
    (fields : List (String × List String)) : Prop where
  /-- The name is listed if any of its servers offers the field. -/
  listed_iff : name ∈ listed ↔ ∃ schema ∈ r.schemasNamed name, field ∈ schema.availableFields
  /-- Under the name is what the last of its servers offers. -/
  lookup_eq : fields.lookup name = (r.schemasNamed name).getLast?.map Schema.availableFields
  /-- What has the field under it is listed. -/
  listed_of_offered : Offered fields name field → name ∈ listed
  /-- A name that is listed has the field under it, unless only servers offer the field that
  are not the last of their name. -/
  hidden_iff : name ∈ listed ∧ ¬ Offered fields name field
    ↔ ∃ earlier last, r.schemasNamed name = earlier ++ [last]
      ∧ field ∉ last.availableFields ∧ ∃ schema ∈ earlier, field ∈ schema.availableFields
  /-- The two agree on a name that only one server has. -/
  agree : (r.schemasNamed name).length ≤ 1 → (name ∈ listed ↔ Offered fields name field)
  /-- What such a server offers is under its name. -/
  own : (r.schemasNamed name).length ≤ 1 → ∀ server ∈ r.active, server.name = name →
    ∀ schema, server.schema = some schema → fields.lookup name = some schema.availableFields

/-- A field is under a name if the last of its servers offers it. -/
theorem offered_iff {r : Registry} {fields : List (String × List String)} {name field : String}
    (hlookup : fields.lookup name = (r.schemasNamed name).getLast?.map Schema.availableFields) :
    Offered fields name field
      ↔ ∃ last, (r.schemasNamed name).getLast? = some last ∧ field ∈ last.availableFields := by
  unfold Offered
  rw [hlookup]
  simp only [Option.map_eq_some_iff]
  constructor
  · rintro ⟨_, ⟨last, hlast, rfl⟩, hfield⟩
    exact ⟨last, hlast, hfield⟩
  · rintro ⟨last, hlast, hfield⟩
    exact ⟨_, ⟨last, hlast, rfl⟩, hfield⟩

/-- **The names that a check lists compare so** with the map of fields. -/
theorem Registry.compares (r : Registry) (field name : String) :
    Compares r field name (r.serversOffering field) r.offeredFields := by
  have hlisted := r.mem_serversOffering_iff name field
  have hlookup := r.lookup_offeredFields name
  have hoffered : Offered r.offeredFields name field ↔ _ := offered_iff hlookup
  have hown : ∀ server ∈ r.active, server.name = name → ∀ schema, server.schema = some schema →
      schema ∈ r.schemasNamed name := by
    rintro server hactive rfl schema hschema
    exact mem_schemasNamed hactive hschema
  rcases List.eq_nil_or_concat' (r.schemasNamed name) with hnone | ⟨earlier, last, hsplit⟩
  · -- no active server of the name has a schema
    rw [hnone] at hlisted hoffered hown
    refine ⟨r.mem_serversOffering_iff name field, hlookup, ?_, ?_, fun _ => ?_, fun _ => ?_⟩
    · simp [hoffered]
    · simp [hlisted, hnone]
    · simp [hlisted, hoffered]
    · exact fun server hactive hname schema hschema =>
        absurd (hown server hactive hname schema hschema) List.not_mem_nil
  · have hlast : (earlier ++ [last]).getLast? = some last := List.getLast?_concat ..
    rw [hsplit] at hlisted hoffered hown
    rw [hlast] at hoffered
    have hlisted' : name ∈ r.serversOffering field
        ↔ (∃ schema ∈ earlier, field ∈ schema.availableFields) ∨ field ∈ last.availableFields := by
      rw [hlisted]
      simp [or_and_right, exists_or]
    have hoffered' : Offered r.offeredFields name field ↔ field ∈ last.availableFields := by
      rw [hoffered]
      simp
    have hsingle : (r.schemasNamed name).length ≤ 1 → earlier = [] := by
      rw [hsplit]
      simp
    refine ⟨r.mem_serversOffering_iff name field, hlookup, fun h => ?_, ⟨?_, ?_⟩, fun h => ?_,
      fun h server hactive hname schema hschema => ?_⟩
    · exact hlisted'.mpr (.inr (hoffered'.mp h))
    · rintro ⟨hmem, hnot⟩
      rw [hoffered'] at hnot
      exact ⟨earlier, last, hsplit, hnot, (hlisted'.mp hmem).resolve_right hnot⟩
    · rintro ⟨earlier', last', hsplit', hnot, hmem⟩
      obtain ⟨rfl, hsame⟩ := List.append_inj' (hsplit.symm.trans hsplit') rfl
      obtain rfl := List.singleton_inj.mp hsame
      exact ⟨hlisted'.mpr (.inl hmem), fun hthere => hnot (hoffered'.mp hthere)⟩
    · rw [hlisted', hoffered', hsingle h]
      simp
    · have hmem := hown server hactive hname schema hschema
      rw [hsingle h, List.nil_append, List.mem_singleton] at hmem
      rw [hlookup, hsplit, hlast, hmem]
      rfl

namespace Router

variable {router : Router} {query : String} {operation : Operation}

/-- **What a check of a query lists compares so with the fields that are available**, for every
registry and every name: the name is listed if any active server of the name offers the field of
the query, and the field is available under it if the last of them does. -/
theorem compares_run (hextract : router.extractor.extract query = .ok operation)
    (world : Flow.World) (s : Flow.Run) :
    ∃ listed, ((router.check query).run world s).1 = .ok { servers := listed }
      ∧ ∀ name,
        Compares s.registry operation.field name listed (availableFields.run world s).1 := by
  refine ⟨s.registry.serversOffering operation.field, ?_, fun name => ?_⟩
  · rw [run_check hextract, Registry.serversOffering_eq]
  · exact s.registry.compares operation.field name

end Router

/-- The one server that offers the type of accounts has it under its name. -/
theorem compares_run_account :
    (⟨.heuristic⟩ : Router).extractor.extract "{ Account { id } }" = .ok ⟨.query, "Account"⟩
      ∧ ((Router.check ⟨.heuristic⟩ "{ Account { id } }").run silentWorld
        ⟨shadowingRegistry, [], 0⟩).1 = .ok { servers := ["Beta"] }
      ∧ Offered (Router.availableFields.run silentWorld ⟨shadowingRegistry, [], 0⟩).1 "Beta"
        "Account" := by
  obtain ⟨listed, hchecked, hcompares⟩ :=
    Router.compares_run extract_account silentWorld ⟨shadowingRegistry, [], 0⟩
  have hlisted : ((Router.check ⟨.heuristic⟩ "{ Account { id } }").run silentWorld
      ⟨shadowingRegistry, [], 0⟩).1 = .ok { servers := ["Beta"] } := by
    rw [Router.run_check extract_account, offering_shadowingRegistry]
    rfl
  obtain rfl : listed = ["Beta"] := by
    injection (hchecked.symm.trans hlisted) with h
    exact congrArg QueryCheck.servers h
  refine ⟨extract_account, hlisted, ((hcompares "Beta").agree ?_).mp (List.mem_singleton.mpr rfl)⟩
  rw [Registry.schemasNamed, active_shadowingRegistry]
  exact Nat.le_refl 1

/-! ## Two servers of one name -/

/-- The history in which the stopped server is started, and the other one gets its name and another
schema. -/
def sharingHistory : List (Time.Instant × Registry.Change) :=
  shadowingHistory ++ [(⟨1706745660, 0⟩, .activate "alpha"),
    (⟨1706745720, 0⟩,
      .update "beta" { name := some "Alpha", schema := some Registry.exampleSchema })]

/-- The server of accounts, behind its start. -/
def resumedServer : Server := { stoppedServer with isActive := true, updatedAt := ⟨1706745660, 0⟩ }

/-- The server that has the same name. -/
def namesake : Server :=
  { rootServer with
    name := "Alpha", schema := some Registry.exampleSchema, updatedAt := ⟨1706745720, 0⟩ }

/-- This history can have happened. -/
theorem isHistory_sharingHistory : Registry.IsHistory sharingHistory := by
  refine List.forall_mem_append.mpr ⟨isHistory_shadowingHistory, ?_⟩
  refine List.forall_mem_cons.mpr ⟨⟨by decide, ?_⟩, List.forall_mem_singleton.mpr ⟨by decide, ?_⟩⟩
  · intro schema hschema
    cases hschema
  · intro schema hschema
    exact Option.some.inj hschema ▸ Registry.isIntrospected_exampleSchema

/-- Both servers are there. -/
theorem after_sharingHistory :
    Registry.after sharingHistory = ⟨[("alpha", resumedServer), ("beta", namesake)]⟩ := by
  rw [Registry.after, sharingHistory, List.foldl_append]
  rw [show shadowingHistory.foldl Registry.leave Registry.empty = shadowingRegistry from
    after_shadowingHistory]
  rfl

/-- Both are active. -/
theorem active_sharingHistory :
    (Registry.after sharingHistory).active = [resumedServer, namesake] := by
  have hall : (Registry.after sharingHistory).all = [resumedServer, namesake] := by
    rw [after_sharingHistory]
    exact List.mergeSort_of_pairwise (by decide)
  rw [Registry.active, hall]
  rfl

/-- The later of them does not offer the type of accounts, which the earlier one offers. -/
theorem compares_sharingHistory :
    Compares (Registry.after sharingHistory) "Account" "Alpha"
        ((Registry.after sharingHistory).serversOffering "Account")
        (Registry.after sharingHistory).offeredFields
      ∧ ∃ accounts, (Registry.after sharingHistory).schemasNamed "Alpha"
          = [accounts] ++ [Registry.exampleSchema]
        ∧ "Account" ∈ accounts.availableFields
        ∧ "Account" ∉ Registry.exampleSchema.availableFields := by
  refine ⟨Registry.compares _ _ _, ?_⟩
  rw [Registry.schemasNamed, active_sharingHistory]
  exact ⟨_, rfl, by decide, by decide +kernel⟩

/-- **A name that a check lists need not have the field under it**: of two servers of one name the
earlier offers the field, and what the map has under the name is what the later one offers. -/
theorem not_listed_iff_offered :
    ¬ ∀ (history : List (Time.Instant × Registry.Change)) (world : Flow.World) (router : Router)
      (query name : String) (operation : Operation) (listed : List String) (calls : List Call)
      (ticks : Nat), Registry.IsHistory history →
      router.extractor.extract query = .ok operation →
      ((router.check query).run world ⟨Registry.after history, calls, ticks⟩).1
        = .ok { servers := listed } →
      (name ∈ listed ↔ Offered
        (Router.availableFields.run world ⟨Registry.after history, calls, ticks⟩).1 name
        operation.field) := by
  intro h
  obtain ⟨hcompares, accounts, hnamed, haccount, hother⟩ := compares_sharingHistory
  have hchecked : ((Router.check ⟨.heuristic⟩ "{ Account { id } }").run silentWorld
      ⟨Registry.after sharingHistory, [], 0⟩).1
        = .ok { servers := (Registry.after sharingHistory).serversOffering "Account" } := by
    rw [Router.run_check extract_account, Registry.serversOffering_eq]
  have hagree := h sharingHistory silentWorld ⟨.heuristic⟩ "{ Account { id } }" "Alpha"
    ⟨.query, "Account"⟩ _ [] 0 isHistory_sharingHistory extract_account hchecked
  rw [Router.availableFields, Flow.run_readRegistry] at hagree
  dsimp only at hagree
  obtain ⟨hlisted, hnot⟩ :=
    hcompares.hidden_iff.mpr ⟨_, _, hnamed, hother, accounts, List.mem_singleton.mpr rfl, haccount⟩
  exact hnot (hagree.mp hlisted)

end GraphGateway
