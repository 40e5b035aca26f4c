import GraphGateway.Router

/-!
# Listings of a registry

A listing sorts the servers of a registry by the time of their registration
and, of servers registered at the same time, by their ids. The sort is
stable, so it does not matter whether servers are left out before it or
after it (`filter_inRegistrationOrder`).

For a registry this means that its active servers are listed as if the
others were not there: `Registry.activeOnly` takes the inactive servers out,
and `all_activeOnly` says that its listing is the listing of the active
servers.
-/

namespace GraphGateway.Registry

/-! ## The order of a listing -/

/-- **The order of a listing, spelled out**: by seconds, then by
nanoseconds, then by id. -/
theorem listedBefore_iff (a b : Server) :
    listedBefore a b = true
      ↔ a.addedAt.seconds < b.addedAt.seconds
        ∨ a.addedAt.seconds = b.addedAt.seconds
          ∧ (a.addedAt.nanos < b.addedAt.nanos
            ∨ a.addedAt.nanos = b.addedAt.nanos ∧ a.id ≤ b.id) := by
  have hcompare : compare a.addedAt b.addedAt
      = (compare a.addedAt.seconds b.addedAt.seconds).then
        (compare a.addedAt.nanos b.addedAt.nanos) := rfl
  rw [listedBefore, hcompare]
  rcases Int.lt_trichotomy a.addedAt.seconds b.addedAt.seconds with hs | hs | hs
  · rw [Int.compare_eq_lt.mpr hs]
    simp [hs]
  · rw [Int.compare_eq_eq.mpr hs, Ordering.eq_then]
    rcases Nat.lt_trichotomy a.addedAt.nanos b.addedAt.nanos with hn | hn | hn
    · rw [Nat.compare_eq_lt.mpr hn]
      simp [hs, hn]
    · have hid : (!decide (b.id < a.id)) = true ↔ a.id ≤ b.id := by
        rw [Bool.not_eq_true', decide_eq_false_iff_not, String.not_lt]
      rw [Nat.compare_eq_eq.mpr hn]
      refine hid.trans ?_
      simp only [hs, hn, Int.lt_irrefl, Nat.lt_irrefl, true_and, false_or]
    · rw [Nat.compare_eq_gt.mpr hn]
      simp [hs, Nat.lt_asymm hn, Nat.ne_of_gt hn]
  · rw [Int.compare_eq_gt.mpr hs]
    simp [Int.lt_asymm hs, Int.ne_of_gt hs]

/-- The order of a listing is transitive. -/
theorem listedBefore_trans (a b c : Server) (hab : listedBefore a b = true)
    (hbc : listedBefore b c = true) : listedBefore a c = true := by
  rw [listedBefore_iff] at hab hbc ⊢
  rcases hab with hab | ⟨hab, hab' | ⟨hab', hid⟩⟩ <;>
    rcases hbc with hbc | ⟨hbc, hbc' | ⟨hbc', hid'⟩⟩
  -- with equal times the ids decide, and otherwise the times do
  case inr.inr.inr.inr =>
    exact .inr ⟨hab.trans hbc, .inr ⟨hab'.trans hbc', String.le_trans hid hid'⟩⟩
  all_goals omega

/-- Of two servers one is listed before the other. -/
theorem listedBefore_total (a b : Server) :
    (listedBefore a b || listedBefore b a) = true := by
  rw [Bool.or_eq_true, listedBefore_iff, listedBefore_iff]
  have hid := String.le_total a.id b.id
  rcases Int.lt_trichotomy a.addedAt.seconds b.addedAt.seconds with hs | hs | hs
  · exact .inl (.inl hs)
  · rcases Nat.lt_trichotomy a.addedAt.nanos b.addedAt.nanos with hn | hn | hn
    · exact .inl (.inr ⟨hs, .inl hn⟩)
    · rcases hid with hid | hid
      · exact .inl (.inr ⟨hs, .inr ⟨hn, hid⟩⟩)
      · exact .inr (.inr ⟨hs.symm, .inr ⟨hn.symm, hid⟩⟩)
    · exact .inr (.inr ⟨hs.symm, .inl hn⟩)
  · exact .inr (.inl hs)

/-! ## Leaving servers out -/

/-- A list that has `a` before everything that `a` is before has it at one
place only. -/
theorem append_cons_unique {a : Server} {before before' behind behind' : List Server}
    (h : before ++ behind = before' ++ behind')
    (hbefore : ∀ b ∈ before, listedBefore a b = false)
    (hbefore' : ∀ b ∈ before', listedBefore a b = false)
    (hbehind : ∀ b ∈ behind, listedBefore a b = true)
    (hbehind' : ∀ b ∈ behind', listedBefore a b = true) :
    before ++ a :: behind = before' ++ a :: behind' := by
  induction before generalizing before' with
  | nil =>
    cases before' with
    | nil => rw [List.nil_append, List.nil_append] at h; rw [h]
    | cons b rest =>
      -- `b` would be both behind `a` and before it
      have hb := hbehind b (by rw [← List.nil_append behind, h]; simp)
      rw [hbefore' b (List.mem_cons_self ..)] at hb
      exact absurd hb Bool.false_ne_true
  | cons b rest ih =>
    cases before' with
    | nil =>
      have hb := hbehind' b (by rw [← List.nil_append behind', ← h]; simp)
      rw [hbefore b (List.mem_cons_self ..)] at hb
      exact absurd hb Bool.false_ne_true
    | cons b' rest' =>
      obtain ⟨rfl, htail⟩ := List.cons.inj h
      rw [List.cons_append, List.cons_append,
        ih htail (fun x hx => hbefore x (List.mem_cons_of_mem _ hx))
          (fun x hx => hbefore' x (List.mem_cons_of_mem _ hx))]

/-- **Servers may be left out before or after they are sorted.** -/
theorem filter_inRegistrationOrder (p : Server → Bool) (servers : List Server) :
    (inRegistrationOrder servers).filter p = inRegistrationOrder (servers.filter p) := by
  unfold inRegistrationOrder
  induction servers with
  | nil => rw [List.filter_nil, List.mergeSort_nil, List.filter_nil]
  | cons a rest ih =>
    obtain ⟨before, behind, hsort, hrest, hbefore⟩ :=
      List.mergeSort_cons listedBefore_trans listedBefore_total a rest
    have hsorted := List.pairwise_mergeSort listedBefore_trans listedBefore_total (a :: rest)
    rw [hsort, List.pairwise_append, List.pairwise_cons] at hsorted
    rw [hrest, List.filter_append] at ih
    rw [hsort, List.filter_append]
    by_cases ha : p a = true
    · rw [List.filter_cons_of_pos ha, List.filter_cons_of_pos ha]
      obtain ⟨before', behind', hsort', hrest', hbefore'⟩ :=
        List.mergeSort_cons listedBefore_trans listedBefore_total a (rest.filter p)
      have hsorted' :=
        List.pairwise_mergeSort listedBefore_trans listedBefore_total (a :: rest.filter p)
      rw [hsort', List.pairwise_append, List.pairwise_cons] at hsorted'
      rw [hsort']
      -- both sides put `a` into the sorted rest, before the first server it is before
      refine append_cons_unique (ih.trans hrest') (fun b hb => ?_) (fun b hb => ?_)
        (fun b hb => ?_) (fun b hb => ?_)
      · simpa using hbefore b ((List.mem_filter.mp hb).1)
      · simpa using hbefore' b hb
      · exact hsorted.2.1.1 b ((List.mem_filter.mp hb).1)
      · exact hsorted'.2.1.1 b hb
    · rw [List.filter_cons_of_neg ha, List.filter_cons_of_neg ha]
      exact ih

/-! ## The active servers by themselves -/

/-- **The registry without its inactive servers.** -/
def activeOnly (r : Registry) : Registry := ⟨r.entries.filter (·.2.isActive)⟩

/-- What is listed without the inactive servers is what is listed as
active. -/
theorem all_activeOnly (r : Registry) : r.activeOnly.all = r.active := by
  have hvalues : Keyed.values r.activeOnly.entries
      = (Keyed.values r.entries).filter (·.isActive) := by
    rw [Keyed.values, Keyed.values, List.filter_map]
    rfl
  rw [all, hvalues, ← filter_inRegistrationOrder]
  rfl

/-- All servers left are active. -/
theorem active_activeOnly (r : Registry) : r.activeOnly.active = r.active := by
  rw [active, all_activeOnly, active, List.filter_filter]
  simp only [Bool.and_self]

/-! ## Look-ups in listings -/

/-- The first server that declares a name, by the listing. -/
theorem findByField_eq_ok_iff (r : Registry) (name : String) (server : Server) :
    r.findByField name = .ok server
      ↔ r.all.find? (hasSchema (·.declaresType name)) = some server := by
  rw [findByField]
  cases r.all.find? (hasSchema (·.declaresType name)) <;> simp

/-- The first active server that has a name as a type or a field, by the
listing. -/
theorem findActiveByField_eq_ok_iff (r : Registry) (name : String) (server : Server) :
    r.findActiveByField name = .ok server
      ↔ r.active.find? (hasSchema (·.declaresTypeOrField name)) = some server := by
  rw [findActiveByField]
  cases r.active.find? (hasSchema (·.declaresTypeOrField name)) <;> simp

/-- A look-up that fails says which name it was for. -/
theorem findByField_error {r : Registry} {name : String} {e : GatewayError}
    (h : r.findByField name = .error e) : e = .noServerFound name := by
  rw [findByField] at h
  split at h
  · cases h
  · exact (Except.error.inj h).symm

end GraphGateway.Registry
