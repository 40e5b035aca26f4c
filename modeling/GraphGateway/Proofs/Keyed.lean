import GraphGateway.Keyed

/-!
# Sorted maps

The keys of a map strictly increase (`Sorted`), and putting in and taking out
keep them so. A map that is built from its own entries is itself
(`ofList_eq_self`), and so is one that is built from them in another order
(`ofList_eq_of_perm`), which is why a map that is written entry by entry can be
read back.
-/

namespace GraphGateway.Keyed

variable {α : Type}

/-- **Whether the keys strictly increase.** -/
def Sorted (entries : List (String × α)) : Prop := entries.Pairwise fun a b => a.1 < b.1

/-- What is looked up is the first entry, if it has the key, or is looked up in the
rest. -/
theorem lookup_cons_eq {κ β : Type} [BEq κ] [LawfulBEq κ] [DecidableEq κ] (key : κ)
    (first : κ × β) (rest : List (κ × β)) :
    (first :: rest).lookup key = if key = first.1 then some first.2 else rest.lookup key := by
  rw [List.lookup_cons]
  by_cases h : key = first.1
  · rw [if_pos h, beq_iff_eq.mpr h]
  · rw [if_neg h, beq_eq_false_iff_ne.mpr h]

/-- What is looked up under a key is in the map under that key. -/
theorem mem_of_lookup {key : String} {value : α} {entries : List (String × α)}
    (h : entries.lookup key = some value) : (key, value) ∈ entries := by
  obtain ⟨before, after, rfl, -⟩ := List.lookup_eq_some_iff.mp h
  exact List.mem_append_right _ (List.mem_cons_self ..)

/-- The keys of a sorted map are distinct. -/
theorem Sorted.nodup_keys {entries : List (String × α)} (h : Sorted entries) :
    (entries.map Prod.fst).Nodup :=
  List.pairwise_map.mpr (h.imp fun hlt => String.ne_of_lt hlt)

/-- **Where the keys are distinct**, everything in a map is looked up under its
key. -/
theorem lookup_eq_some_iff {key : String} {value : α} {entries : List (String × α)}
    (h : (entries.map Prod.fst).Nodup) :
    entries.lookup key = some value ↔ (key, value) ∈ entries := by
  refine ⟨mem_of_lookup, fun hmem => ?_⟩
  obtain ⟨before, after, rfl⟩ := List.append_of_mem hmem
  rw [List.map_append, List.map_cons, List.nodup_append] at h
  refine List.lookup_eq_some_iff.mpr ⟨before, after, rfl, fun entry hentry => ?_⟩
  simpa using (h.2.2 entry.1 (List.mem_map_of_mem hentry) key (List.mem_cons_self ..)).symm

/-- What is looked up does not depend on the order of the entries. -/
theorem lookup_perm {key : String} {entries shuffled : List (String × α)}
    (h : (entries.map Prod.fst).Nodup) (hperm : shuffled.Perm entries) :
    shuffled.lookup key = entries.lookup key := by
  have hshuffled : (shuffled.map Prod.fst).Nodup := (hperm.map Prod.fst).nodup_iff.mpr h
  ext value
  rw [lookup_eq_some_iff h, lookup_eq_some_iff hshuffled, hperm.mem_iff]

/-- What is in a map behind an insertion was put in or was there before. -/
theorem mem_insert {key : String} {value : α} {entries : List (String × α)}
    {entry : String × α} (h : entry ∈ insert key value entries) :
    entry = (key, value) ∨ entry ∈ entries := by
  induction entries with
  | nil => exact .inl (List.mem_singleton.mp h)
  | cons first rest ih =>
    rw [insert] at h
    split at h
    · rcases List.mem_cons.mp h with h | h
      · exact .inl h
      · exact .inr (List.mem_cons_of_mem _ h)
    · split at h
      · rcases List.mem_cons.mp h with h | h
        · exact .inl h
        · exact .inr h
      · rcases List.mem_cons.mp h with h | h
        · exact .inr (h ▸ List.mem_cons_self ..)
        · exact (ih h).imp id (List.mem_cons_of_mem _)

/-- **What is looked up behind an insertion**: the new value under its key, and what
was there before under any other. -/
theorem lookup_insert (key other : String) (value : α) (entries : List (String × α)) :
    (insert key value entries).lookup other
      = if other = key then some value else entries.lookup other := by
  induction entries with
  | nil => rw [insert, lookup_cons_eq]
  | cons first rest ih =>
    rw [insert]
    split
    · next heq =>
      obtain rfl : first.1 = key := by simpa using heq
      by_cases hother : other = first.1 <;> simp only [lookup_cons_eq, hother, if_true, if_false]
    · next hne =>
      have hne : first.1 ≠ key := by simpa using hne
      split
      · rw [lookup_cons_eq]
      · rw [lookup_cons_eq, ih, lookup_cons_eq]
        by_cases hfirst : other = first.1
        · rw [if_pos hfirst, if_pos hfirst, if_neg (hfirst ▸ hne)]
        · rw [if_neg hfirst, if_neg hfirst]

/-- **Putting in under a key that is not there** adds the entry and keeps all others. -/
theorem insert_perm {key : String} {value : α} {entries : List (String × α)}
    (h : key ∉ entries.map Prod.fst) :
    (insert key value entries).Perm ((key, value) :: entries) := by
  induction entries with
  | nil => exact .refl _
  | cons first rest ih =>
    rw [List.map_cons, List.mem_cons, not_or] at h
    rw [insert, if_neg (by simpa using Ne.symm h.1)]
    split
    · exact .refl _
    · exact ((ih h.2).cons first).trans (.swap ..)

/-- A key that is not there is looked up in vain. -/
theorem notMem_keys_of_lookup {key : String} {entries : List (String × α)}
    (h : entries.lookup key = none) : key ∉ entries.map Prod.fst := by
  intro hmem
  obtain ⟨entry, hentry, rfl⟩ := List.mem_map.mp hmem
  simpa using List.lookup_eq_none_iff.mp h entry hentry

/-- Putting in under a key that is not there adds the value and keeps all others. -/
theorem values_insert_perm {key : String} {value : α} {entries : List (String × α)}
    (h : entries.lookup key = none) :
    (values (insert key value entries)).Perm (value :: values entries) :=
  (insert_perm (notMem_keys_of_lookup h)).map Prod.snd

/-- The one pair that is new behind an insertion is the one that was put in. -/
theorem find?_insert {key : String} {value : α} {entries : List (String × α)}
    {p : String × α → Bool} (hnew : p (key, value) = true)
    (hold : ∀ entry ∈ entries, p entry = false) :
    (insert key value entries).find? p = some (key, value) := by
  induction entries with
  | nil => exact List.find?_cons_of_pos hnew
  | cons first rest ih =>
    obtain ⟨hfirst, hrest⟩ := List.forall_mem_cons.mp hold
    rw [insert]
    split
    · exact List.find?_cons_of_pos hnew
    · split
      · exact List.find?_cons_of_pos hnew
      · rw [List.find?_cons_of_neg (by simp [hfirst]), ih hrest]

/-- **Putting in keeps the order.** -/
theorem sorted_insert {key : String} {value : α} {entries : List (String × α)}
    (h : Sorted entries) : Sorted (insert key value entries) := by
  induction entries with
  | nil => exact List.pairwise_singleton _ _
  | cons first rest ih =>
    obtain ⟨hfirst, hrest⟩ := List.pairwise_cons.mp h
    rw [insert]
    split
    · next heq =>
      have heq : first.1 = key := by simpa using heq
      exact List.pairwise_cons.mpr ⟨fun entry hentry => heq ▸ hfirst entry hentry, hrest⟩
    · split
      · next hlt =>
        refine List.pairwise_cons.mpr ⟨fun entry hentry => ?_, h⟩
        rcases List.mem_cons.mp hentry with rfl | hentry
        · exact hlt
        · exact String.lt_trans hlt (hfirst entry hentry)
      · next hne hle =>
        have hlt : first.1 < key := by
          refine String.not_le.mp fun hge => hne ?_
          exact beq_iff_eq.mpr (String.le_antisymm (String.not_lt.mp hle) hge)
        -- an entry of the changed rest is the new one or an old one
        refine List.pairwise_cons.mpr ⟨fun entry hentry => ?_, ih hrest⟩
        rcases mem_insert hentry with rfl | hentry
        · exact hlt
        · exact hfirst entry hentry

/-- **Taking out keeps the order.** -/
theorem sorted_erase {key : String} {entries : List (String × α)} (h : Sorted entries) :
    Sorted (erase key entries) :=
  List.Pairwise.filter _ h

/-- What is looked up behind a removal under another key was there before. -/
theorem lookup_erase_of_ne {key other : String} (h : other ≠ key) (entries : List (String × α)) :
    (erase key entries).lookup other = entries.lookup other := by
  induction entries with
  | nil => rfl
  | cons first rest ih =>
    rw [erase] at ih ⊢
    rw [List.filter_cons]
    split
    · rw [lookup_cons_eq, lookup_cons_eq, ih]
    · next hfirst =>
      have hkey : first.1 = key := by simpa using hfirst
      rw [lookup_cons_eq, if_neg (by rwa [hkey]), ih]

/-- **A map of pairs with distinct keys** has these pairs. -/
theorem ofList_perm {entries : List (String × α)} (h : (entries.map Prod.fst).Nodup) :
    (ofList entries).Perm entries := by
  -- the fold has put in `before`, and the other keys are none of these
  suffices hfold : ∀ after before : List (String × α), ((before ++ after).map Prod.fst).Nodup →
      (after.foldl (fun map entry => insert entry.1 entry.2 map) before).Perm
        (before ++ after) from hfold entries [] h
  intro after
  induction after with
  | nil => exact fun before _ => .of_eq (List.append_nil before).symm
  | cons entry after ih =>
    intro before hnodup
    have hfresh : entry.1 ∉ before.map Prod.fst := by
      rw [List.map_append, List.map_cons, List.nodup_append] at hnodup
      exact fun hmem => hnodup.2.2 _ hmem _ (List.mem_cons_self ..) rfl
    have hperm : (insert entry.1 entry.2 before ++ after).Perm (before ++ entry :: after) :=
      ((insert_perm hfresh).append_right after).trans List.perm_middle.symm
    exact (ih _ (((hperm.map Prod.fst).nodup_iff).mpr hnodup)).trans hperm

/-- The map of some pairs is sorted. -/
theorem sorted_ofList (entries : List (String × α)) : Sorted (ofList entries) := by
  suffices hfold : ∀ map : List (String × α), Sorted map →
      Sorted (entries.foldl (fun map entry => insert entry.1 entry.2 map) map) from hfold [] .nil
  induction entries with
  | nil => exact fun _ h => h
  | cons entry rest ih => exact fun map h => ih _ (sorted_insert h)

/-- **The map of its own entries in another order is the map.** -/
theorem ofList_eq_of_perm {entries shuffled : List (String × α)} (h : Sorted entries)
    (hperm : shuffled.Perm entries) : ofList shuffled = entries := by
  have hkeys : (shuffled.map Prod.fst).Nodup :=
    ((hperm.map Prod.fst).nodup_iff).mpr h.nodup_keys
  exact ((ofList_perm hkeys).trans hperm).eq_of_pairwise
    (fun _ _ _ _ hlt hgt => absurd hgt (String.lt_asymm hlt)) (sorted_ofList shuffled) h

/-- **The map of its own entries is the map.** -/
theorem ofList_eq_self {entries : List (String × α)} (h : Sorted entries) :
    ofList entries = entries :=
  ofList_eq_of_perm h (.refl entries)

/-- **Of pairs with one key the last counts.** -/
theorem lookup_ofList (key : String) (entries : List (String × α)) :
    (ofList entries).lookup key = ((entries.filter (·.1 == key)).map Prod.snd).getLast? := by
  suffices hfold : ∀ map : List (String × α),
      (entries.foldl (fun map entry => insert entry.1 entry.2 map) map).lookup key
        = ((entries.filter (·.1 == key)).map Prod.snd).getLast?.or (map.lookup key) from
    (hfold []).trans (Option.or_none ..)
  induction entries with
  | nil => exact fun map => rfl
  | cons entry rest ih =>
    intro map
    rw [List.foldl_cons, ih, lookup_insert, List.filter_cons]
    by_cases h : key = entry.1
    · rw [if_pos h, if_pos (beq_iff_eq.mpr h.symm), List.map_cons, List.getLast?_cons]
      cases ((rest.filter (·.1 == key)).map Prod.snd).getLast? <;> rfl
    · rw [if_neg h, if_neg (by simpa using Ne.symm h)]

end GraphGateway.Keyed
