import Mathlib.Logic.Function.Basic

/-!
# Clients that take their steps in turn

Several clients share one state, and each of them is cut into indivisible steps.
`Interleaved` tells the runs in which they take their steps in any order: a run
is a list of steps with the client that took each of them, and a client may be
left with steps still to do. So every beginning of a run is a run.

What one client did is read off the run by `own`, and these are steps that it takes by
itself (`Interleaved.taken`). A run is cut anywhere into a run and a later one
(`interleaved_append`). `turns` takes the steps that a schedule names and is one way to
get such runs (`interleaved_turns`).
-/

namespace GraphGateway

variable {ι : Type} [DecidableEq ι] {C : ι → Type} {S E W : Type}

/-- **The runs of some clients on one state**, where `Step i c s e c' s'` says that
client `i` takes the step `e` from `c` to `c'` and changes the state from `s` to
`s'`. -/
inductive Interleaved (Step : ∀ i, C i → S → E → C i → S → Prop) :
    (∀ i, C i) → S → List (ι × E) → (∀ i, C i) → S → Prop where
  /-- No step was taken. -/
  | nil (clients : ∀ i, C i) (s : S) : Interleaved Step clients s [] clients s
  /-- One of them took a step, and the run went on. -/
  | cons {clients ended : ∀ i, C i} {s between left : S} {i : ι} {e : E} {next : C i}
    {trace : List (ι × E)} (hstep : Step i (clients i) s e next between)
    (hrest : Interleaved Step (Function.update clients i next) between trace ended left) :
    Interleaved Step clients s ((i, e) :: trace) ended left

/-- **The steps that one client took**, in their order. -/
def own (i : ι) (trace : List (ι × E)) : List E :=
  trace.filterMap fun step => if step.1 = i then some step.2 else none

/-- A client's own step is the first of its steps. -/
@[simp] theorem own_cons_self (i : ι) (e : E) (trace : List (ι × E)) :
    own i ((i, e) :: trace) = e :: own i trace := by
  simp [own]

/-- Another client's step is none of its steps. -/
theorem own_cons_of_ne {i j : ι} (h : j ≠ i) (e : E) (trace : List (ι × E)) :
    own i ((j, e) :: trace) = own i trace := by
  simp [own, h]

/-- What a client did in one run and then in another. -/
theorem own_append (i : ι) (first later : List (ι × E)) :
    own i (first ++ later) = own i first ++ own i later :=
  List.filterMap_append

/-- The steps of a client are those with its name. -/
theorem mem_own {i : ι} {e : E} {trace : List (ι × E)} : e ∈ own i trace ↔ (i, e) ∈ trace := by
  simp only [own, List.mem_filterMap, Option.ite_none_right_eq_some, Option.some.injEq]
  constructor
  · rintro ⟨⟨j, e'⟩, hmem, rfl, rfl⟩
    exact hmem
  · exact fun hmem => ⟨(i, e), hmem, rfl, rfl⟩

/-- A run in which nobody took a step is none. -/
theorem eq_nil_of_own {trace : List (ι × E)} (h : ∀ i, own i trace = []) : trace = [] :=
  List.eq_nil_iff_forall_not_mem.mpr fun step hstep =>
    List.not_mem_nil (h step.1 ▸ mem_own.mpr hstep)

omit [DecidableEq ι] in
/-- **Of two steps of different clients one is before the other.** -/
theorem append_cons_cases {i j : ι} (hij : i ≠ j) {a b : E}
    {before behind before' behind' : List (ι × E)}
    (h : before ++ (i, a) :: behind = before' ++ (j, b) :: behind') :
    (∃ between, before' = before ++ (i, a) :: between ∧ behind = between ++ (j, b) :: behind')
      ∨ ∃ between, before = before' ++ (j, b) :: between
        ∧ behind' = between ++ (i, a) :: behind := by
  rcases List.append_eq_append_iff.mp h with ⟨more, rfl, hmore⟩ | ⟨more, rfl, hmore⟩
  · rcases more with _ | ⟨step, between⟩
    · exact absurd (congrArg Prod.fst (List.cons.inj hmore).1) hij
    · obtain ⟨rfl, rfl⟩ := List.cons.inj hmore
      exact .inl ⟨between, rfl, rfl⟩
  · rcases more with _ | ⟨step, between⟩
    · exact absurd (congrArg Prod.fst (List.cons.inj hmore).1).symm hij
    · obtain ⟨rfl, rfl⟩ := List.cons.inj hmore
      exact .inr ⟨between, rfl, rfl⟩

/-- **Whether a client's step of one kind was taken before another's of another kind.** -/
def Earlier (trace : List (ι × E)) (i : ι) (P : E → Prop) (j : ι) (Q : E → Prop) : Prop :=
  ∃ first later, trace = first ++ later ∧ (∃ a, (i, a) ∈ first ∧ P a) ∧ ∃ b, (j, b) ∈ later ∧ Q b

omit [DecidableEq ι] in
/-- Where a run has no step of the one kind before a point, and none of the other behind it,
the one is not earlier than the other. -/
theorem not_earlier {i j : ι} {P Q : E → Prop} {before behind : List (ι × E)}
    (hbefore : ∀ a, (i, a) ∈ before → ¬ P a) (hbehind : ∀ b, (j, b) ∈ behind → ¬ Q b) :
    ¬ Earlier (before ++ behind) i P j Q := by
  rintro ⟨first, later, htrace, ⟨a, ha, hPa⟩, b, hb, hQb⟩
  rcases List.append_eq_append_iff.mp htrace with ⟨more, -, rfl⟩ | ⟨more, rfl, -⟩
  · exact hbehind b (List.mem_append_right _ hb) hQb
  · exact hbefore a (List.mem_append_left _ ha) hPa

variable {Step : ∀ i, C i → S → E → C i → S → Prop} {clients ended : ∀ i, C i} {s left : S}

/-- **A run is cut anywhere** into a run and a later one. -/
theorem interleaved_append {first later : List (ι × E)} :
    Interleaved Step clients s (first ++ later) ended left
      ↔ ∃ mid between, Interleaved Step clients s first mid between
        ∧ Interleaved Step mid between later ended left := by
  constructor
  · intro h
    induction first generalizing clients s with
    | nil => exact ⟨clients, s, .nil .., h⟩
    | cons step first ih =>
      cases h with
      | cons hstep hrest =>
        obtain ⟨mid, between, hfirst, hlater⟩ := ih hrest
        exact ⟨mid, between, .cons hstep hfirst, hlater⟩
  · rintro ⟨mid, between, hfirst, hlater⟩
    induction hfirst with
    | nil => exact hlater
    | cons hstep _ ih => exact .cons hstep (ih hlater)

/-- **What no step ends holds at the end** if it holds at the start. -/
theorem Interleaved.keeps {P : S → Prop} {trace : List (ι × E)}
    (h : Interleaved Step clients s trace ended left)
    (hstep : ∀ i c s e c' s', (i, e) ∈ trace → Step i c s e c' s' → P s → P s') (hs : P s) :
    P left := by
  induction h with
  | nil => exact hs
  | cons hfirst _ ih =>
    exact ih (fun i c s e c' s' hmem => hstep i c s e c' s' (List.mem_cons_of_mem _ hmem))
      (hstep _ _ _ _ _ _ (List.mem_cons_self ..) hfirst hs)

/-- **A step that tells the states around it cuts a run** into one that ends with the state
before it and one that begins with the state behind it. -/
theorem Interleaved.cut {i : ι} {e : E} {seen seen' : S} {before behind : List (ι × E)}
    (h : Interleaved Step clients s (before ++ (i, e) :: behind) ended left)
    (he : ∀ c r c' r', Step i c r e c' r' → r = seen ∧ r' = seen') :
    ∃ mid next, Interleaved Step clients s before mid seen
      ∧ Interleaved Step next seen' behind ended left := by
  obtain ⟨mid, between, hbefore, hbehind⟩ := interleaved_append.mp h
  cases hbehind with
  | cons hstep hrest =>
    obtain ⟨rfl, rfl⟩ := he _ _ _ _ hstep
    exact ⟨mid, _, hbefore, hrest⟩

/-! ## One client -/

/-- **The steps of one client**, whatever the state is at each of them. -/
inductive Taken {C : Type} (Step : C → S → E → C → S → Prop) : C → List E → C → Prop where
  /-- No step was taken. -/
  | nil (c : C) : Taken Step c [] c
  /-- A step was taken, and then others. -/
  | cons {c next rest : C} {s left : S} {e : E} {events : List E} (hstep : Step c s e next left)
    (hrest : Taken Step next events rest) : Taken Step c (e :: events) rest

/-- Steps may be followed by others. -/
theorem Taken.trans {C : Type} {Step : C → S → E → C → S → Prop} {c mid rest : C}
    {events later : List E} (h : Taken Step c events mid) (hlater : Taken Step mid later rest) :
    Taken Step c (events ++ later) rest := by
  induction h with
  | nil => exact hlater
  | cons hstep _ ih => exact .cons hstep (ih hlater)

/-- **What each of several clients did** are steps of its own. -/
theorem Interleaved.taken {trace : List (ι × E)} (h : Interleaved Step clients s trace ended left)
    (i : ι) : Taken (Step i) (clients i) (own i trace) (ended i) := by
  induction h with
  | nil => exact .nil _
  | @cons clients ended s between left j e next trace hstep _ ih =>
    by_cases hij : j = i
    · subst hij
      rw [Function.update_self] at ih
      rw [own_cons_self]
      exact .cons hstep ih
    · rw [Function.update_of_ne (Ne.symm hij)] at ih
      rw [own_cons_of_ne hij]
      exact ih

/-- **Where a client's own step stands in a run**: with its own earlier steps before it, and
its own later ones behind. -/
theorem exists_append_of_own {i : ι} {e : E} {trace : List (ι × E)} {first later : List E}
    (h : own i trace = first ++ e :: later) :
    ∃ before behind, trace = before ++ (i, e) :: behind ∧ own i before = first
      ∧ own i behind = later := by
  obtain ⟨before, rest, rfl, hbefore, hrest⟩ := List.filterMap_eq_append_iff.mp h
  obtain ⟨between, ⟨j, e'⟩, behind, rfl, hbetween, hstep, hbehind⟩ :=
    List.filterMap_eq_cons_iff.mp hrest
  obtain ⟨rfl, rfl⟩ : j = i ∧ e' = e := by simpa using hstep
  refine ⟨before ++ between, behind, (List.append_assoc ..).symm, ?_, hbehind⟩
  rw [own_append, show own j between = [] from List.filterMap_eq_nil_iff.mpr hbetween,
    List.append_nil]
  exact hbefore

/-! ## Schedules -/

/-- **Takes the steps that a schedule names**, where `next` takes one step of a
client in a world. A client that has none left is passed over. -/
def turns (next : ∀ i, C i → W → Option (E × C i × W)) :
    List ι → (∀ i, C i) → W → List (ι × E) × (∀ i, C i) × W
  | [], clients, w => ([], clients, w)
  | i :: schedule, clients, w =>
    match next i (clients i) w with
    | some (e, c, w) =>
      let (trace, rest) := turns next schedule (Function.update clients i c) w
      ((i, e) :: trace, rest)
    | none => turns next schedule clients w

/-- What is done by a schedule is done by taking one step. -/
theorem exists_next_of_mem_turns (next : ∀ i, C i → W → Option (E × C i × W)) {schedule : List ι}
    {clients : ∀ i, C i} {w : W} {i : ι} {e : E} (h : (i, e) ∈ (turns next schedule clients w).1) :
    ∃ c w c' w', next i c w = some (e, c', w') := by
  induction schedule generalizing clients w with
  | nil => exact absurd h List.not_mem_nil
  | cons j schedule ih =>
    rw [turns] at h
    split at h
    · next e' c' w' hnext =>
      rcases List.mem_cons.mp h with hfirst | hrest
      · cases hfirst
        exact ⟨_, _, _, _, hnext⟩
      · exact ih hrest
    · exact ih h

/-- **What is done by a schedule is a run**, where the world shows the state. -/
theorem interleaved_turns (next : ∀ i, C i → W → Option (E × C i × W)) (view : W → S)
    (hnext : ∀ i c w e c' w', next i c w = some (e, c', w') → Step i c (view w) e c' (view w'))
    (schedule : List ι) (clients : ∀ i, C i) (w : W) :
    let run := turns next schedule clients w
    Interleaved Step clients (view w) run.1 run.2.1 (view run.2.2) := by
  induction schedule generalizing clients w with
  | nil => exact .nil ..
  | cons i schedule ih =>
    rw [turns]
    cases hstep : next i (clients i) w with
    | none => exact ih clients w
    | some taken => exact .cons (hnext _ _ _ _ _ _ hstep) (ih _ _)

end GraphGateway
