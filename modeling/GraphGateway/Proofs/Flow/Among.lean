import GraphGateway.Proofs.Flow.Run

/-!
# Flows among others

Other clients may act between any two steps of a flow. `Flow.Among others flow r
events result left` says that a flow can begin where the registry is `r`, take
the steps `events`, end with a result and leave the registry as `left`. The
relation `others` says what the other clients can make of a registry before the
flow comes to it again. A step that does not come to the registry does not
notice what they do, so all that they have done by then is told of the next
step that does.

The clock and the network are free: every reading of the clock and
every delivery is possible at every step. So what is proved of all such runs
holds with any backends and any clock, and also of the runs in which nobody else
acts (`among_run`).

What the others never end holds at every step of a flow that does not end it
either (`Among.sees`), and the run of two activities is a run of the first and
then one of the second (`among_bind`).
-/

namespace GraphGateway.Flow

open Time (Instant)

variable {α β : Type}

/-- **A step of a flow**, with what it brought. -/
inductive Event where
  /-- The clock was read. -/
  | tick (now : Instant)
  /-- The registry was seen, and left, in one indivisible step. -/
  | access (now : Instant) (seen left : Registry)
  /-- A request was sent, and a delivery came back. -/
  | exchange (call : Call) (delivery : Delivery)

/-- A step that looks at the registry and leaves it as it is. -/
def Event.look (now : Instant) (seen : Registry) : Event := access now seen seen

/-- **Whether a step leaves the registry as it is.** -/
def Event.IsLook : Event → Prop
  | access _ seen left => left = seen
  | _ => True

/-- Whether the registry had a property when a step saw it. -/
def Event.Sees (P : Registry → Prop) : Event → Prop
  | access _ seen _ => P seen
  | _ => True

/-- Whether a step does not end a property of the registry. -/
def Event.Keeps (P : Registry → Prop) : Event → Prop
  | access _ seen left => P seen → P left
  | _ => True

/-- What a step exchanged with a backend. -/
def Event.exchange? : Event → Option (Call × Delivery)
  | exchange call delivery => some (call, delivery)
  | _ => none

/-- What some steps exchanged with backends, in their order. -/
def exchanges (events : List Event) : List (Call × Delivery) := events.filterMap Event.exchange?

/-- What is exchanged in some steps and then in others. -/
theorem exchanges_append (first later : List Event) :
    exchanges (first ++ later) = exchanges first ++ exchanges later :=
  List.filterMap_append

/-- **The runs of a flow among others**, who can make `seen` of a registry `r`
if `others r seen`. -/
inductive Among (others : Registry → Registry → Prop) :
    Flow α → Registry → List Event → α → Registry → Prop where
  /-- Nothing was left to do. -/
  | done (result : α) (r : Registry) : Among others (.done result) r [] result r
  /-- The clock was read. -/
  | clock {next : Instant → Flow α} {r left : Registry} {events : List Event} {result : α}
    (now : Instant) (rest : Among others (next now) r events result left) :
    Among others (.clock next) r (.tick now :: events) result left
  /-- The registry was changed, after what the others had made of it. -/
  | access {change : Instant → Registry → Registry} {next : Instant → Registry → Flow α}
    {r left : Registry} {events : List Event} {result : α} (now : Instant) (seen : Registry)
    (hseen : others r seen)
    (rest : Among others (next now seen) (change now seen) events result left) :
    Among others (.atomically change next) r (.access now seen (change now seen) :: events) result
      left
  /-- A request was answered. -/
  | exchange {call : Call} {next : Delivery → Flow α} {r left : Registry} {events : List Event}
    {result : α} (delivery : Delivery) (rest : Among others (next delivery) r events result left) :
    Among others (.send call next) r (.exchange call delivery :: events) result left

variable {others : Registry → Registry → Prop} {r left : Registry} {events : List Event}

/-! ## Runs of composed flows -/

/-- A flow with nothing left to do takes no steps. -/
theorem among_done {result value : α} :
    Among others (.done value) r events result left ↔ events = [] ∧ result = value ∧ left = r := by
  constructor
  · intro h
    cases h
    exact ⟨rfl, rfl, rfl⟩
  · rintro ⟨rfl, rfl, rfl⟩
    exact .done ..

/-- **A run of two activities** is a run of the first and then one of the second. -/
theorem among_bind {f : Flow α} {g : α → Flow β} {result : β} :
    Among others (f.bind g) r events result left
      ↔ ∃ first value between rest, events = first ++ rest
        ∧ Among others f r first value between
        ∧ Among others (g value) between rest result left := by
  constructor
  · intro h
    induction f generalizing r events with
    | done value => exact ⟨[], value, r, events, rfl, .done .., h⟩
    | clock next ih =>
      cases h with
      | clock now h =>
        obtain ⟨first, value, between, rest, rfl, hfirst, hrest⟩ := ih now h
        exact ⟨_ :: first, value, between, rest, rfl, .clock now hfirst, hrest⟩
    | atomically change next ih =>
      cases h with
      | access now seen hseen h =>
        obtain ⟨first, value, between, rest, rfl, hfirst, hrest⟩ := ih now seen h
        exact ⟨_ :: first, value, between, rest, rfl, .access now seen hseen hfirst, hrest⟩
    | send call next ih =>
      cases h with
      | exchange delivery h =>
        obtain ⟨first, value, between, rest, rfl, hfirst, hrest⟩ := ih delivery h
        exact ⟨_ :: first, value, between, rest, rfl, .exchange delivery hfirst, hrest⟩
  · rintro ⟨first, value, between, rest, rfl, hfirst, hrest⟩
    induction hfirst with
    | done => exact hrest
    | clock now _ ih => exact .clock now (ih hrest)
    | access now seen hseen _ ih => exact .access now seen hseen (ih hrest)
    | exchange delivery _ ih => exact .exchange delivery (ih hrest)

/-- A run of two activities, the second of which needs the first to succeed, ends
with the error of the first or goes on with its result. -/
theorem among_andThen {first : Fallible α} {next : α → Fallible β}
    {result : Except GatewayError β} :
    Among others (andThen first next) r events result left
      ↔ (∃ e, result = .error e ∧ Among others first r events (.error e) left)
        ∨ ∃ before value between rest, events = before ++ rest
          ∧ Among others first r before (.ok value) between
          ∧ Among others (next value) between rest result left := by
  unfold andThen
  rw [among_bind]
  constructor
  · rintro ⟨before, value | value, between, rest, rfl, hfirst, hrest⟩
    · obtain ⟨rfl, rfl, rfl⟩ := among_done.mp hrest
      exact .inl ⟨value, rfl, by rwa [List.append_nil]⟩
    · exact .inr ⟨before, value, between, rest, rfl, hfirst, hrest⟩
  · rintro (⟨e, rfl, hfirst⟩ | ⟨before, value, between, rest, rfl, hfirst, hrest⟩)
    · exact ⟨events, .error e, left, [], (List.append_nil _).symm, hfirst, .done ..⟩
    · exact ⟨before, .ok value, between, rest, rfl, hfirst, hrest⟩

/-- A result that is only worked on takes no further steps. -/
theorem among_bind_done {f : Flow α} {g : α → β} {result : β} :
    Among others (f.bind fun value => .done (g value)) r events result left
      ↔ ∃ value, Among others f r events value left ∧ result = g value := by
  rw [among_bind]
  constructor
  · rintro ⟨first, value, between, rest, rfl, hfirst, hrest⟩
    obtain ⟨rfl, rfl, rfl⟩ := among_done.mp hrest
    exact ⟨value, by rwa [List.append_nil], rfl⟩
  · rintro ⟨value, hfirst, rfl⟩
    exact ⟨events, value, left, [], (List.append_nil _).symm, hfirst, .done ..⟩

/-- A success that is only worked on takes no further steps. -/
theorem among_andThen_done {first : Fallible α} {g : α → Except GatewayError β}
    {result : Except GatewayError β} :
    Among others (andThen first fun value => .done (g value)) r events result left
      ↔ ∃ value, Among others first r events value left ∧ result = value.bind g := by
  have hbind : andThen first (fun value => .done (g value))
      = first.bind fun value => .done (value.bind g) := by
    unfold andThen
    congr 1
    funext value
    cases value <;> rfl
  rw [hbind]
  exact among_bind_done

/-- **A look at the registry** sees what the others have made of it. -/
theorem among_readRegistry {f : Registry → α} {result : α} :
    Among others (readRegistry f) r events result left
      ↔ ∃ now, others r left ∧ events = [.look now left] ∧ result = f left := by
  constructor
  · intro h
    cases h with
    | access now seen hseen h =>
      obtain ⟨rfl, rfl, rfl⟩ := among_done.mp h
      exact ⟨now, hseen, rfl, rfl⟩
  · rintro ⟨now, hseen, rfl, rfl⟩
    exact .access now left hseen (.done ..)

/-- **An operation on the registry** works on what the others have made of it, and
leaves it as it is where it fails. -/
theorem among_attempt {operation : Instant → Registry → Except GatewayError (Registry × α)}
    {result : Except GatewayError α} :
    Among others (attempt operation) r events result left
      ↔ ∃ now seen, others r seen ∧ events = [.access now seen left]
        ∧ ((∃ e, operation now seen = .error e ∧ left = seen ∧ result = .error e)
          ∨ ∃ value, operation now seen = .ok (left, value) ∧ result = .ok value) := by
  constructor
  · intro h
    cases h with
    | access now seen hseen hrest =>
      obtain ⟨rfl, rfl, rfl⟩ := among_done.mp hrest
      refine ⟨now, seen, hseen, rfl, ?_⟩
      dsimp only
      cases operation now seen with
      | error e => exact .inl ⟨e, rfl, rfl, rfl⟩
      | ok pair => exact .inr ⟨pair.2, rfl, rfl⟩
  · rintro ⟨now, seen, hseen, rfl, hmade⟩
    have hstep : Among others (attempt operation) r _ _ _ := .access now seen hseen (.done ..)
    rcases hmade with ⟨e, he, rfl, rfl⟩ | ⟨value, hvalue, rfl⟩
    · rwa [he] at hstep
    · rwa [hvalue] at hstep

/-! ## What holds along a run -/

/-- A step that leaves the registry as it is ends nothing. -/
theorem Event.IsLook.keeps {e : Event} (h : e.IsLook) (P : Registry → Prop) : e.Keeps P := by
  cases e with
  | access now seen left =>
    intro hseen
    rwa [show left = seen from h]
  | _ => trivial

/-- **What the others never end is there at every step** of a flow whose own steps
do not end it. -/
theorem Among.sees {P : Registry → Prop} {flow : Flow α} {result : α}
    (h : Among others flow r events result left) (hothers : ∀ a b, others a b → P a → P b)
    (hown : ∀ e ∈ events, e.Keeps P) (hr : P r) : ∀ e ∈ events, e.Sees P := by
  induction h with
  | done => exact fun e he => absurd he List.not_mem_nil
  | clock now _ ih =>
    rw [List.forall_mem_cons] at hown ⊢
    exact ⟨trivial, ih hown.2 hr⟩
  | access now seen hseen _ ih =>
    have hsees := hothers _ _ hseen hr
    rw [List.forall_mem_cons] at hown ⊢
    exact ⟨hsees, ih hown.2 (hown.1 hsees)⟩
  | exchange delivery _ ih =>
    rw [List.forall_mem_cons] at hown ⊢
    exact ⟨trivial, ih hown.2 hr⟩

/-! ## Runs in which nobody else acts -/

/-- **A run by itself is a run among others** who may as well do nothing. -/
theorem among_run (others : Registry → Registry → Prop) (hidle : ∀ r, others r r) (world : World)
    (flow : Flow α) (s : Run) :
    ∃ events, Among others flow s.registry events (flow.run world s).1
        (flow.run world s).2.registry
      ∧ (flow.run world s).2.calls = ((exchanges events).map Prod.fst).reverse ++ s.calls := by
  induction flow generalizing s with
  | done result => exact ⟨[], .done .., rfl⟩
  | clock next ih =>
    obtain ⟨events, h, hcalls⟩ := ih (world.clock s.ticks) { s with ticks := s.ticks + 1 }
    exact ⟨_, .clock _ h, hcalls⟩
  | atomically change next ih =>
    obtain ⟨events, h, hcalls⟩ := ih (world.clock s.ticks) s.registry
      { s with registry := change (world.clock s.ticks) s.registry, ticks := s.ticks + 1 }
    exact ⟨_, .access _ _ (hidle _) h, hcalls⟩
  | send call next ih =>
    obtain ⟨events, h, hcalls⟩ :=
      ih (world.network s.calls call) { s with calls := call :: s.calls }
    refine ⟨_, .exchange _ h, hcalls.trans ?_⟩
    simp [exchanges, Event.exchange?]

end GraphGateway.Flow
