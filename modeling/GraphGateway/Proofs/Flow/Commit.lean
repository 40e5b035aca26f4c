import GraphGateway.Proofs.Flow.Failure
import GraphGateway.Proofs.Flow.Together

/-!
# Flows that change the registry in their last step

An operation on a registered server looks at the registry, may ask a backend, and then
makes its change in one indivisible step, with which it ends: it succeeds where the
change is made and fails where it is not. `Flow.Commits` says this of a flow, step by
step.

So what several of them make of a registry is made by their changes alone, one after the
other in the order of the run (`Flow.Together.commits`): the changes of exactly the
flows that have succeeded so far, each on the registry that the change before it has
left. All other steps only look.
-/

namespace GraphGateway.Flow

open Time (Instant)

variable {α β : Type} {P : Event → α → Prop}

/-- **Whether a flow makes one change, which is its last step, exactly where it
succeeds**; the step and the result are such that `P`. -/
def Commits (P : Event → α → Prop) : Fallible α → Prop
  | done result => ∃ e, result = .error e
  | clock next => ∀ now, (next now).Commits P
  | atomically change next => ∀ now seen,
      change now seen = seen ∧ (next now seen).Commits P
        ∨ ∃ value, next now seen = .done (.ok value) ∧ P (.access now seen (change now seen)) value
  | send _ next => ∀ delivery, (next delivery).Commits P

/-- **An operation on the registry** is such a flow. -/
theorem commits_attempt {operation : Instant → Registry → Except GatewayError (Registry × α)}
    (h : ∀ now seen left value, operation now seen = .ok (left, value) →
      P (.access now seen left) value) :
    Commits P (attempt operation) := by
  intro now seen
  dsimp only
  cases hmade : operation now seen with
  | error e => exact .inl ⟨rfl, e, rfl⟩
  | ok made => exact .inr ⟨made.2, rfl, h now seen made.1 made.2 hmade⟩

/-- It may wait for the success of what stays away from the registry. -/
theorem IsOutside.commits_andThen {first : Fallible β} {next : β → Fallible α}
    (h : first.IsOutside) (hnext : ∀ value, Commits P (next value)) :
    Commits P (andThen first next) := by
  unfold andThen
  induction first with
  | done result =>
    cases result with
    | error e => exact ⟨e, rfl⟩
    | ok value => exact hnext value
  | clock _ ih => exact fun now => ih now (h now)
  | atomically => exact h.elim
  | send _ _ ih => exact fun delivery => ih delivery (h delivery)

/-- It may wait for what a look at the registry finds. -/
theorem commits_andThen_readRegistry {f : Registry → Except GatewayError β}
    {next : β → Fallible α} (hnext : ∀ value, Commits P (next value)) :
    Commits P (andThen (readRegistry f) next) := by
  intro now seen
  refine .inl ⟨rfl, ?_⟩
  change Commits P (andThen (.done (f seen)) next)
  exact IsOutside.commits_andThen trivial hnext

/-- **A step of such a flow** looks and leaves such a flow, or it makes the change and
nothing is left to do. -/
theorem Commits.step {flow next : Fallible α} {r left : Registry} {e : Event}
    (h : flow.Commits P) (hstep : Step flow r e next left) :
    left = r ∧ next.Commits P
      ∨ ∃ value now, next = .done (.ok value) ∧ e = .access now r left ∧ P e value := by
  cases hstep with
  | clock now => exact .inl ⟨rfl, h now⟩
  | exchange delivery => exact .inl ⟨rfl, h delivery⟩
  | access now =>
    rcases h now r with hlook | ⟨value, hvalue, hP⟩
    · exact .inl hlook
    · exact .inr ⟨value, now, hvalue, rfl, hP⟩

/-! ## Changes one after the other -/

/-- **Whether some steps lead from one registry to another**: each sees what the one before
it has left. -/
inductive Leads : Registry → List Event → Registry → Prop where
  /-- Nothing is changed. -/
  | nil (r : Registry) : Leads r [] r
  /-- A step changes the registry, and then others do. -/
  | cons {now : Instant} {seen between left : Registry} {events : List Event}
    (hrest : Leads between events left) : Leads seen (.access now seen between :: events) left

section Together

variable {ι : Type} {α : ι → Type}

/-- **Whether `changes` are what some flows have made of a registry**: the changes, in
their order, of exactly those that have succeeded. -/
structure Committed (P : ∀ i, Event → α i → Prop) (r : Registry) (trace changes : List (ι × Event))
    (ended : ∀ i, Fallible (α i)) (left : Registry) : Prop where
  /-- They are steps of the run, in its order. -/
  inTrace : changes.Sublist trace
  /-- No flow makes two. -/
  once : (changes.map Prod.fst).Nodup
  /-- Each is as it should be, and is its flow's success. -/
  succeeded : ∀ change ∈ changes,
    ∃ value, ended change.1 = .done (.ok value) ∧ P change.1 change.2 value
  /-- They lead from the one registry to the other. -/
  leads : Leads r (changes.map Prod.snd) left

variable [DecidableEq ι] {P : ∀ i, Event → α i → Prop} {flows ended : ∀ i, Fallible (α i)}
  {r left : Registry} {trace : List (ι × Event)}

/-- A flow that has ended takes no step. -/
theorem Together.eq_of_done {i : ι} {result : Except GatewayError (α i)}
    (h : Together flows r trace ended left) (hdone : flows i = .done result) :
    ended i = .done result ∧ ∀ e, (i, e) ∉ trace := by
  have htakes := h.takes i
  rw [hdone] at htakes
  generalize hrest : ended i = rest, hown : own i trace = events at htakes
  cases htakes with
  | nil => exact ⟨rfl, fun e hmem => List.not_mem_nil (hown ▸ mem_own.mpr hmem)⟩
  | cons hstep _ => cases hstep

/-- What flows make of a registry that change it in their last steps, or have succeeded
before. -/
theorem Together.exists_committed (h : Together flows r trace ended left)
    (hflows : ∀ i, (flows i).Commits (P i) ∨ ∃ value, flows i = .done (.ok value)) :
    ∃ changes, Committed P r trace changes ended left
      ∧ ∀ i value, (flows i).Commits (P i) → ended i = .done (.ok value) →
        i ∈ changes.map Prod.fst := by
  induction h with
  | nil flows r =>
    refine ⟨[], ⟨.refl _, List.nodup_nil, by simp, .nil r⟩, fun i value hcommits hdone => ?_⟩
    rw [hdone] at hcommits
    obtain ⟨e, he⟩ := hcommits
    cases he
  | @cons flows ended r between left i e next trace hstep hrest ih =>
    have hcommits : (flows i).Commits (P i) := by
      refine (hflows i).resolve_right fun ⟨value, hdone⟩ => ?_
      rw [hdone] at hstep
      cases hstep
    rcases hcommits.step hstep with ⟨rfl, hnext⟩ | ⟨value, now, rfl, rfl, hP⟩
    · -- a look: the changes are those of the rest of the run
      obtain ⟨changes, hchanges, hall⟩ := ih <| (Function.forall_update_iff flows
        fun j flow => flow.Commits (P j) ∨ ∃ value, flow = .done (.ok value)).mpr
          ⟨.inl hnext, fun j _ => hflows j⟩
      refine ⟨changes, { hchanges with inTrace := hchanges.inTrace.cons _ },
        fun j value hj hdone => hall j value ?_ hdone⟩
      rcases eq_or_ne j i with rfl | hne
      · rwa [Function.update_self]
      · rwa [Function.update_of_ne hne]
    · -- a change: its flow has succeeded and takes no further step
      obtain ⟨hdone, hnone⟩ := eq_of_done hrest (i := i) (Function.update_self ..)
      obtain ⟨changes, hchanges, hall⟩ := ih <| (Function.forall_update_iff flows
        fun j flow => flow.Commits (P j) ∨ ∃ value, flow = .done (.ok value)).mpr
          ⟨.inr ⟨value, rfl⟩, fun j _ => hflows j⟩
      have hnew : i ∉ changes.map Prod.fst := fun hmem => by
        obtain ⟨⟨_, other⟩, hother, rfl⟩ := List.mem_map.mp hmem
        exact hnone other (hchanges.inTrace.subset hother)
      refine ⟨(i, .access now r between) :: changes, ⟨hchanges.inTrace.cons_cons _,
        List.nodup_cons.mpr ⟨hnew, hchanges.once⟩,
        List.forall_mem_cons.mpr ⟨⟨value, hdone, hP⟩, hchanges.succeeded⟩,
        .cons hchanges.leads⟩, fun j other hj hother => ?_⟩
      rcases eq_or_ne j i with rfl | hne
      · exact List.mem_cons_self ..
      · exact List.mem_cons_of_mem _ (hall j other (by rwa [Function.update_of_ne hne]) hother)

/-- **What flows make of a registry that change it in their last steps** is made by the
changes of exactly those that have succeeded, one after the other. -/
theorem Together.commits (h : Together flows r trace ended left)
    (hflows : ∀ i, (flows i).Commits (P i)) :
    ∃ changes, Committed P r trace changes ended left
      ∧ ∀ i, i ∈ changes.map Prod.fst ↔ ∃ value, ended i = .done (.ok value) := by
  obtain ⟨changes, hchanges, hall⟩ := exists_committed h fun i => .inl (hflows i)
  refine ⟨changes, hchanges, fun i => ⟨fun hmem => ?_, fun ⟨value, hdone⟩ =>
    hall i value (hflows i) hdone⟩⟩
  obtain ⟨change, hchange, rfl⟩ := List.mem_map.mp hmem
  obtain ⟨value, hdone, -⟩ := hchanges.succeeded change hchange
  exact ⟨value, hdone⟩

end Together

end GraphGateway.Flow
