import GraphGateway.Http.Front
import GraphGateway.Proofs.Registry.Arrival
import GraphGateway.Proofs.Registry.Operation
import GraphGateway.Proofs.Routing.Stability
import GraphGateway.Registry.Storage

/-!
# The health of the gateway while others act

Whoever asks for the health of the gateway is told two numbers, how many servers there
are and how many of them are active. Each number is right, but they are from two looks
at the registry, and others may act between the looks. So the numbers need not fit
together: a server that is registered between the looks is among the active ones and not
among all (`Http.not_active_le_total`).

What can be said is that the servers that are active at the second look are among all
servers then, and that these are no more than at the first look but for those
that have been added (`Http.tellsHealth_together`). Only an import brings servers in any
other way.
-/

namespace GraphGateway

open GraphGateway.Flow (Event Takes Together)
open Time (Instant)

/-! ## How many servers there are -/

/-- **Whether a step leaves no more servers than it saw and added.** -/
def Flow.Event.CountsArrivals : Event → Prop
  | access now seen left =>
    seen.IsMap → left.count ≤ seen.count + (access now seen left).added?.toList.length
  | _ => True

namespace Registry

variable {e : Event} {op : Operation} {server : Server}

/-- What an operation makes keeps a registry a map. -/
theorem Operation.Makes.keeps_isMap (h : op.Makes e server) : e.Keeps IsMap := by
  cases op with
  | insert request schema => exact h.1.keeps fun _ _ hleft hmap => hmap.register hleft
  | register i request => exact h.1.keeps fun _ _ hleft hmap => hmap.register hleft
  | write w =>
    obtain ⟨edit, -, seen, left, rfl, hupdate⟩ := h
    exact fun hmap => hmap.update hupdate
  | remove id =>
    cases e with
    | access now seen left => exact fun hmap => hmap.remove h
    | _ => exact h.elim

/-- A look leaves the servers that it saw. -/
theorem countsArrivals_of_isLook (h : e.IsLook) : e.CountsArrivals := by
  cases e with
  | access now seen left =>
    intro _
    rw [show left = seen from h]
    exact Nat.le_add_right ..
  | _ => trivial

/-- An addition leaves one server more. -/
theorem countsArrivals_of_adds (h : e.Adds server) : e.CountsArrivals := by
  cases e with
  | access now seen left =>
    intro _
    rw [h.added?, count_eq, count_eq, (all_of_register h).length_eq]
    exact Nat.le_refl _
  | _ => exact h.elim

/-- **What an operation makes** leaves no more servers than there were, but for one that it
adds. -/
theorem Operation.Makes.countsArrivals (h : op.Makes e server) : e.CountsArrivals := by
  cases op with
  | insert request schema => exact countsArrivals_of_adds h.1
  | register i request => exact countsArrivals_of_adds h.1
  | write w =>
    obtain ⟨edit, -, seen, left, rfl, hupdate⟩ := h
    intro hmap
    rw [count_eq, count_eq, hmap.all_of_update hupdate, List.length_map]
    exact Nat.le_add_right ..
  | remove id =>
    cases e with
    | access now seen left =>
      intro hmap
      rw [count_eq, count_eq, hmap.all_of_remove h]
      exact (List.length_filter_le ..).trans (Nat.le_add_right ..)
    | _ => exact h.elim

end Registry

/-- A step that counts what arrives, and keeps the registry a map. -/
theorem Flow.Step.count_le {α : Type} {flow next : Flow α} {seen left : Registry} {e : Event}
    (h : Flow.Step flow seen e next left) (hmap : seen.IsMap) (hkeeps : e.Keeps Registry.IsMap)
    (hcounts : e.CountsArrivals) :
    left.IsMap ∧ left.count ≤ seen.count + e.added?.toList.length := by
  cases h with
  | access now => exact ⟨hkeeps hmap, hcounts hmap⟩
  | _ => exact ⟨hmap, Nat.le_add_right ..⟩

/-- **How many servers a run leaves**: no more than there were and have arrived, where all
steps count what arrives. -/
theorem Flow.Together.count_le {ι : Type} [DecidableEq ι] {α : ι → Type}
    {flows ended : ∀ i, Flow (α i)} {r left : Registry} {trace : List (ι × Event)}
    (h : Together flows r trace ended left) (hmap : r.IsMap)
    (hkeeps : ∀ step ∈ trace, step.2.Keeps Registry.IsMap)
    (hcounts : ∀ step ∈ trace, step.2.CountsArrivals) :
    left.count ≤ r.count + (arrivals trace).length := by
  induction h with
  | nil => exact Nat.le_refl _
  | @cons flows ended r between left i e next trace hstep _ ih =>
    obtain ⟨hkeep, hkeeps⟩ := List.forall_mem_cons.mp hkeeps
    obtain ⟨hcount, hcounts⟩ := List.forall_mem_cons.mp hcounts
    obtain ⟨hbetween, hfirst⟩ := hstep.count_le hmap hkeep hcount
    have hlater := ih hbetween hkeeps hcounts
    have harrivals : arrivals ((i, e) :: trace) = e.added?.toList ++ arrivals trace := by
      rw [arrivals, List.filterMap_cons, arrivals]
      cases e.added? <;> rfl
    rw [harrivals, List.length_append]
    omega

namespace Http

/-! ## Visitors -/

/-- **Somebody who asks for the health of the gateway, or changes the registry.** -/
inductive Visitor where
  /-- Asks for the health. -/
  | asks (target : String) (body : Option (List UInt8)) (htarget : pathOf target = "/health")
  /-- Registers, updates or removes a server. -/
  | operates (op : Registry.Operation)
  /-- Puts what a text holds in place of the registry. -/
  | imports (octets : List UInt8)

namespace Visitor

/-- Whether it is the health that is asked for. -/
def AsksHealth : Visitor → Prop
  | asks _ _ _ => True
  | _ => False

/-- Whether a visitor imports a registry. -/
def Imports : Visitor → Prop
  | imports _ => True
  | _ => False

/-- **The steps of a visitor**, at the end of which there is a reply to a question. -/
def flow (d : Dispatcher) : Visitor → Flow (Option Reply)
  | asks target body _ =>
    (handleBy d { method := "GET", target, body }).bind fun reply => .done (some reply)
  | operates op => op.flow.bind fun _ => .done none
  | imports octets => (Registry.replaceFlow octets).bind fun _ => .done none

end Visitor

variable {others : Registry → Registry → Prop} {d : Dispatcher} {r left : Registry}
  {events : List Event} {reply : Reply} {target : String} {body : Option (List UInt8)}

/-- **Who asks for the health looks twice**, and is told all servers of the first look and
the active ones of the second. -/
theorem among_health (htarget : pathOf target = "/health")
    (h : Flow.Among others (handleBy d { method := "GET", target, body }) r events reply left) :
    ∃ t t' first later, events = [.look t first, .look t' later]
      ∧ reply = json (health first.count later.activeCount) := by
  unfold handleBy at h
  rw [htarget] at h
  obtain ⟨_, total, first, rest, rfl, hfirst, hrest⟩ := Flow.among_bind.mp h
  obtain ⟨t, -, rfl, rfl⟩ := Flow.among_readRegistry.mp hfirst
  obtain ⟨active, hlater, rfl⟩ := Flow.among_bind_done.mp hrest
  obtain ⟨t', -, rfl, rfl⟩ := Flow.among_readRegistry.mp hlater
  exact ⟨t, t', first, left, rfl, rfl⟩

/-- **What a visitor does**: it looks, it makes what it was asked for, or it puts another map
in place of the registry. -/
theorem Visitor.isLook_or {v : Visitor} {rest : Flow (Option Reply)}
    (h : Takes (v.flow d) events rest) {e : Event} (he : e ∈ events) :
    e.IsLook ∨ (∃ (op : Registry.Operation) (server : Server), op.Makes e server)
      ∨ v.Imports ∧ ∃ now seen left, e = .access now seen left ∧ left.IsMap := by
  -- the visitor is taken to its end
  obtain ⟨more, answer, hmore⟩ := Flow.exists_takes_done rest
  obtain ⟨left, hrun⟩ := Takes.among (h.trans hmore) .empty
  have hmem : e ∈ events ++ more := List.mem_append_left _ he
  cases v with
  | asks target body htarget =>
    obtain ⟨reply, hrun, -⟩ := Flow.among_bind_done.mp hrun
    obtain ⟨t, t', first, later, hevents, -⟩ := among_health htarget hrun
    rw [hevents] at hmem
    rcases List.mem_cons.mp hmem with rfl | hmem
    · exact .inl rfl
    · obtain rfl := List.mem_singleton.mp hmem
      exact .inl rfl
  | operates op =>
    obtain ⟨result, hrun, -⟩ := Flow.among_bind_done.mp hrun
    exact (op.commits_flow.isLook_or hrun.takes hmem).imp_right fun ⟨server, hmade⟩ =>
      .inl ⟨op, server, hmade⟩
  | imports octets =>
    obtain ⟨result, hrun, -⟩ := Flow.among_bind_done.mp hrun
    rw [Registry.replaceFlow] at hrun
    cases hread : Registry.ofOctets octets with
    | error failure =>
      rw [hread] at hrun
      rw [(Flow.among_done.mp hrun).1] at hmem
      cases hmem
    | ok imported =>
      rw [hread] at hrun
      generalize events ++ more = all at hrun hmem
      cases hrun with
      | access now seen hseen hrest =>
        obtain ⟨rfl, -, -⟩ := Flow.among_done.mp hrest
        obtain rfl := List.mem_singleton.mp hmem
        exact .inr (.inr ⟨trivial, now, seen, imported, rfl, Registry.isMap_of_ofOctets hread⟩)

section Together

variable {ι : Type} [DecidableEq ι] {visitors : ι → Visitor} {ended : ι → Flow (Option Reply)}
  {trace : List (ι × Event)}

/-- All steps keep the registry a map. -/
theorem keeps_isMap_of_mem (h : Together (fun i => (visitors i).flow d) r trace ended left) :
    ∀ step ∈ trace, step.2.Keeps Registry.IsMap := by
  rintro ⟨i, e⟩ hmem
  rcases Visitor.isLook_or (h.takes i) (mem_own.mpr hmem) with
    hlook | ⟨op, server, hmade⟩ | ⟨-, now, seen, imported, rfl, himported⟩
  · exact hlook.keeps _
  · exact hmade.keeps_isMap
  · exact fun _ => himported

/-- All steps but imports count what arrives. -/
theorem countsArrivals_of_mem (h : Together (fun i => (visitors i).flow d) r trace ended left)
    {step : ι × Event} (hmem : step ∈ trace) (himports : ¬ (visitors step.1).Imports) :
    step.2.CountsArrivals := by
  rcases Visitor.isLook_or (h.takes step.1) (mem_own.mpr hmem) with
    hlook | ⟨op, server, hmade⟩ | ⟨himport, -⟩
  · exact Registry.countsArrivals_of_isLook hlook
  · exact hmade.countsArrivals
  · exact absurd himport himports

/-- **What a reply tells about the health of the gateway**, from two looks with other steps
between them. -/
inductive TellsHealth (visitors : ι → Visitor) (k : ι) : List (ι × Event) → Reply → Prop where
  /-- All servers are those of the first look, and the active ones those of the second. -/
  | told (before between behind : List (ι × Event)) (t t' : Instant) (first later : Registry)
    (hlater : later.activeCount ≤ later.count)
    (hfirst : (∀ step ∈ between, ¬ (visitors step.1).Imports) →
      later.activeCount ≤ first.count + (arrivals between).length) :
    TellsHealth visitors k
      (before ++ (k, .look t first) :: (between ++ (k, .look t' later) :: behind))
      (json (health first.count later.activeCount))

/-- Who asks for the health has looked twice when there is a reply. -/
theorem exists_looks (h : Together (fun i => (visitors i).flow d) r trace ended left) {k : ι}
    (hk : (visitors k).AsksHealth) (hreply : ended k = .done (some reply)) :
    ∃ before between behind t t' first later,
      trace = before ++ (k, .look t first) :: (between ++ (k, .look t' later) :: behind)
        ∧ reply = json (health first.count later.activeCount) := by
  have htakes := h.takes k
  rw [hreply] at htakes
  obtain ⟨left, hrun⟩ := htakes.among .empty
  cases hv : visitors k with
  | asks target body htarget =>
    rw [hv] at hrun
    obtain ⟨told, hrun, htold⟩ := Flow.among_bind_done.mp hrun
    obtain rfl := Option.some.inj htold
    obtain ⟨t, t', first, later, hown, hreply⟩ := among_health htarget hrun
    obtain ⟨before, rest, rfl, -, hrest⟩ :=
      exists_append_of_own (show own k trace = [] ++ .look t first :: _ from hown)
    obtain ⟨between, behind, rfl, -, -⟩ :=
      exists_append_of_own (show own k rest = [] ++ .look t' later :: [] from hrest)
    exact ⟨before, between, behind, t, t', first, later, rfl, hreply⟩
  | _ => rw [hv] at hk; exact hk.elim

/-- **The numbers that are told** while others register, update and remove servers or put
another registry in place: no more servers are active than there were, but for those that
have arrived or were imported since. -/
theorem tellsHealth_together {history : List (Instant × Registry.Change)}
    (h : Together (fun i => (visitors i).flow d) (Registry.after history) trace ended left) {k : ι}
    (hk : (visitors k).AsksHealth) (hreply : ended k = .done (some reply)) :
    TellsHealth visitors k trace reply := by
  obtain ⟨before, between, behind, t, t', first, later, rfl, rfl⟩ := exists_looks h hk hreply
  have hkeeps := keeps_isMap_of_mem h
  obtain ⟨mid, next, hbefore, hrest⟩ := h.cut
  obtain ⟨_, _, hbetween, -⟩ := hrest.cut
  have hfirst : first.IsMap := hbefore.keeps
    (fun step hstep => hkeeps step (List.mem_append_left _ hstep)) (Registry.isMap_after history)
  have hlater : later.activeCount ≤ later.count := later.count_eq_add ▸ Nat.le_add_right ..
  refine .told before between behind t t' first later hlater fun himports => hlater.trans ?_
  have hmem : ∀ step ∈ between, step
      ∈ before ++ (k, .look t first) :: (between ++ (k, .look t' later) :: behind) := by
    simp +contextual
  exact hbetween.count_le hfirst (fun step hstep => hkeeps step (hmem step hstep))
    fun step hstep => countsArrivals_of_mem h (hmem step hstep) (himports step hstep)

end Together

/-! ## A server that is registered between the looks -/

/-- What is asked for to register a server. -/
def newcomer : Registration :=
  { id := "a", name := "A", endpoint := "http://a/graphql", description := "" }

/-- Two visitors, of which the first asks for the health. -/
def askWhile (op : Registry.Operation) : Bool → Visitor
  | true => .asks "/health" none rfl
  | false => .operates op

/-- A world in which nobody answers. -/
def silentWorld : Flow.World where
  network _ _ := .noAnswer
  clock tick := ⟨tick, 0⟩

/-- A server is removed between the looks, and the numbers fit together. -/
theorem tellsHealth_removed :
    ∃ trace ended left,
      Together (fun i => (askWhile (.remove "a") i).flow (Router.overHttp ⟨.heuristic⟩))
        (Registry.after Registry.addedHistory) trace ended left
      ∧ ended true = .done (some (json (health 1 0)))
      ∧ TellsHealth (askWhile (.remove "a")) true trace (json (health 1 0)) := by
  have hrun := Flow.together_byTurns silentWorld [true, false, true]
    (fun i => (askWhile (.remove "a") i).flow (Router.overHttp ⟨.heuristic⟩))
    { registry := Registry.after Registry.addedHistory, calls := [], ticks := 0 }
  exact ⟨_, _, _, hrun, rfl, tellsHealth_together hrun trivial rfl⟩

/-- **The numbers need not fit together**: a server that is registered between the looks is
active and was not there. -/
theorem not_active_le_total :
    ¬ ∀ (visitors : Bool → Visitor) (d : Dispatcher) (history : List (Instant × Registry.Change))
        (trace : List (Bool × Event)) (ended : Bool → Flow (Option Reply)) (left : Registry)
        (k : Bool) (total active : Nat),
      Together (fun i => (visitors i).flow d) (Registry.after history) trace ended left →
        (visitors k).AsksHealth → ended k = .done (some (json (health total active))) →
        active ≤ total := by
  intro hall
  have hrun := Flow.together_byTurns silentWorld [true, false, false, true]
    (fun i =>
      (askWhile (.insert newcomer Registry.exampleSchema) i).flow (Router.overHttp ⟨.heuristic⟩))
    { registry := Registry.after [], calls := [], ticks := 0 }
  exact absurd (hall _ _ _ _ _ _ true 0 1 hrun trivial rfl) (by decide)

end Http

end GraphGateway
