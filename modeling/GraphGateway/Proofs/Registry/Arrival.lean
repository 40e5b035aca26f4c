import GraphGateway.Proofs.Registry.Addition
import Mathlib.Data.List.Pairwise

/-!
# Servers that arrive at the same time

A registration reads the clock, waits for its turn, and inserts the server with the
time that it has read. Listings go by this time. So servers are listed in the order in
which their registrations read the clock, and this need not be the order in which they
arrived: a registration that read the clock early and got its turn late puts its
server before those that arrived in the meantime.

`Client` is somebody who registers a server, looks a name up or lists the servers, and
`Client.ListsByClock` says what the registry and the answers are when any number of
them take their steps in turn and the clock rises (`Client.listsByClock_together`). In
particular it says which later arrival makes a name that was found mean another server:
one that declares the name and read the clock before the server that was found.
-/

namespace GraphGateway

open GraphGateway.Flow (Event Among Takes Together)
open Time (Instant)

/-! ## Earlier and later -/

/-- **Whether an instant is earlier than another.** -/
def Time.Instant.Before (a b : Instant) : Prop := compare a b = .lt

/-- Of any two instants it can be told. -/
instance : DecidableRel Time.Instant.Before := fun a b =>
  inferInstanceAs (Decidable (compare a b = .lt))

/-- Of two instants only one is the earlier. -/
theorem Time.Instant.Before.asymm {a b : Instant} (h : a.Before b) : ¬ b.Before a := by
  have hswap : compare b a = (compare a b).swap := by
    show (compare b.seconds a.seconds).then _ = ((compare a.seconds b.seconds).then _).swap
    rw [Ordering.swap_then, ← Std.OrientedCmp.eq_swap, ← Std.OrientedCmp.eq_swap]
  rw [Time.Instant.Before, hswap, show compare a b = .lt from h]
  decide

/-- **What is found in an ordered list**: whatever precedes all others of its kind. -/
theorem find?_eq_some_iff_of_pairwise {α : Type} {R : α → α → Prop} {l : List α} {p : α → Bool}
    {a : α} (hl : l.Pairwise R) (hasymm : ∀ a b, R a b → ¬ R b a) :
    l.find? p = some a ↔ a ∈ l ∧ p a = true ∧ ∀ b ∈ l, p b = true → b = a ∨ R a b := by
  rw [List.find?_eq_some_iff_append]
  constructor
  · rintro ⟨ha, before, behind, rfl, hbefore⟩
    refine ⟨by simp, ha, fun b hb hpb => ?_⟩
    rcases List.mem_append.mp hb with hb | hb
    · have hnot := hbefore b hb
      rw [hpb] at hnot
      cases hnot
    · have hbehind := (List.pairwise_cons.mp (List.pairwise_append.mp hl).2.1).1
      exact (List.mem_cons.mp hb).imp_right fun hb => hbehind b hb
  · rintro ⟨hmem, ha, hfirst⟩
    obtain ⟨before, behind, rfl⟩ := List.append_of_mem hmem
    refine ⟨ha, before, behind, rfl, fun b hb => ?_⟩
    have hba : R b a := (List.pairwise_append.mp hl).2.2 b hb a (List.mem_cons_self ..)
    cases hpb : p b with
    | false => rfl
    | true =>
      rcases hfirst b (List.mem_append_left _ hb) hpb with rfl | hab
      · exact absurd hba (hasymm _ _ hba)
      · exact absurd hab (hasymm _ _ hba)

/-- **What a name means after more servers have arrived.** -/
theorem Registry.findByField_of_perm {mid left : Registry} {arrived : List Server} {name : String}
    {server : Server} (hperm : left.all.Perm (arrived ++ mid.all))
    (hmid : mid.all.Pairwise fun a b => a.addedAt.Before b.addedAt)
    (hleft : left.all.Pairwise fun a b => a.addedAt.Before b.addedAt)
    (hfound : mid.findByField name = .ok server) :
    (left.findByField name = .ok server
        ↔ ∀ other ∈ arrived, hasSchema (·.declaresType name) other = true →
          server.addedAt.Before other.addedAt)
      ∧ ∀ other, left.findByField name = .ok other →
        other = server ∨ other ∈ arrived ∧ other.addedAt.Before server.addedAt := by
  have hasymm : ∀ a b : Server, a.addedAt.Before b.addedAt → ¬ b.addedAt.Before a.addedAt :=
    fun _ _ h => h.asymm
  rw [findByField_eq_ok_iff, find?_eq_some_iff_of_pairwise hmid hasymm] at hfound
  obtain ⟨hserver, hdeclares, hfirst⟩ := hfound
  have hmem : ∀ other, other ∈ left.all ↔ other ∈ arrived ∨ other ∈ mid.all := fun other =>
    hperm.mem_iff.trans List.mem_append
  have hthere : server ∈ left.all := (hmem server).mpr (.inr hserver)
  constructor
  · rw [findByField_eq_ok_iff, find?_eq_some_iff_of_pairwise hleft hasymm]
    constructor
    · rintro ⟨-, -, hleast⟩ other hother hname
      rcases hleast other ((hmem other).mpr (.inl hother)) hname with rfl | hbefore
      · -- the server was there before, and arrives only once
        have hnodup : (arrived ++ mid.all).Nodup :=
          hperm.nodup (hleft.imp fun h hsame => (hsame ▸ h).asymm (hsame ▸ h))
        exact absurd rfl ((List.nodup_append.mp hnodup).2.2 _ hother _ hserver)
      · exact hbefore
    · refine fun hlater => ⟨hthere, hdeclares, fun other hother hname => ?_⟩
      rcases (hmem other).mp hother with hother | hother
      · exact .inr (hlater other hother hname)
      · exact hfirst other hother hname
  · intro other hother
    rw [findByField_eq_ok_iff, find?_eq_some_iff_of_pairwise hleft hasymm] at hother
    obtain ⟨hother, hname, hleast⟩ := hother
    rcases hleast server hthere hdeclares with rfl | hbefore
    · exact .inl rfl
    · rcases (hmem other).mp hother with hother | hother
      · exact .inr ⟨hother, hbefore⟩
      · exact (hfirst other hother hname).imp_right fun h => absurd hbefore h.asymm

/-! ## Arrivals -/

/-- The server that a step added, if it added one. -/
def Flow.Event.added? : Event → Option Server
  | access _ seen left =>
    (left.entries.find? fun entry => (seen.entries.lookup entry.1).isNone).map Prod.snd
  | _ => none

/-- The reading of the clock that a step was. -/
def Flow.Event.reading? : Event → Option Instant
  | tick now => some now
  | _ => none

section Arrivals

variable {ι : Type} {trace : List (ι × Event)}

/-- **The servers that were added in a run**, in the order of their arrivals. -/
def arrivals (trace : List (ι × Event)) : List Server := trace.filterMap fun step => step.2.added?

/-- **Whether the clock rises in a run**: each reading is later than those before. -/
def ClockRises (trace : List (ι × Event)) : Prop :=
  (trace.filterMap fun step => step.2.reading?).Pairwise Instant.Before

/-- The beginning of a run in which the clock rises is one too. -/
theorem ClockRises.of_append {before later : List (ι × Event)}
    (hclock : ClockRises (before ++ later)) : ClockRises before := by
  rw [ClockRises, List.filterMap_append] at hclock
  exact (List.pairwise_append.mp hclock).1

/-- Whether two steps do not read the clock alike. -/
def ReadsApart (x y : ι × Event) : Prop :=
  ∀ a, x.2.reading? = some a → ∀ b, y.2.reading? = some b → a ≠ b

/-- A clock that rises is read once at each of its readings. -/
theorem ClockRises.eq_of_tick (hclock : ClockRises trace) {i j : ι} {read : Instant}
    (hi : (i, .tick read) ∈ trace) (hj : (j, .tick read) ∈ trace) : i = j := by
  have hsymm : Std.Symm (ReadsApart : ι × Event → ι × Event → Prop) :=
    ⟨fun x y h b hb a ha => (h a ha b hb).symm⟩
  have hapart : trace.Pairwise ReadsApart :=
    (List.pairwise_filterMap.mp hclock).imp fun h a ha b hb heq => by
      subst heq
      exact (h a ha a hb).asymm (h a ha a hb)
  by_contra hne
  exact hapart.forall hi hj (fun h => hne (congrArg Prod.fst h)) read rfl read rfl rfl

end Arrivals

/-- A key in a list is found there. -/
theorem Registry.lookup_isNone_of_mem {r : Registry} {entry : String × Server}
    (h : entry ∈ r.entries) : (r.entries.lookup entry.1).isNone = false := by
  rw [Option.isNone_eq_false_iff, Option.isSome_iff_ne_none, ne_eq, List.lookup_eq_none_iff]
  intro hnone
  simpa using hnone entry h

/-- An addition adds its server. -/
theorem Flow.Event.Adds.added? {e : Event} {server : Server} (h : e.Adds server) :
    e.added? = some server := by
  cases e with
  | access now seen left =>
    obtain ⟨hfree, rfl⟩ := Registry.register_eq_ok_iff.mp h
    have hfound : (Keyed.insert server.id server seen.entries).find?
        (fun entry => (seen.entries.lookup entry.1).isNone) = some (server.id, server) :=
      Keyed.find?_insert (by simp [hfree]) fun entry => Registry.lookup_isNone_of_mem
    simp [Event.added?, hfound]
  | _ => exact h.elim

/-- A look adds none. -/
theorem Flow.Event.IsLook.added? {e : Event} (h : e.IsLook) : e.added? = none := by
  cases e with
  | access now seen left =>
    obtain rfl : left = seen := h
    rw [Event.added?, Option.map_eq_none_iff, List.find?_eq_none]
    intro entry hentry
    simp [Registry.lookup_isNone_of_mem hentry]
  | _ => rfl

/-- **What has arrived was added**, where all steps are additions. -/
theorem Flow.Event.IsAddition.adds {e : Event} {server : Server} (h : e.IsAddition)
    (hadded : e.added? = some server) : e.Adds server := by
  rcases h with hlook | ⟨other, hadds⟩
  · rw [hlook.added?] at hadded
    cases hadded
  · rw [hadds.added?] at hadded
    exact Option.some.inj hadded ▸ hadds

/-- What is listed behind a step are the servers listed before and what the step
added. -/
theorem Flow.Event.IsAddition.all_perm {α : Type} {flow next : Flow α} {seen left : Registry}
    {e : Event} (h : e.IsAddition) (hstep : Flow.Step flow seen e next left) :
    left.all.Perm (e.added?.toList ++ seen.all) := by
  cases hstep with
  | access now =>
    rcases h with hlook | ⟨server, hadds⟩
    · rw [hlook.added?, show _ = seen from hlook]
      exact .refl _
    · rw [hadds.added?]
      exact Registry.all_of_register hadds
  | _ => exact .refl _

/-- **What is listed behind a run** are the servers listed before and those that have
arrived, where all steps are additions. -/
theorem Flow.Together.all_perm {ι : Type} [DecidableEq ι] {α : ι → Type}
    {flows ended : ∀ i, Flow (α i)} {r left : Registry} {trace : List (ι × Event)}
    (h : Together flows r trace ended left) (hall : ∀ step ∈ trace, step.2.IsAddition) :
    left.all.Perm (arrivals trace ++ r.all) := by
  induction h with
  | nil => exact .refl _
  | @cons flows ended r between left i e next trace hstep _ ih =>
    obtain ⟨hfirst, hrest⟩ := List.forall_mem_cons.mp hall
    have harrivals : arrivals ((i, e) :: trace) = e.added?.toList ++ arrivals trace := by
      rw [arrivals, List.filterMap_cons, arrivals]
      cases e.added? <;> rfl
    rw [harrivals]
    refine (ih hrest).trans (((hfirst.all_perm hstep).append_left _).trans ?_)
    rw [← List.append_assoc]
    exact List.perm_append_comm.append_right _

/-! ## Clients -/

/-- **Somebody who registers a server, looks a name up, or lists the servers.** -/
inductive Client where
  /-- Registers a server with a schema. -/
  | registers (request : Registration) (schema : Schema)
  /-- Asks for the first server that declares a name. -/
  | finds (name : String)
  /-- Asks for all servers. -/
  | lists

/-- What a client is told. -/
inductive Client.Answer where
  /-- What came of the registration. -/
  | registered (result : Except GatewayError Server)
  /-- The server that declares the name. -/
  | found (result : Except GatewayError Server)
  /-- The servers. -/
  | listed (servers : List Server)

/-- **The steps of a client.** -/
def Client.flow : Client → Flow Answer
  | registers request schema =>
    (request.insert schema).bind fun result => .done (.registered result)
  | finds name => Flow.readRegistry fun r => .found (r.findByField name)
  | lists => Flow.readRegistry fun r => .listed r.all

/-- **What a client does**: it looks, or it registers a server and adds it with the time
that it has read before. -/
theorem Client.isLook_or_adds {c : Client} {events : List Event} {rest : Flow Client.Answer}
    (h : Takes c.flow events rest) {e : Event} (he : e ∈ events) :
    e.IsLook ∨ ∃ request schema read, c = .registers request schema
      ∧ events = [.tick read, e] ∧ e.Adds (request.server schema read) := by
  -- the client is taken to its end
  obtain ⟨more, answer, hmore⟩ := Flow.exists_takes_done rest
  obtain ⟨left, hrun⟩ := Takes.among (h.trans hmore) .empty
  cases c with
  | registers request schema =>
    obtain ⟨result, hinsert, -⟩ := Flow.among_bind_done.mp hrun
    obtain ⟨read, now, seen, -, hevents, hway⟩ := Registration.among_insert hinsert
    rcases events with _ | ⟨first, _ | ⟨second, others⟩⟩
    · cases he
    · obtain ⟨rfl, -⟩ := List.cons.inj hevents
      obtain rfl := List.mem_singleton.mp he
      exact .inl trivial
    · obtain ⟨rfl, hnext⟩ := List.cons.inj hevents
      obtain ⟨rfl, hnone⟩ := List.cons.inj hnext
      obtain ⟨rfl, -⟩ := List.append_eq_nil_iff.mp hnone
      rcases List.mem_cons.mp he with rfl | he
      · exact .inl trivial
      · obtain rfl := List.mem_singleton.mp he
        rcases hway with ⟨hadds, -⟩ | ⟨-, hsame, -⟩
        · exact .inr ⟨request, schema, read, rfl, rfl, hadds⟩
        · exact .inl hsame
  | finds name =>
    exact .inl (Flow.looksOnly_readRegistry _ _ _ _ _ _ hrun e (List.mem_append_left _ he))
  | lists =>
    exact .inl (Flow.looksOnly_readRegistry _ _ _ _ _ _ hrun e (List.mem_append_left _ he))

/-- Who asks for a name looks once. -/
theorem Client.look_of_finds {name : String} {events : List Event} {answer : Client.Answer}
    (h : Takes (Client.finds name).flow events (.done answer)) :
    ∃ now mid, events = [.look now mid] ∧ answer = .found (mid.findByField name) := by
  obtain ⟨mid, hrun⟩ := h.among .empty
  obtain ⟨now, -, hevents, hanswer⟩ := Flow.among_readRegistry.mp hrun
  exact ⟨now, mid, hevents, hanswer⟩

/-- Who is told the servers looks once. -/
theorem Client.look_of_listed {c : Client} {events : List Event} {servers : List Server}
    (h : Takes c.flow events (.done (.listed servers))) :
    ∃ now mid, events = [.look now mid] ∧ servers = mid.all := by
  obtain ⟨mid, hrun⟩ := h.among .empty
  cases c with
  | registers request schema =>
    obtain ⟨result, -, hresult⟩ := Flow.among_bind_done.mp hrun
    cases hresult
  | finds name =>
    obtain ⟨now, -, -, hanswer⟩ := Flow.among_readRegistry.mp hrun
    cases hanswer
  | lists =>
    obtain ⟨now, -, hevents, hanswer⟩ := Flow.among_readRegistry.mp hrun
    exact ⟨now, mid, hevents, Client.Answer.listed.inj hanswer⟩

/-! ## Many clients -/

section Clients

variable {ι : Type} [DecidableEq ι] {clients : ι → Client} {ended : ι → Flow Client.Answer}
  {left : Registry} {trace : List (ι × Event)}

/-- All steps of many clients are additions. -/
theorem Client.isAddition_of_mem
    (h : Together (fun i => (clients i).flow) .empty trace ended left) :
    ∀ step ∈ trace, step.2.IsAddition := fun step hmem =>
  (isLook_or_adds (h.takes step.1) (mem_own.mpr hmem)).imp_right
    fun ⟨_, _, _, _, _, hadds⟩ => ⟨_, hadds⟩

/-- What has arrived is what is listed. -/
theorem Client.perm_arrivals (h : Together (fun i => (clients i).flow) .empty trace ended left) :
    left.all.Perm (arrivals trace) := by
  have hperm := h.all_perm (isAddition_of_mem h)
  rwa [show Registry.empty.all = [] from List.mergeSort_nil, List.append_nil] at hperm

/-- **Who has arrived was registered** with the time that its registration had read. -/
theorem Client.exists_registers (h : Together (fun i => (clients i).flow) .empty trace ended left)
    {server : Server} (hserver : server ∈ arrivals trace) :
    ∃ i request schema read e, clients i = .registers request schema
      ∧ own i trace = [.tick read, e] ∧ e.Adds server ∧ server = request.server schema read := by
  obtain ⟨⟨i, e⟩, hmem, hadded⟩ := List.mem_filterMap.mp hserver
  have hadds := (isAddition_of_mem h _ hmem).adds hadded
  rcases isLook_or_adds (h.takes i) (mem_own.mpr hmem) with
    hlook | ⟨request, schema, read, hclient, hown, hother⟩
  · exact absurd hlook hadds.not_isLook
  · exact ⟨i, request, schema, read, e, hclient, hown, hadds, hother.unique hadds⟩

/-- **Servers are listed in the order in which their registrations read the clock**, if it
rises. -/
theorem Client.pairwise_addedAt (h : Together (fun i => (clients i).flow) .empty trace ended left)
    (hclock : ClockRises trace) : left.all.Pairwise fun a b => a.addedAt.Before b.addedAt := by
  have hmap : left.IsMap := h.keeps (fun step hmem => (isAddition_of_mem h step hmem).keeps_isMap)
    Registry.isMap_empty
  refine hmap.pairwise_all.imp_of_mem fun {a b} ha hb hprecedes => ?_
  rcases hprecedes with hbefore | ⟨hsame, hid⟩
  · exact hbefore
  -- servers with one time would be of one client, which adds one server
  have hperm := perm_arrivals h
  obtain ⟨i, request, schema, read, e, -, hown, hadds, rfl⟩ :=
    exists_registers h (hperm.mem_iff.mp ha)
  obtain ⟨j, request', schema', read', e', -, hown', hadds', rfl⟩ :=
    exists_registers h (hperm.mem_iff.mp hb)
  obtain rfl : read = read' := hsame
  obtain rfl := hclock.eq_of_tick (mem_own.mp (hown ▸ List.mem_cons_self ..))
    (mem_own.mp (hown' ▸ List.mem_cons_self ..))
  rw [hown, List.cons.injEq, List.cons.injEq] at hown'
  obtain ⟨-, rfl, -⟩ := hown'
  rw [hadds.unique hadds'] at hid
  exact absurd hid (String.lt_irrefl _)

/-- **What the listings and look-ups of many clients come to**, in a run that began with an
empty registry. -/
structure Client.ListsByClock (clients : ι → Client) (trace : List (ι × Event))
    (ended : ι → Flow Client.Answer) (left : Registry) : Prop where
  /-- Those servers are listed that have arrived. -/
  listed : left.all.Perm (arrivals trace)
  /-- Each of them has the time that its registration had read. -/
  timed : ∀ server ∈ left.all, ∃ i request schema read e, clients i = .registers request schema
    ∧ own i trace = [.tick read, e] ∧ e.Adds server ∧ server = request.server schema read
  /-- They are listed in the order of these times. -/
  ordered : left.all.Pairwise fun a b => a.addedAt.Before b.addedAt
  /-- This is the order of their arrivals exactly if they arrived in the order in which
  their registrations had read the clock. -/
  inOrder : left.all = arrivals trace
    ↔ (arrivals trace).Pairwise fun a b => a.addedAt.Before b.addedAt
  /-- Who was told the servers was told those that had arrived, in the order of their
  times. -/
  told : ∀ k servers, ended k = .done (.listed servers) → ∃ before now mid later,
    trace = before ++ (k, .look now mid) :: later ∧ servers = mid.all
      ∧ servers.Perm (arrivals before)
      ∧ servers.Pairwise fun a b => a.addedAt.Before b.addedAt
  /-- Who was told the server that declares a name was told one that is still there. The
  name still means this server unless a server that declares it too has arrived since
  whose registration had read the clock earlier. -/
  resolved : ∀ k name server, clients k = .finds name → ended k = .done (.found (.ok server)) →
    ∃ before now mid later, trace = before ++ (k, .look now mid) :: later
      ∧ mid.findByField name = .ok server ∧ left.get server.id = .ok server
      ∧ (left.findByField name = .ok server
        ↔ ∀ other ∈ arrivals later, Registry.hasSchema (·.declaresType name) other = true →
          server.addedAt.Before other.addedAt)
      ∧ ∀ other, left.findByField name = .ok other →
        other = server ∨ other ∈ arrivals later ∧ other.addedAt.Before server.addedAt

/-- **Many clients at the same time**: in whatever order they take their steps, the servers
that have arrived are listed in the order in which their registrations read the clock,
if it rises; and a name that was found means the same server as long as no server arrives
that declares it too and whose registration had read the clock earlier. -/
theorem Client.listsByClock_together
    (h : Together (fun i => (clients i).flow) .empty trace ended left) (hclock : ClockRises trace) :
    ListsByClock clients trace ended left := by
  have hordered := pairwise_addedAt h hclock
  have hperm := perm_arrivals h
  have hall := isAddition_of_mem h
  refine ⟨hperm, fun server hserver => exists_registers h (hperm.mem_iff.mp hserver), hordered,
    ⟨fun hsame => hsame ▸ hordered, fun harrivals => ?_⟩, fun k servers hended => ?_,
    fun k name server hclient hended => ?_⟩
  · exact hperm.eq_of_pairwise (fun a b _ _ hab hba => absurd hba hab.asymm) hordered harrivals
  · obtain ⟨now, mid, hown, rfl⟩ := look_of_listed (hended ▸ h.takes k)
    obtain ⟨before, later, _, _, rfl, hbefore, -⟩ :=
      h.cut_of_mem (mem_own.mp (hown ▸ List.mem_singleton_self _))
    exact ⟨before, now, mid, later, rfl, rfl, perm_arrivals hbefore,
      pairwise_addedAt hbefore hclock.of_append⟩
  · have htakes := hended ▸ h.takes k
    rw [hclient] at htakes
    obtain ⟨now, mid, hown, hanswer⟩ := look_of_finds htakes
    have hfound : mid.findByField name = .ok server := (Client.Answer.found.inj hanswer).symm
    obtain ⟨before, later, _, _, rfl, hbefore, hlater⟩ :=
      h.cut_of_mem (mem_own.mp (hown ▸ List.mem_singleton_self _))
    have hadditions : ∀ step ∈ later, step.2.IsAddition := fun step hstep =>
      hall step (List.mem_append_right _ (List.mem_cons_of_mem _ hstep))
    have hmid := pairwise_addedAt hbefore hclock.of_append
    refine ⟨before, now, mid, later, rfl, hfound, ?_,
      Registry.findByField_of_perm (hlater.all_perm hadditions) hmid hordered hfound⟩
    have hmap : mid.IsMap := hbefore.keeps
      (fun step hstep => (hall step (List.mem_append_left _ hstep)).keeps_isMap)
      Registry.isMap_empty
    rw [Registry.findByField_eq_ok_iff] at hfound
    have hget := (hmap.mem_all_iff server).mp (List.mem_of_find?_eq_some hfound)
    exact hlater.keeps (fun step hstep => (hadditions step hstep).keeps_get _ _) hget

end Clients

/-! ## A server that is overtaken -/

/-- A schema with one type. -/
def accountSchema : Schema :=
  { queryType := some (.named .object "Account"), mutationType := none, subscriptionType := none
    types := [], directives := [] }

/-- Two clients register servers that declare one name, and two look it up. -/
def overtaking (i : Fin 4) : Client :=
  match i with
  | 0 => .registers { id := "a", name := "A", endpoint := "http://a/graphql", description := "" }
    accountSchema
  | 1 => .registers { id := "b", name := "B", endpoint := "http://b/graphql", description := "" }
    accountSchema
  | _ => .finds "Account"

/-- The first registration reads the clock, the second one is made from beginning to end,
and the first one goes on. After each of them the name is looked up. -/
def overtakingSchedule : List (Fin 4) := [0, 1, 1, 2, 0, 3]

/-- A clock that rises by the second. -/
def risingWorld : Flow.World where
  network _ _ := .noAnswer
  clock n := ⟨1700000000 + n, 0⟩

/-- The run of this schedule. -/
def overtakenRun : List (Fin 4 × Event) × (Fin 4 → Flow Client.Answer) × Flow.Run :=
  Flow.byTurns risingWorld overtakingSchedule (fun i => (overtaking i).flow) ⟨.empty, [], 0⟩

/-- The server that arrives second. -/
def earlyServer : Server :=
  { id := "a", name := "A", endpoint := "http://a/graphql", description := ""
    schema := some accountSchema, addedAt := ⟨1700000000, 0⟩, updatedAt := ⟨1700000000, 0⟩
    isActive := true }

/-- The server that arrives first. -/
def lateServer : Server :=
  { id := "b", name := "B", endpoint := "http://b/graphql", description := ""
    schema := some accountSchema, addedAt := ⟨1700000001, 0⟩, updatedAt := ⟨1700000001, 0⟩
    isActive := true }

/-- This is a run of these clients. -/
theorem together_overtakenRun :
    Together (fun i => (overtaking i).flow) .empty overtakenRun.1 overtakenRun.2.1
      overtakenRun.2.2.registry := by
  unfold overtakenRun
  exact Flow.together_byTurns risingWorld overtakingSchedule (fun i => (overtaking i).flow)
    ⟨.empty, [], 0⟩

/-- What the run leaves. -/
theorem registry_overtakenRun :
    overtakenRun.2.2.registry = ⟨[("a", earlyServer), ("b", lateServer)]⟩ := by
  rfl

/-- The servers arrive in this order. -/
theorem arrivals_overtakenRun : arrivals overtakenRun.1 = [lateServer, earlyServer] := by
  rfl

/-- The clock rises. -/
theorem clockRises_overtakenRun : ClockRises overtakenRun.1 := by
  have hreadings : overtakenRun.1.filterMap (fun step => step.2.reading?)
      = [⟨1700000000, 0⟩, ⟨1700000001, 0⟩] := rfl
  rw [ClockRises, hreadings, List.pairwise_pair]
  decide

/-- The servers and the answers of this run go by the clock. -/
theorem listsByClock_together_overtaken :
    Client.ListsByClock overtaking overtakenRun.1 overtakenRun.2.1 overtakenRun.2.2.registry :=
  Client.listsByClock_together together_overtakenRun clockRises_overtakenRun

/-- **Servers are not listed in the order of their arrivals**, although the clock rises: the
server that arrives second is listed first, and the name that was found to mean the one
that arrived first means the other from then on, while the first is there as it was. -/
theorem not_listed_by_arrival :
    Together (fun i => (overtaking i).flow) .empty overtakenRun.1 overtakenRun.2.1
        overtakenRun.2.2.registry
      ∧ ClockRises overtakenRun.1
      ∧ overtakenRun.2.2.registry.all ≠ arrivals overtakenRun.1
      ∧ overtakenRun.2.1 2 = .done (.found (.ok lateServer))
      ∧ overtakenRun.2.1 3 = .done (.found (.ok earlyServer))
      ∧ overtakenRun.2.2.registry.get "b" = .ok lateServer := by
  have hall : overtakenRun.2.2.registry.all = [earlyServer, lateServer] := by
    rw [registry_overtakenRun]
    exact List.mergeSort_of_pairwise (by decide)
  have hthen : overtakenRun.2.1 2
      = .done (.found ((⟨[("b", lateServer)]⟩ : Registry).findByField "Account")) := rfl
  have hnow : overtakenRun.2.1 3
      = .done (.found (overtakenRun.2.2.registry.findByField "Account")) := rfl
  refine ⟨together_overtakenRun, clockRises_overtakenRun, ?_, ?_, ?_, ?_⟩
  · rw [hall, arrivals_overtakenRun]
    intro hsame
    have hids := congrArg (List.map Server.id) hsame
    revert hids
    decide
  · rw [hthen, Registry.findByField, Registry.all, Registry.inRegistrationOrder,
      List.mergeSort_of_pairwise (by decide)]
    rfl
  · rw [hnow, Registry.findByField, hall]
    rfl
  · rw [registry_overtakenRun]
    rfl


end GraphGateway
