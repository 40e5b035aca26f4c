import GraphGateway.Proofs.Command.Refinement
import GraphGateway.Proofs.Files.Beside
import GraphGateway.Proofs.Program.Together
import GraphGateway.Proofs.Registry.Addition

/-!
# Two registrations from the command line

Each command loads the registry from its file, works on it, and puts a new file in its
place (`Writes`, `writes_of_takes`). Nothing keeps two commands that run at the same time
apart, so that of two registrations the one that puts its file in place last decides
what is in it: what it had loaded, and its own server.

Both write to one file beside the one that is meant before they move it into place. If
the second of them had written before the first one moved, there would be no file left
for it to move, and it would not report success (`InOrder.own_between_ne_nil`). So if both
report success, each has put its own text in place, and the file is never a mixture
(`InOrder.find_first`, `InOrder.find_last`). Until the first one moves, nobody comes to
the file (`InOrder.load_before`), so what the last one has loaded is what was there at
first or what the first one has put there (`InOrder.load_cases`).

Hence it is known what is in the file (`twoRegistrations_together`), and that a
registration can be lost (`not_registered_together`).
-/

namespace GraphGateway

open Program (Act Takes Together)
open Registry (besidePath)
open Time (Instant)

/-! ## Steps of a registration -/

namespace Program.Act

/-- Whether a step loads the registry of a path. -/
def Loads (path : String) : Act → Prop
  | looked other _ => other = path
  | _ => False

/-- Whether a step puts a registry in place at a path. -/
def Places (path : String) : Act → Prop
  | changed (.move source target) _ _ => source = besidePath path ∧ target = path
  | _ => False

/-- Whether a step prepares for a registry to be written: it asks outside or makes
directories. -/
def Prepares : Act → Prop
  | changed (.makeDirectories path) seen left => seen.makeDirectories path = .ok left
  | ticked _ => True
  | exchanged _ _ => True
  | _ => False

/-- Whether a step writes a registry beside the file of a path. -/
def WritesBeside (path : String) : Act → Prop
  | changed (.write other octets) seen left =>
    other = besidePath path ∧ seen.write (besidePath path) octets = .ok left
  | _ => False

variable {act : Act} {path : String}

/-- A step outside prepares. -/
theorem IsOutside.prepares (h : act.IsOutside) : act.Prepares := by
  cases act with
  | ticked now => trivial
  | exchanged call delivery => trivial
  | _ => exact h.elim

/-- What prepares does not load. -/
theorem Prepares.not_loads (h : act.Prepares) (path : String) : ¬ act.Loads path := by
  cases act with
  | looked path seen => exact h.elim
  | _ => exact id

/-- What prepares puts nothing in place. -/
theorem Prepares.not_places (h : act.Prepares) (path : String) : ¬ act.Places path := by
  cases act with
  | changed step seen left =>
    cases step with
    | makeDirectories directory => exact id
    | _ => exact h.elim
  | _ => exact id

/-- What prepares keeps every file. -/
theorem Prepares.keeps_file (h : act.Prepares) (path : String) (octets : List UInt8) :
    act.Keeps fun d => d.find path = .ok (.file octets) := by
  cases act with
  | changed step seen left =>
    cases step with
    | makeDirectories directory => exact (Disk.grows_makeDirectoriesFrom h).find_file
    | _ => exact h.elim
  | _ => trivial

/-- What loads keeps everything. -/
theorem Loads.keeps (h : act.Loads path) (P : Disk → Prop) : act.Keeps P := by
  cases act with
  | looked other seen => trivial
  | _ => exact h.elim

/-- **Whether a step is one of those before a registry is put in place.** -/
def ComesBefore (path : String) (act : Act) : Prop :=
  act.Loads path ∨ act.Prepares ∨ act.WritesBeside path

/-- What comes before a registry is put in place does not put one there. -/
theorem ComesBefore.not_places (h : act.ComesBefore path) : ¬ act.Places path := by
  rcases h with h | h | h
  · cases act with
    | looked other seen => exact id
    | _ => exact h.elim
  · exact h.not_places path
  · cases act with
    | changed step seen left =>
      cases step with
      | write other octets => exact id
      | _ => exact h.elim
    | _ => exact h.elim

/-- **Until a registry is put in place nobody comes to its file.** -/
theorem ComesBefore.keeps_undisturbed (h : act.ComesBefore path) (d : Disk) :
    act.Keeps (Disk.Undisturbed path d) := by
  rcases h with h | h | h
  · exact h.keeps _
  · cases act with
    | changed step seen left =>
      cases step with
      | makeDirectories directory => exact fun hd => hd.grows (Disk.grows_makeDirectoriesFrom h)
      | _ => exact h.elim
    | _ => trivial
  · cases act with
    | changed step seen left =>
      cases step with
      | write other octets => exact fun hd => hd.write h.2
      | _ => exact h.elim
    | _ => exact h.elim

/-- Until a registry is put in place there stays a file beside its own. -/
theorem ComesBefore.keeps_beside (h : act.ComesBefore path) :
    act.Keeps fun d => ∃ octets, d.find (besidePath path) = .ok (.file octets) := by
  rcases h with h | h | h
  · exact h.keeps _
  · cases act with
    | changed step seen left =>
      exact fun ⟨octets, hfile⟩ => ⟨octets, h.keeps_file (besidePath path) octets hfile⟩
    | _ => trivial
  · cases act with
    | changed step seen left =>
      cases step with
      | write other octets => exact fun _ => ⟨octets, Disk.find_write h.2⟩
      | _ => exact h.elim
    | _ => exact h.elim

end Program.Act

/-! ## The way of a registration -/

/-- **What a backend is asked for is a schema that it gave.** -/
theorem Introspection.isIntrospected_of_takes {endpoint : String} {events : List Flow.Event}
    {schema : Schema} (h : Flow.Takes (introspect endpoint) events (.done (.ok schema))) :
    schema.IsIntrospected := by
  obtain ⟨left, hrun⟩ := h.among .empty
  obtain ⟨answer | answer, -, hread⟩ := Flow.among_andThen_done.mp hrun
  · cases hread
  · exact ⟨endpoint, answer, hread.symm⟩

namespace Command

/-- **What a registration makes of the registry that it has loaded**, in some steps: it
adds the server that was asked for, with a schema that a backend gave and a time that it
has read. -/
structure Makes (request : Registration) (acts : List Act) (loaded changed : Registry)
    (server : Server) : Prop where
  /-- The server is added. -/
  register : loaded.register server = .ok changed
  /-- The server is the one that was asked for. -/
  server_eq : ∃ schema read, schema.IsIntrospected ∧ .ticked read ∈ acts
    ∧ server = request.server schema read

/-- A server is added under the id that was asked for. -/
theorem Makes.id_eq {request : Registration} {acts : List Act} {loaded changed : Registry}
    {server : Server} (h : Makes request acts loaded changed server) : server.id = request.id := by
  obtain ⟨-, schema, read, -, -, rfl⟩ := h
  rfl

/-- **The way that a registration goes until its registry can be put in place**: it loads a
registry, adds its server, and writes the registry beside its file. -/
inductive Writes (request : Registration) (path : String) (loaded changed : Registry)
    (server : Server) (acts : List Act) : Prop where
  /-- The registry was written. -/
  | written {seen written written' : Disk} {prepared : List Act}
    (hload : Registry.load seen path = .ok loaded)
    (hmakes : Makes request acts loaded changed server)
    (hprepared : ∀ act ∈ prepared, act.Prepares)
    (hwrite : written.write (besidePath path) changed.exportOctets = .ok written')
    (hacts : acts = .looked path seen :: (prepared
      ++ [.changed (.write (besidePath path) changed.exportOctets) written written']))

/-- The step that puts a registry in place. -/
def placing (path : String) (moved moved' : Disk) : Act :=
  .changed (.move (besidePath path) path) moved moved'

/-- The step of a loading that succeeds. -/
theorem loading_of_takes {path : String} {acts : List Act} {loaded : Registry}
    (h : Takes (Registry.loading path) acts (.done (.ok loaded))) :
    ∃ seen, acts = [.looked path seen] ∧ Registry.load seen path = .ok loaded := by
  cases h with
  | cons hstep hrest =>
    cases hstep with
    | look =>
      obtain ⟨rfl, hload⟩ := Program.takes_done hrest
      exact ⟨_, rfl, hload⟩

/-- The steps of a saving that succeeds. -/
theorem saving_of_takes {r : Registry} {path : String} {acts : List Act}
    (h : Takes (r.saving path) acts (.done (.ok ()))) :
    ∃ made written written' moved moved', acts = made
        ++ [.changed (.write (besidePath path) r.exportOctets) written written',
          placing path moved moved']
      ∧ (∀ act ∈ made, act.Prepares)
      ∧ written.write (besidePath path) r.exportOctets = .ok written'
      ∧ moved.move (besidePath path) path = .ok moved' := by
  obtain ⟨first, value, rest, rfl, hchanges, hdone⟩ := Program.takes_bind h
  obtain ⟨rfl, hvalue⟩ := Program.takes_done hdone
  cases value with
  | error e => cases hvalue
  | ok =>
    have hsteps := Program.takes_changeAll_ok hchanges
    rw [Registry.saveSteps] at hsteps
    rw [List.append_nil]
    cases hparent : (FilePath.ofText path).bind FilePath.parent? with
    | none =>
      rw [hparent] at hsteps
      rcases hsteps with _ | ⟨⟨written, written', rfl, hwrite⟩,
        _ | ⟨⟨moved, moved', rfl, hmove⟩, ⟨⟩⟩⟩
      exact ⟨[], written, written', moved, moved', rfl, by simp, hwrite, hmove⟩
    | some directory =>
      rw [hparent] at hsteps
      rcases hsteps with _ | ⟨⟨made, made', rfl, hmake⟩,
        _ | ⟨⟨written, written', rfl, hwrite⟩, _ | ⟨⟨moved, moved', rfl, hmove⟩, ⟨⟩⟩⟩⟩
      exact ⟨[_], written, written', moved, moved', rfl, List.forall_mem_singleton.mpr hmake,
        hwrite, hmove⟩

/-- **A registration that reports success** has put its registry in place in its last step,
and what it reports is its server. -/
theorem writes_of_takes {request : Registration} {c : Config} {acts : List Act} {outcome : Outcome}
    (h : Takes ((Command.register request).program c) acts (.done (.ok outcome))) :
    ∃ before moved moved' loaded changed server,
      acts = before ++ [placing c.registryFile moved moved']
        ∧ Writes request c.registryFile loaded changed server before
        ∧ moved.move (besidePath c.registryFile) c.registryFile = .ok moved'
        ∧ outcome = .finished (Report.registered c.registryFile server) := by
  obtain ⟨looked, loaded, rest, rfl, hlook, hrest⟩ := Program.takes_andThen_ok h
  obtain ⟨seen, rfl, hload⟩ := loading_of_takes hlook
  obtain ⟨asked, ⟨result, changed⟩, rest, rfl, hflow, hrest⟩ := Program.takes_bind hrest
  obtain ⟨houtside, events, hrun, hticks⟩ := Program.takes_ofFlow hflow
  cases result with
  | error e =>
    obtain ⟨-, hvalue⟩ := Program.takes_done hrest
    cases hvalue
  | ok server =>
    obtain ⟨saving, value, last, rfl, hsaving, hdone⟩ := Program.takes_andThen_ok hrest
    obtain ⟨rfl, hreport⟩ := Program.takes_done hdone
    obtain ⟨made, written, written', moved, moved', rfl, hmade, hwrite, hmove⟩ :=
      saving_of_takes hsaving
    obtain ⟨schema, read, answered, hserver, hregister, hread, hanswered⟩ :=
      Registration.exists_register_of_among hrun
    have hprepared : ∀ act ∈ asked ++ made, act.Prepares :=
      List.forall_mem_append.mpr ⟨fun act hact => (houtside act hact).prepares, hmade⟩
    have hintrospected := Introspection.isIntrospected_of_takes hanswered
    refine ⟨.looked c.registryFile seen :: (asked ++ made
      ++ [.changed (.write (besidePath c.registryFile) changed.exportOctets) written written']),
      moved, moved', loaded, changed, server, by simp, ?_, hmove, (Except.ok.inj hreport).symm⟩
    exact .written hload ⟨hregister, schema, read, hintrospected, by simp [hticks read hread],
      hserver⟩ hprepared hwrite rfl

section Writes

variable {request : Registration} {path : String} {loaded changed : Registry} {server : Server}
  {acts : List Act}

/-- All steps until a registry can be put in place come before that. -/
theorem Writes.comesBefore (h : Writes request path loaded changed server acts) :
    ∀ act ∈ acts, act.ComesBefore path := by
  obtain ⟨-, -, hprepared, hwrite, rfl⟩ := h
  refine List.forall_mem_cons.mpr ⟨.inl rfl, List.forall_mem_append.mpr
    ⟨fun act hact => .inr (.inl (hprepared act hact)), List.forall_mem_singleton.mpr ?_⟩⟩
  exact .inr (.inr ⟨rfl, hwrite⟩)

/-- The registry that is written is sound. -/
theorem Writes.isSound (h : Writes request path loaded changed server acts)
    (hclock : ∀ now, .ticked now ∈ acts → now.IsDated) : changed.IsSound := by
  obtain ⟨hload, ⟨hregister, schema, read, hschema, hread, rfl⟩, -, -, -⟩ := h
  exact (Registry.isSound_of_load hload).register
    (request.isStorable_server hschema.isStorable (hclock read hread)) hregister

end Writes

/-! ## Two registrations -/

/-- **What is known of two registrations that both report success**, of which `last` puts
its registry in place last: what they report, and what registry is then in the file. -/
structure Overlap (requests : Bool → Registration) (path : String) (d : Disk) (r : Registry)
    (trace : List (Bool × Act)) (left : Disk) (last : Bool) (servers : Bool → Server)
    (final : Registry) : Prop where
  /-- The servers are those that were asked for, with schemas that backends gave. -/
  made : ∀ i, ∃ schema read, schema.IsIntrospected ∧ (i, .ticked read) ∈ trace
    ∧ servers i = (requests i).server schema read
  /-- It is the last one that puts its registry in place last. -/
  placed : Earlier trace (!last) (Act.Places path) last (Act.Places path)
  /-- The file holds a registry. -/
  file : Registry.load left path = .ok final
  /-- Every server is there that was there before. -/
  kept : ∀ id server, r.get id = .ok server → final.get id = .ok server
  /-- The server of the last one is there. -/
  own : final.get (requests last).id = .ok (servers last)
  /-- The other's server is there too if the last one has loaded what the other has put in
  place. -/
  both : Earlier trace (!last) (Act.Places path) last (Act.Loads path) →
    final.get (requests !last).id = .ok (servers !last)
  /-- Otherwise the other's server is lost, where the directory of the file was there. -/
  lost : ¬ Earlier trace (!last) (Act.Places path) last (Act.Loads path) →
    (∃ found, d.locateText path = .ok found) →
    ∀ server, final.get (requests !last).id ≠ .ok server
  /-- No other server is there, where the directory of the file was there. -/
  only : (∃ found, d.locateText path = .ok found) → ∀ id server, final.get id = .ok server →
    r.get id = .ok server ∨ ∃ i, id = (requests i).id ∧ server = servers i

section Together

variable {ι : Type} [DecidableEq ι] {α : ι → Type} {programs ended : ∀ i, Program (α i)}
  {d left : Disk} {path : String} {r : Registry} {before behind : List (ι × Act)} {i : ι}

/-- **What is loaded before a registry is put in place** keeps what was in the file at
first, and is that where the directory of the file was there. -/
theorem load_before_placing {seen : Disk} {loaded : Registry}
    (h : Together programs d (before ++ (i, .looked path seen) :: behind) ended left)
    (hbefore : ∀ step ∈ before, step.2.ComesBefore path)
    (hname : ∀ p, FilePath.ofText path = some p → p.slashed = false)
    (hload : Registry.load d path = .ok r) (hseen : Registry.load seen path = .ok loaded) :
    (∀ id server, r.get id = .ok server → loaded.get id = .ok server)
      ∧ ((∃ found, d.locateText path = .ok found) → loaded = r) := by
  obtain ⟨_, _, hrun, -⟩ := Interleaved.cut h fun _ _ _ _ => Program.Step.of_looked
  have hsame : (∃ found, d.locateText path = .ok found) → loaded = r := by
    rintro ⟨⟨p, place⟩, hfound⟩
    have hstart := Disk.Undisturbed.refl hfound (hname p (Disk.walk_of_locateText hfound).1)
    have hundisturbed := Together.keeps hrun
      (fun step hstep => (hbefore step hstep).keeps_undisturbed d) hstart
    exact Except.ok.inj ((Registry.load_of_undisturbed hundisturbed hseen).symm.trans hload)
  refine ⟨fun id server hget => ?_, hsame⟩
  cases hfound : d.locateText path with
  | ok found => rwa [hsame ⟨found, hfound⟩]
  | error e =>
    -- without a directory there was no file, and so there was no server
    rw [Registry.load, Disk.read, Disk.find, hfound] at hload
    cases e <;> cases hload
    cases hget

end Together

/-- **A run of two registrations, cut where they put their registries in place**: the one
that is not `last` does so first, and has then come to its end. -/
structure InOrder (requests : Bool → Registration) (path : String) (last : Bool)
    (loaded changed : Bool → Registry) (servers : Bool → Server)
    (programs ended : Bool → Program.Fallible Outcome) (d left moved moved' moving moving' : Disk)
    (before between : List (Bool × Act)) : Prop where
  /-- The run. -/
  run : Together programs d (before ++ (!last, placing path moved moved')
    :: (between ++ [(last, placing path moving moving')])) ended left
  /-- The first one has written before it moves. -/
  first : Writes (requests !last) path (loaded !last) (changed !last) (servers !last)
    (own (!last) before)
  /-- The last one has written before it moves. -/
  second : Writes (requests last) path (loaded last) (changed last) (servers last)
    (own last before ++ own last between)
  /-- The first one has nothing left to do. -/
  alone : own (!last) between = []
  /-- The first one moves its file. -/
  move_first : moved.move (besidePath path) path = .ok moved'
  /-- The last one moves its file. -/
  move_last : moving.move (besidePath path) path = .ok moving'

namespace InOrder

variable {requests : Bool → Registration} {programs ended : Bool → Program.Fallible Outcome}
  {d left moved moved' moving moving' : Disk} {path : String} {r : Registry} {last : Bool}
  {before between : List (Bool × Act)} {loaded changed : Bool → Registry} {servers : Bool → Server}

/-- Steps that the first one has no part in are the last one's. -/
theorem eq_last_of_alone {steps : List (Bool × Act)} (h : own (!last) steps = []) {i : Bool}
    {act : Act} (hstep : (i, act) ∈ steps) : i = last := by
  rcases Bool.eq_or_eq_not i last with hi | rfl
  · exact hi
  · exact absurd (h ▸ mem_own.mpr hstep) List.not_mem_nil

/-- Steps that neither has a part in are none. -/
theorem eq_nil_of_alone {steps : List (Bool × Act)} (h : own (!last) steps = [])
    (hlast : own last steps = []) : steps = [] :=
  eq_nil_of_own fun i => by
    rcases Bool.eq_or_eq_not i last with rfl | rfl
    · exact hlast
    · exact h

variable (h : InOrder requests path last loaded changed servers programs ended d left moved moved'
  moving moving' before between)

include h

/-- Nobody puts a registry in place before the first one does. -/
theorem comesBefore : ∀ step ∈ before, step.2.ComesBefore path := by
  rintro ⟨i, act⟩ hstep
  rcases Bool.eq_or_eq_not i last with rfl | rfl
  · exact h.second.comesBefore act (List.mem_append_left _ (mem_own.mpr hstep))
  · exact h.first.comesBefore act (mem_own.mpr hstep)

/-- **What the last one does not end holds when the first one moves its file** if it holds
when that was written. -/
theorem holds_at_move {P : Disk → Prop} (hacts : ∀ act ∈ own last before, act.Keeps P)
    (hP : ∀ written, written.find (besidePath path) = .ok (.file (changed !last).exportOctets) →
      P written) : P moved := by
  obtain ⟨-, -, -, hwrite, hown⟩ := h.first
  rw [← List.cons_append] at hown
  obtain ⟨x, y, rfl, -, hy⟩ := exists_append_of_own hown
  have hrun := h.run
  rw [List.append_assoc, List.cons_append] at hrun
  refine Together.keeps_between hrun (fun ⟨i, act⟩ hstep => ?_) (hP _ (Disk.find_write hwrite))
  obtain rfl := eq_last_of_alone hy hstep
  exact hacts act (mem_own.mpr (by simp [hstep]))

/-- **The last one writes after the first one has moved.** Otherwise there would be no file
left for it to move. -/
theorem own_between_ne_nil : own last between ≠ [] := by
  intro hnone
  obtain rfl := eq_nil_of_alone h.alone hnone
  obtain ⟨octets, hfile⟩ : ∃ octets, moved.find (besidePath path) = .ok (.file octets) :=
    h.holds_at_move
      (fun act hact => (h.second.comesBefore act (List.mem_append_left _ hact)).keeps_beside)
      fun _ hfile => ⟨_, hfile⟩
  obtain rfl : moving = moved' := Together.keeps_between (P := (· = moved')) h.run (by simp) rfl
  exact Disk.move_beside_of_moved hfile h.move_first _ h.move_last

/-- **How the last one goes on when the first one has moved its file**: it writes last, and
what it did before is a load and preparations. -/
theorem exists_turn : ∃ seen turn prepared written written',
    own last before ++ turn = .looked path seen :: prepared
      ∧ own last between = turn
        ++ [.changed (.write (besidePath path) (changed last).exportOctets) written written']
      ∧ Registry.load seen path = .ok (loaded last)
      ∧ (∀ act ∈ prepared, act.Prepares)
      ∧ written.write (besidePath path) (changed last).exportOctets = .ok written' := by
  obtain ⟨hload, -, hprepared, hwrite, hown⟩ := h.second
  rcases List.eq_nil_or_concat (own last between) with hnil | ⟨turn, act, hturn⟩
  · exact absurd hnil h.own_between_ne_nil
  · rw [List.concat_eq_append] at hturn
    rw [hturn, ← List.append_assoc, ← List.cons_append] at hown
    obtain ⟨hturns, hact⟩ := List.append_inj' hown rfl
    obtain rfl := (List.cons.inj hact).1
    exact ⟨_, turn, _, _, _, hturns, hturn, hload, hprepared, hwrite⟩

/-- The run behind the first move. -/
theorem run_behind : ∃ next, Together next moved' (between ++ [(last, placing path moving moving')])
    ended left := by
  obtain ⟨_, next, -, hrest⟩ := Interleaved.cut h.run fun _ _ _ _ => Program.Step.of_changed
  exact ⟨next, hrest⟩

/-- **What the first one has put in place** is its registry. -/
theorem find_first : moved'.find path = .ok (.file (changed !last).exportOctets) := by
  obtain ⟨seen, turn, prepared, -, -, hturn, -, -, hprepared, -⟩ := h.exists_turn
  refine Disk.find_move (h.holds_at_move (fun act hact => ?_) fun _ => id) h.move_first
  -- the last one has not written yet
  have hmem : act ∈ .looked path seen :: prepared := hturn ▸ List.mem_append_left turn hact
  rcases List.mem_cons.mp hmem with rfl | hmem
  · trivial
  · exact (hprepared act hmem).keeps_file _ _

/-- **What the last one has put in place** is its registry. -/
theorem find_last : left.find path = .ok (.file (changed last).exportOctets) := by
  obtain ⟨-, turn, -, written, written', -, hbetween, -, -, hwrite⟩ := h.exists_turn
  obtain ⟨x, y, rfl, -, hlast⟩ := exists_append_of_own hbetween
  have halone := h.alone
  rw [own_append, List.append_eq_nil_iff, own_cons_of_ne (by simp)] at halone
  -- nothing is done between the writing and the moving
  obtain rfl := eq_nil_of_alone halone.2 hlast
  obtain ⟨next, hrest⟩ := h.run_behind
  rw [List.append_assoc] at hrest
  obtain ⟨_, _, -, hrest⟩ := Interleaved.cut hrest fun _ _ _ _ => Program.Step.of_changed
  cases hrest with
  | cons hstep hnil =>
    obtain ⟨rfl, rfl⟩ := hstep.of_changed
    cases hnil
    exact Disk.find_move (Disk.find_write hwrite) h.move_last

variable (hclock : ∀ i now, (i, .ticked now) ∈ before ++ between → now.IsDated)

include hclock

/-- What the first one has put in place is loaded as its registry. -/
theorem load_first : Registry.load moved' path = .ok (changed !last) := by
  refine (h.first.isSound fun now hnow => hclock (!last) now ?_).load_eq
    (Disk.read_eq_of_find h.find_first)
  exact List.mem_append_left _ (mem_own.mp hnow)

/-- What the last one has put in place is loaded as its registry. -/
theorem load_last : Registry.load left path = .ok (changed last) := by
  refine (h.second.isSound fun now hnow => hclock last now ?_).load_eq
    (Disk.read_eq_of_find h.find_last)
  rwa [← own_append, mem_own] at hnow

omit hclock

/-- **When the last one has loaded**: what the first one has put in place, or before
that. -/
theorem load_cases (hclock : ∀ i now, (i, .ticked now) ∈ before ++ between → now.IsDated) :
    let trace := before ++ (!last, placing path moved moved')
      :: (between ++ [(last, placing path moving moving')])
    let loadsLater := Earlier trace (!last) (Act.Places path) last (Act.Loads path)
    loadsLater ∧ loaded last = changed !last
      ∨ ¬ loadsLater ∧ ∃ seen later, own last before = .looked path seen :: later
        ∧ Registry.load seen path = .ok (loaded last) := by
  obtain ⟨seen, turn, prepared, written, written', hturn, hbetween, hseen, hprepared, -⟩ :=
    h.exists_turn
  cases hbefore : own last before with
  | nil =>
    rw [hbefore, List.nil_append] at hturn
    subst hturn
    -- the first of its steps is the first behind the first move
    obtain ⟨x, y, rfl, hx, -⟩ := exists_append_of_own (hbetween.trans (List.nil_append _).symm)
    have halone := h.alone
    rw [own_append, List.append_eq_nil_iff] at halone
    obtain rfl := eq_nil_of_alone halone.1 hx
    refine .inl ⟨⟨before ++ [(!last, placing path moved moved')], _, (List.append_cons ..),
      ⟨placing path moved moved', by simp, rfl, rfl⟩, ⟨.looked path seen, by simp, rfl⟩⟩, ?_⟩
    obtain ⟨next, hrest⟩ := h.run_behind
    cases hrest with
    | cons hstep _ =>
      obtain ⟨rfl, -⟩ := hstep.of_looked
      exact Except.ok.inj (hseen.symm.trans (h.load_first hclock))
  | cons act later =>
    rw [hbefore, List.cons_append] at hturn
    obtain ⟨rfl, rfl⟩ := List.cons.inj hturn
    refine .inr ⟨not_earlier (fun act hact => (h.comesBefore _ hact).not_places)
      fun act hact => ?_, seen, later, rfl, hseen⟩
    rcases List.mem_cons.mp hact with hact | hact
    · exact ((Bool.eq_not_self last).mp (Prod.mk.inj hact).1).elim
    rcases List.mem_append.mp hact with hact | hact
    · rw [← mem_own, hbetween] at hact
      rcases List.mem_append.mp hact with hact | hact
      · exact (hprepared act (List.mem_append_right _ hact)).not_loads path
      · obtain rfl := List.mem_singleton.mp hact
        exact id
    · obtain rfl := (Prod.mk.inj (List.mem_singleton.mp hact)).2
      exact id

variable (hload : Registry.load d path = .ok r)

include hload

/-- **What is loaded before the first one moves its file** keeps what was in the file at
first, and is that where the directory of the file was there. -/
theorem load_before {i : Bool} {seen : Disk} {later : List Act} {loaded : Registry}
    (hown : own i before = .looked path seen :: later)
    (hseen : Registry.load seen path = .ok loaded) :
    (∀ id server, r.get id = .ok server → loaded.get id = .ok server)
      ∧ ((∃ found, d.locateText path = .ok found) → loaded = r) := by
  -- a registry can be put in place at the path, so it is that of a file
  obtain ⟨p, place, hlocate, -, hslashed⟩ := Disk.find_eq_file_iff.mp h.find_first
  have hname : ∀ other, FilePath.ofText path = some other → other.slashed = false := by
    intro other hother
    obtain rfl := Option.some.inj (hother.symm.trans (Disk.walk_of_locateText hlocate).1)
    exact hslashed
  have hcomes := h.comesBefore
  have hrun := h.run
  obtain ⟨x, y, rfl, -, -⟩ := exists_append_of_own (hown.trans (List.nil_append _).symm)
  rw [List.append_assoc, List.cons_append] at hrun
  exact load_before_placing hrun (fun step hstep => hcomes step (List.mem_append_left _ hstep))
    hname hload hseen

/-- The first one keeps what was in the file. -/
theorem first_keeps {id : String} {server : Server} (hget : r.get id = .ok server) :
    (changed !last).get id = .ok server := by
  obtain ⟨hseen, hmakes, -, -, hown⟩ := h.first
  exact Registry.get_eq_of_register hmakes.register
    ((h.load_before hload hown hseen).1 id server hget)

omit hload

/-- What each of them makes of the registry that it has loaded, in steps of the run. -/
theorem makes (i : Bool) : ∃ acts, Makes (requests i) acts (loaded i) (changed i) (servers i)
    ∧ ∀ act ∈ acts, (i, act) ∈ before ++ between := by
  rcases Bool.eq_or_eq_not i last with rfl | rfl
  · obtain ⟨-, hmakes, -, -, -⟩ := h.second
    exact ⟨_, hmakes, fun act hact => by rwa [← mem_own, own_append]⟩
  · obtain ⟨-, hmakes, -, -, -⟩ := h.first
    exact ⟨_, hmakes, fun act hact => List.mem_append_left _ (mem_own.mp hact)⟩

/-- **What the file holds when both have moved theirs.** -/
theorem overlap (hload : Registry.load d path = .ok r)
    (hclock : ∀ i now, (i, .ticked now) ∈ before ++ between → now.IsDated)
    (hids : (requests !last).id ≠ (requests last).id)
    (hfree : ∀ existing, r.get (requests !last).id ≠ .ok existing) :
    Overlap requests path d r (before ++ (!last, placing path moved moved')
      :: (between ++ [(last, placing path moving moving')])) left last servers (changed last) := by
  obtain ⟨acts, hmakes, -⟩ := h.makes last
  obtain ⟨acts', hmakes', -⟩ := h.makes (!last)
  have hget := Registry.get_of_register hmakes.register
  have hget' := Registry.get_of_register hmakes'.register
  rw [hmakes.id_eq] at hget
  rw [hmakes'.id_eq] at hget'
  obtain ⟨hseen, -, -, -, hown⟩ := h.first
  have hfirst := h.load_before hload hown hseen
  refine {
    made := fun i => ?_
    placed := ⟨before ++ [(!last, placing path moved moved')], _, List.append_cons ..,
      ⟨placing path moved moved', by simp, rfl, rfl⟩,
      ⟨placing path moving moving', by simp, rfl, rfl⟩⟩
    file := h.load_last hclock
    own := by rw [hget, if_pos rfl]
    kept := fun id server hr => ?_
    both := fun hlater => ?_
    lost := fun hearlier hfound server => ?_
    only := fun hfound id server hfinal => ?_ }
  · obtain ⟨acts, ⟨-, schema, read, hschema, hread, hserver⟩, hmem⟩ := h.makes i
    refine ⟨schema, read, hschema, ?_, hserver⟩
    rcases List.mem_append.mp (hmem _ hread) with hmem | hmem <;> simp [hmem]
  · refine Registry.get_eq_of_register hmakes.register ?_
    rcases h.load_cases hclock with ⟨-, hsame⟩ | ⟨-, seen, later, hown, hseen⟩
    · exact hsame ▸ h.first_keeps hload hr
    · exact (h.load_before hload hown hseen).1 id server hr
  · rcases h.load_cases hclock with ⟨-, hsame⟩ | ⟨hearlier, -⟩
    · refine Registry.get_eq_of_register hmakes.register ?_
      rw [hsame, hget', if_pos rfl]
    · exact absurd hlater hearlier
  · rcases h.load_cases hclock with ⟨hlater, -⟩ | ⟨-, seen, later, hown, hseen⟩
    · exact absurd hlater hearlier
    · rw [hget, if_neg hids, (h.load_before hload hown hseen).2 hfound]
      exact hfree server
  · rw [hget] at hfinal
    split at hfinal
    · next hid => exact .inr ⟨last, hid, (Except.ok.inj hfinal).symm⟩
    rcases h.load_cases hclock with ⟨-, hsame⟩ | ⟨-, seen, later, hown, hseen⟩
    · rw [hsame, hget', hfirst.2 hfound] at hfinal
      split at hfinal
      · next hid => exact .inr ⟨!last, hid, (Except.ok.inj hfinal).symm⟩
      · exact .inl hfinal
    · exact .inl ((h.load_before hload hown hseen).2 hfound ▸ hfinal)

end InOrder

/-- **Two registrations of different servers that both report success**, taking their
steps in any order on one registry file. The file then holds what was in it at first and
the server of the one that has put its registry in place last. It holds the other's
server too if that one has loaded the file behind the other's placing, and if not, the
other's server is lost. -/
theorem twoRegistrations_together {requests : Bool → Registration} {configs : Bool → Config}
    {ended : Bool → Program.Fallible Outcome} {path : String} {d left : Disk} {r : Registry}
    {trace : List (Bool × Act)}
    (h : Together (fun i => (Command.register (requests i)).program (configs i)) d trace ended left)
    (hsuccess : ∀ i, ∃ outcome, ended i = .done (.ok outcome))
    (hpath : ∀ i, (configs i).registryFile = path) (hload : Registry.load d path = .ok r)
    (hids : (requests true).id ≠ (requests false).id)
    (hfree : ∀ i existing, r.get (requests i).id ≠ .ok existing)
    (hclock : ∀ i now, (i, .ticked now) ∈ trace → now.IsDated) :
    ∃ last servers final,
      (∀ i, ended i = .done (.ok (.finished (Report.registered path (servers i)))))
        ∧ Overlap requests path d r trace left last servers final := by
  -- what each of them did by itself
  have hway : ∀ i, ∃ before moved moved' loaded changed server,
      own i trace = before ++ [placing path moved moved']
        ∧ Writes (requests i) path loaded changed server before
        ∧ moved.move (besidePath path) path = .ok moved'
        ∧ ended i = .done (.ok (.finished (Report.registered path server))) := by
    intro i
    obtain ⟨outcome, hended⟩ := hsuccess i
    have htakes := Interleaved.taken h i
    rw [hended] at htakes
    obtain ⟨before, moved, moved', loaded, changed, server, hown, hwrites, hmove, rfl⟩ :=
      writes_of_takes htakes
    rw [hpath i] at hown hwrites hmove hended
    exact ⟨before, moved, moved', loaded, changed, server, hown, hwrites, hmove, hended⟩
  choose written moved moved' loaded changed servers hown hwrites hmove hreport using hway
  -- whoever is the last one, the run is cut where they move their files
  have hlast : ∀ last x between y, trace = x ++ (!last, placing path (moved !last) (moved' !last))
      :: (between ++ (last, placing path (moved last) (moved' last)) :: y) →
      own (!last) x = written (!last) →
      own last (x ++ (!last, placing path (moved !last) (moved' !last)) :: between) = written last →
      own (!last) (between ++ (last, placing path (moved last) (moved' last)) :: y) = [] →
      own last y = [] → Overlap requests path d r trace left last servers (changed last) := by
    rintro last x between y rfl hx hx' halone hy
    rw [own_append, List.append_eq_nil_iff, own_cons_of_ne (by simp)] at halone
    obtain rfl := InOrder.eq_nil_of_alone halone.2 hy
    have horder : InOrder requests path last loaded changed servers _ ended d left _ _ _ _ x
        between := {
      run := h
      first := hx ▸ hwrites (!last)
      second := by
        rw [own_append, own_cons_of_ne (by simp)] at hx'
        exact hx' ▸ hwrites last
      alone := halone.1
      move_first := hmove (!last)
      move_last := hmove last }
    refine horder.overlap hload (fun i now hnow => hclock i now ?_) ?_ (hfree !last)
    · rcases List.mem_append.mp hnow with hnow | hnow <;> simp [hnow]
    · cases last
      · exact hids
      · exact hids.symm
  obtain ⟨x, y, htrue, hx, hy⟩ := exists_append_of_own (hown true)
  obtain ⟨x', y', hfalse, hx', hy'⟩ := exists_append_of_own (hown false)
  rcases append_cons_cases Bool.true_eq_false.mp (htrue.symm.trans hfalse) with
    ⟨between, rfl, rfl⟩ | ⟨between, rfl, rfl⟩
  · exact ⟨false, servers, _, hreport, hlast false x between y' htrue hx hx' hy hy'⟩
  · exact ⟨true, servers, _, hreport, hlast true x' between y hfalse hx' hx hy' hy⟩

/-! ## Two registrations that overlap -/

/-- Two registrations of different servers. -/
def overlapping : Bool → Registration
  | false => exampleRegistration
  | true => { id := "b", name := "B", endpoint := "http://b/graphql", description := "" }

/-- Both come to the point where they have a server to write, and then each of them writes
its registry and puts it in place. -/
def overlappingSchedule : List Bool :=
  List.replicate 6 false ++ List.replicate 6 true ++ [false, false, true, true]

/-- The run of this schedule, where there is no file yet. -/
def overlappingRun :
    List (Bool × Act) × (Bool → Program (Except GatewayError Outcome)) × Program.Run :=
  Program.byTurns exampleWorld overlappingSchedule
    (fun i => (Command.register (overlapping i)).program .default) ⟨.empty, [], 0⟩

/-- This is a run of the two. -/
theorem together_overlappingRun :
    Together (fun i => (Command.register (overlapping i)).program .default) .empty
      overlappingRun.1 overlappingRun.2.1 overlappingRun.2.2.disk := by
  unfold overlappingRun
  exact Program.together_byTurns exampleWorld overlappingSchedule
    (fun i => (Command.register (overlapping i)).program .default) ⟨.empty, [], 0⟩

/-- Both report success. -/
theorem success_overlappingRun (i : Bool) :
    ∃ outcome, overlappingRun.2.1 i = .done (.ok outcome) := by
  have hresult : (overlappingRun.2.1 i).result?.map Except.isOk = some true := by
    cases i <;> decide +kernel
  obtain ⟨result, hresult, hok⟩ := Option.map_eq_some_iff.mp hresult
  cases result with
  | error e => cases hok
  | ok outcome => exact ⟨outcome, Program.eq_done_of_result? hresult⟩

/-- All that is read of the clock has a timestamp. -/
theorem isDated_overlappingRun (i : Bool) (now : Instant)
    (h : (i, .ticked now) ∈ overlappingRun.1) : now.IsDated := by
  unfold overlappingRun at h
  obtain ⟨n, rfl⟩ := Program.exists_clock_of_byTurns h
  show Instant.IsDated ⟨1700000000, 0⟩
  decide

/-- The registry of the one that moves last. -/
def laterRegistry : Registry :=
  ⟨[("b", (overlapping true).server Registry.exampleSchema ⟨1700000000, 0⟩)]⟩

set_option maxRecDepth 2000 in
/-- Its text is in the file. -/
theorem find_overlappingRun : overlappingRun.2.2.disk.find Config.default.registryFile
    = .ok (.file laterRegistry.exportOctets) := by
  rfl

/-- It is what the file holds. -/
theorem load_overlappingRun :
    Registry.load overlappingRun.2.2.disk Config.default.registryFile = .ok laterRegistry := by
  have hsound : laterRegistry.IsSound :=
    Registry.isSound_empty.register ((overlapping true).isStorable_server
      Registry.isIntrospected_exampleSchema.isStorable (by decide)) rfl
  exact hsound.load_eq (Disk.read_eq_of_find find_overlappingRun)

/-- The file that is left by two registrations that overlap. -/
theorem twoRegistrations_together_overlapping :
    ∃ last servers final,
      (∀ i, overlappingRun.2.1 i = .done (.ok (.finished
        (Report.registered Config.default.registryFile (servers i)))))
      ∧ Overlap overlapping Config.default.registryFile .empty .empty overlappingRun.1
        overlappingRun.2.2.disk last servers final :=
  @twoRegistrations_together overlapping (fun _ => .default) overlappingRun.2.1
    Config.default.registryFile .empty overlappingRun.2.2.disk .empty overlappingRun.1
    together_overlappingRun success_overlappingRun (fun _ => rfl) load_empty (by decide)
    (fun _ _ h => by cases h) isDated_overlappingRun

/-- **A registration can be lost**: two registrations of different servers report success, and
one of the servers is not in the file. -/
theorem not_registered_together :
    ¬ ∀ (requests : Bool → Registration) (configs : Bool → Config)
      (ended : Bool → Program.Fallible Outcome) (path : String) (d left : Disk) (r : Registry)
      (trace : List (Bool × Act)),
      Together (fun i => (Command.register (requests i)).program (configs i)) d trace ended left →
      (∀ i, ∃ outcome, ended i = .done (.ok outcome)) →
      (∀ i, (configs i).registryFile = path) → Registry.load d path = .ok r →
      (requests true).id ≠ (requests false).id →
      (∀ i existing, r.get (requests i).id ≠ .ok existing) →
      (∀ i now, (i, .ticked now) ∈ trace → now.IsDated) →
        ∃ final, Registry.load left path = .ok final
          ∧ (∀ id server, r.get id = .ok server → final.get id = .ok server)
          ∧ ∀ i, ∃ server, final.get (requests i).id = .ok server := by
  intro h
  obtain ⟨final, hfile, -, hboth⟩ := h overlapping (fun _ => .default) overlappingRun.2.1
    Config.default.registryFile .empty overlappingRun.2.2.disk .empty overlappingRun.1
    together_overlappingRun success_overlappingRun (fun _ => rfl) load_empty (by decide)
    (fun _ _ h => by cases h) isDated_overlappingRun
  obtain rfl := Except.ok.inj (hfile.symm.trans load_overlappingRun)
  obtain ⟨server, hserver⟩ := hboth false
  cases hserver

end Command

end GraphGateway
