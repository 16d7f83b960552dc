import TrialFarm.Proofs.Cluster.Delivery
import TrialFarm.Proofs.Cluster.Enrollment
import TrialFarm.Proofs.Server.Shapes

/-!
# Accord

The invariant of a cluster: the server is in balance, the sites are of the tasks it knows, and every
worker on the roster is tied to what the roster says.

## Main definitions

* `Accord`: the invariant, of a server and all sites.

## Main statements

* `Accord.held_add_le`: the threads bound what is out of a task.
* `Accord.change`, `Accord.announce`, `Accord.take`: what happens at one site, announcements, and
  what the server hears keep it.
-/

namespace TrialFarm

/-- Server and sites are in accord. -/
structure Accord (shape : String → UInt64 × UInt64) (server : ServerState) (sites : List Site) :
    Prop where
  balanced : server.Balanced
  /-- Every worker that ever joined has a site. -/
  numbered : server.roster.nextId.toNat = sites.length
  few : Site.allThreads sites < 2 ^ 32
  staffed : ∀ s ∈ sites, 1 ≤ s.threads
  shaped : server.scheduler.Shaped shape
  honest : ∀ s ∈ sites, s.Honest server.scheduler.file? shape
  enrolled : ∀ (i : Nat) s w, sites[i]? = some s →
    server.roster.find? (UInt64.ofNat i) = some w →
    s.Enrolled server.workersTerminated w.outstanding

namespace Accord

variable {shape : String → UInt64 × UInt64} {server server' : ServerState}
  {sites sites' : List Site} {s : Site} {w : Worker} {i : Nat} {id : WorkerId}

/-- A server without workers is in accord with no sites. -/
theorem start (c : ServerConfig) : Accord shape (ServerState.start c) [] where
  balanced := ServerState.Balanced.start c
  numbered := rfl
  few := by decide
  staffed _ member := nomatch member
  shaped id t found := by
    have : (#[] : Array Task)[id.toNat]? = some t := found
    simp at this
  honest _ member := nomatch member
  enrolled _ _ _ here := nomatch here

/-- A step that keeps all sites in their places keeps the accord if every site stays as it has to
be. -/
theorem update (accord : Accord shape server sites) (balanced : server'.Balanced)
    (nextId : server'.roster.nextId = server.roster.nextId)
    (shaped : server'.scheduler.Shaped shape) (length : sites'.length = sites.length)
    (each : ∀ (i : Nat) s', sites'[i]? = some s' → ∃ s, sites[i]? = some s ∧
      s'.threads = s.threads ∧ s'.Honest server'.scheduler.file? shape ∧
      ∀ w', server'.roster.find? (UInt64.ofNat i) = some w' →
        s'.Enrolled server'.workersTerminated w'.outstanding) :
    Accord shape server' sites' := by
  have threads := Site.allThreads_congr length fun i s' here => by
    obtain ⟨s, before, same, -⟩ := each i s' here
    exact ⟨s, before, same⟩
  have places : ∀ s' ∈ sites', ∃ i : Nat, sites'[i]? = some s' := fun s' member =>
    List.getElem?_of_mem member
  refine ⟨balanced, ?_, threads ▸ accord.few, fun s' member => ?_, shaped, fun s' member => ?_,
    fun i s' w' here found => ?_⟩
  · rw [nextId, accord.numbered, length]
  · obtain ⟨i, here⟩ := places s' member
    obtain ⟨s, here, same, -⟩ := each i s' here
    rw [same]
    exact accord.staffed s (List.mem_of_getElem? here)
  · obtain ⟨i, here⟩ := places s' member
    obtain ⟨-, -, -, honest, -⟩ := each i s' here
    exact honest
  · obtain ⟨-, -, -, -, enrolled⟩ := each i s' here
    exact enrolled w' found

/-! ### Numbers -/

/-- A sum over the positions of a list is bounded by the sum over its members when each term is. -/
theorem sum_range_le {α : Type} (g : Nat → Nat) (l : List α) (f : α → Nat)
    (le : ∀ j a, l[j]? = some a → g j ≤ f a) :
    ((List.range l.length).map g).sum ≤ (l.map f).sum := by
  induction l generalizing g with
  | nil => exact Nat.le_refl 0
  | cons a l ih =>
    have first := le 0 a rfl
    have rest := ih (fun j => g (j + 1)) fun j b here => le (j + 1) b here
    rw [List.length_cons, List.range_succ_eq_map, List.map_cons, List.sum_cons, List.map_map,
      List.map_cons, List.sum_cons]
    exact Nat.add_le_add first rest

/-- There are fewer workers than a word counts, since each has a thread. -/
theorem length_lt (accord : Accord shape server sites) : sites.length < 2 ^ 32 := by
  have enough := List.length_le_sum_of_one_le (sites.map Site.threads) (by
    intro n member
    obtain ⟨s, inside, rfl⟩ := List.mem_map.mp member
    exact accord.staffed s inside)
  rw [List.length_map] at enough
  exact Nat.lt_of_le_of_lt enough accord.few

/-- A worker on the roster has a site. -/
theorem site_of_find? (accord : Accord shape server sites)
    (found : server.roster.find? id = some w) :
    ∃ s, sites[id.toNat]? = some s ∧ UInt64.ofNat id.toNat = id := by
  have before := accord.balanced.roster.given id (Roster.mem_ids_of_find? found)
  rw [UInt64.lt_iff_toNat_lt, accord.numbered] at before
  exact ⟨sites[id.toNat], List.getElem?_eq_getElem before, UInt64.ofNat_toNat⟩

/-- No worker holds more trials of a task than it has threads. -/
theorem heldBy_le (accord : Accord shape server sites) (here : sites[i]? = some s)
    (task : TaskId) : server.roster.heldBy (UInt64.ofNat i) task ≤ s.threads := by
  cases found : server.roster.find? (UInt64.ofNat i) with
  | none =>
    rw [Roster.heldBy_of_gone found]
    exact Nat.zero_le _
  | some w =>
    rw [Roster.heldBy_of_find? found]
    have fits := (accord.enrolled i s w here found).tied.fits
    exact Nat.le_trans (Holdings.held_le_load _ task) fits

/-- Every worker on the roster has a place among the sites, so what is out of a task is found there
too. -/
theorem held_le_sum (accord : Accord shape server sites) (task : TaskId) :
    server.roster.held task ≤
      ((List.range sites.length).map fun j =>
        server.roster.heldBy (UInt64.ofNat j) task).sum := by
  have kept := accord.balanced.roster
  have places : server.roster.ids.Subperm ((List.range sites.length).map UInt64.ofNat) := by
    refine List.subperm_of_subset kept.distinct fun id member => ?_
    obtain ⟨w, found⟩ := Roster.find?_isSome_iff.mpr member
    obtain ⟨s, here, same⟩ := accord.site_of_find? found
    refine List.mem_map.mpr ⟨id.toNat, List.mem_range.mpr ?_, same⟩
    exact (List.getElem?_eq_some_iff.mp here).1
  rw [← Roster.sum_heldBy kept]
  obtain ⟨ids, perm, sublist⟩ := places
  rw [← (perm.map _).sum_eq]
  have := (sublist.map fun id => server.roster.heldBy id task).sum_le_sum fun _ _ => Nat.zero_le _
  rwa [List.map_map] at this

/-- The threads of all workers bound what is out of a task, also after a worker was granted what it
has threads for. -/
theorem held_add_le (accord : Accord shape server sites) (here : sites[i]? = some s)
    (found : server.roster.find? (UInt64.ofNat i) = some w) {n : Nat}
    (room : w.outstanding.load + n ≤ s.threads) (task : TaskId) :
    server.roster.held task + n < 2 ^ 32 := by
  have inside := (List.getElem?_eq_some_iff.mp here).1
  have part := accord.held_le_sum task
  -- The grant is added at its own worker, whose threads bound it together with what it held.
  let after (j : Nat) : Nat :=
    if j = i then server.roster.heldBy (UInt64.ofNat j) task + n
    else server.roster.heldBy (UInt64.ofNat j) task
  have raised : _ + n ≤ ((List.range sites.length).map after).sum :=
    sum_raise (List.mem_range.mpr inside)
      (fun j => server.roster.heldBy (UInt64.ofNat j) task) n
  have bounded := sum_range_le after sites Site.threads (by
    intro j t there
    by_cases own : j = i
    · subst own
      rw [here] at there
      obtain rfl := Option.some.inj there
      have := Holdings.held_le_load w.outstanding task
      show ite _ _ _ ≤ _
      rw [if_pos rfl, Roster.heldBy_of_find? found]
      omega
    · show ite _ _ _ ≤ _
      rw [if_neg own]
      exact accord.heldBy_le there task)
  have := Nat.lt_of_le_of_lt bounded accord.few
  omega

/-! ### Steps that keep it -/

/-- Something happens at one site. -/
theorem change (accord : Accord shape server sites) (i : Nat) {f : Site → Site}
    (each : ∀ s, sites[i]? = some s → (f s).threads = s.threads ∧
      (f s).Honest server.scheduler.file? shape ∧
      ∀ h, s.Enrolled server.workersTerminated h → (f s).Enrolled server.workersTerminated h) :
    Accord shape server (sites.modify i f) := by
  refine accord.update accord.balanced rfl accord.shaped (List.length_modify ..) fun j s' here => ?_
  rw [List.getElem?_modify] at here
  obtain ⟨s, before, rfl⟩ := Option.map_eq_some_iff.mp here
  refine ⟨s, before, ?_⟩
  split
  · next same =>
    subst same
    obtain ⟨threads, honest, enrolled⟩ := each s before
    exact ⟨threads, honest, fun w found => enrolled _ (accord.enrolled i s w before found)⟩
  · exact ⟨rfl, accord.honest s (List.mem_of_getElem? before),
      fun w => accord.enrolled j s w before⟩

/-- The server announces something to all that it concerns. -/
theorem announce (accord : Accord shape server sites) (said : server.Announces server')
    {extra : List Action} (out : server'.outbound = server.outbound ++ extra) :
    Accord shape server' (Site.carryAll extra sites) := by
  obtain ⟨extra', out', plain, told⟩ := said.outbound
  obtain rfl := List.append_cancel_left (out.symm.trans out')
  refine accord.update (said.balanced accord.balanced) said.roster.nextId
    (said.scheduler ▸ accord.shaped) List.length_mapIdx fun i s' here => ?_
  rw [Site.carryAll, List.getElem?_mapIdx] at here
  obtain ⟨s, before, rfl⟩ := Option.map_eq_some_iff.mp here
  rw [Site.carry_announcements plain]
  have silent : ∀ m ∈ messagesTo (UInt64.ofNat i) extra, m.isGrant = false :=
    Site.announced_no_grant plain
  refine ⟨s, before, rfl, ?_, fun w found => ?_⟩
  · rw [said.scheduler]
    exact (accord.honest s (List.mem_of_getElem? before)).announced silent
  · obtain ⟨w₀, found₀, same⟩ := said.roster.find? found
    have enrolled := accord.enrolled i s w₀ before found₀
    rw [← same]
    refine ⟨enrolled.tied.announced silent, enrolled.present, fun now flowing => ?_⟩
    rcases told now with already | here
    · exact (enrolled.told already flowing).announced
    · refine Or.inl ?_
      rw [Pipe.waiting_putAll (enrolled.tied.linked flowing)]
      refine List.mem_append_right _ (mem_messagesTo.mpr (here _ ?_))
      exact Roster.mem_ids_of_find? found₀

/-- The server takes what comes out of the pipe of a worker, and may answer. -/
theorem take (accord : Accord shape server sites) (here : sites[i]? = some s)
    {part : Parting WorkerMessage} {rest : Pipe WorkerMessage} {p : Pipe ServerMessage}
    (came : s.toServer.next = some (part, rest))
    (core : server.Core (Cluster.heard (UInt64.ofNat i) part) server')
    (honest : Site.Honest server.scheduler.file? shape
      { s with toServer := rest, toWorker := p })
    (enrolled : ∀ w, server'.roster.find? (UInt64.ofNat i) = some w →
      Site.Enrolled { s with toServer := rest, toWorker := p } server.workersTerminated
        w.outstanding) :
    Accord shape server'
      (sites.set i { s with toServer := rest, toWorker := p }) := by
  have inside := (List.getElem?_eq_some_iff.mp here).1
  have few := accord.length_lt
  have about : (Cluster.heard (UInt64.ofNat i) part).worker? = some (UInt64.ofNat i) := by
    cases part with
    | message m => rfl
    | close => rfl
  have stays : (Cluster.heard (UInt64.ofNat i) part).isJoin = false := by
    cases part with
    | message m => rfl
    | close => rfl
  have shaped := core.shaped accord.shaped fun id r same file known => by
    cases part with
    | close => cases same
    | message m =>
      simp only [Cluster.heard, StateEvent.said.injEq] at same
      obtain ⟨-, rfl⟩ := same
      obtain ⟨-, file', known', fair⟩ :=
        (accord.honest s (List.mem_of_getElem? here)).reports r
          ((Pipe.next_eq_message came).1 ▸ List.mem_cons_self ..)
      rw [known] at known'
      rw [Option.some.inj known']
      exact fair
  refine accord.update (core.balanced accord.balanced (.of_stays stays)) (core.nextId stays) shaped
    List.length_set fun j t found => ?_
  rw [core.workersTerminated]
  by_cases same : i = j
  · subst same
    rw [List.getElem?_set_self inside] at found
    obtain rfl := Option.some.inj found
    exact ⟨s, here, rfl, honest.mono fun _ _ => core.file?, enrolled⟩
  · rw [List.getElem?_set_ne same] at found
    have honest' := accord.honest t (List.mem_of_getElem? found)
    refine ⟨t, found, rfl, honest'.mono fun _ _ => core.file?, fun w known => ?_⟩
    have before := (List.getElem?_eq_some_iff.mp found).1
    have apart : (Cluster.heard (UInt64.ofNat i) part).worker? ≠ some (UInt64.ofNat j) := by
      rw [about, Ne, Option.some.injEq]
      exact (number_ne (by omega) (by omega) same).symm
    rw [core.find?_other stays apart] at known
    exact accord.enrolled j t w found known

end Accord

end TrialFarm
