import TrialFarm.Proofs.Cluster.Accord

/-!
# What the server does

In accord the server accepts all that it hears from its workers, and neither this nor a command of
the manager nor a worker that joins ends the accord.

## Main statements

* `Accord.accepts`: nothing that comes from a worker is a failure.
* `Accord.hears`, `Accord.command`, `Accord.join`: the effect of an event keeps the accord.
* `Accord.settle`: so does all that the server says then.
-/

namespace TrialFarm

/-- The server takes a message of a worker on the roster, and may answer. -/
theorem Site.Enrolled.take {s : Site} {terminated : Bool} {h h' : Holdings}
    (enrolled : s.Enrolled terminated h) {m : WorkerMessage} {rest : Pipe WorkerMessage}
    {p : Pipe ServerMessage} (came : s.toServer.next = some (.message m, rest))
    (more : ∀ m ∈ s.toWorker.waiting, m ∈ p.waiting)
    (tied : Site.Tied { s with toServer := rest, toWorker := p } h') :
    Site.Enrolled { s with toServer := rest, toWorker := p } terminated h' := by
  obtain ⟨-, flow⟩ := Pipe.next_eq_message came
  refine ⟨tied, ?_, fun all flowing => ?_⟩
  · show rest.flow ≠ .shut
    rw [flow]
    exact enrolled.present
  · exact (enrolled.told all (flow.symm.trans flowing)).imp_left (more _)

namespace Accord

variable {shape : String → UInt64 × UInt64} {server server' : ServerState} {sites : List Site}
  {s : Site} {i : Nat}

/-! ### Nothing is refused -/

/-- Every report that comes out of a pipe is accepted. -/
theorem accepts_report (accord : Accord shape server sites) (here : sites[i]? = some s)
    {r : TrialRecord} {rest : Pipe WorkerMessage} {w : Worker}
    (came : s.toServer.next = some (.message (.doneProcessing r), rest))
    (found : server.roster.find? (UInt64.ofNat i) = some w) :
    ∃ server', server.complete (UInt64.ofNat i) r = (server', .ok ()) := by
  have waits : .doneProcessing r ∈ s.toServer.waiting :=
    (Pipe.next_eq_message came).1 ▸ List.mem_cons_self ..
  obtain ⟨one, file, known, fair⟩ := (accord.honest s (List.mem_of_getElem? here)).reports r waits
  refine accord.balanced.complete_of_held found ?_ ?_ fun t task => ?_
  · rw [one]
    decide
  · -- What is on its way to the server is owed, and what is owed is held.
    rw [one]
    exact (accord.enrolled i s w here found).tied.report_held came
  · rw [Scheduler.file?_of_task? task, Option.some.injEq] at known
    exact accord.shaped.clashes task (known ▸ fair)

/-- Every request that comes out of a pipe is granted. The worker asks for no more than it has
threads for, and all threads together stay within a word. -/
theorem accepts_request (accord : Accord shape server sites) (here : sites[i]? = some s)
    {requested : UInt32} {rest : Pipe WorkerMessage} {w : Worker}
    (came : s.toServer.next = some (.message (.getInstances requested), rest))
    (found : server.roster.find? (UInt64.ofNat i) = some w) :
    ∃ server', server.grant (UInt64.ofNat i) requested = (server', .ok ()) := by
  have afforded := (accord.enrolled i s w here found).tied.affords
  rw [(Pipe.next_eq_message came).1] at afforded
  exact accord.balanced.grant_of_room found (accord.held_add_le here found afforded.1)

/-- Whatever comes out of the pipe of a worker is no failure. -/
theorem accepts (accord : Accord shape server sites) (here : sites[i]? = some s)
    {part : Parting WorkerMessage} {rest : Pipe WorkerMessage}
    (came : s.toServer.next = some (part, rest)) :
    ∃ server', server.apply (Cluster.heard (UInt64.ofNat i) part) = (server', .ok ()) := by
  have leaves {w : Worker} (found : server.roster.find? (UInt64.ofNat i) = some w) :
      ∃ server', ServerState.thenAdvance (server.removeWorker (UInt64.ofNat i)) =
        (server', .ok ()) := by
    obtain ⟨scheduler, removed, -⟩ := accord.balanced.removeWorker found
    rw [removed]
    exact ⟨_, rfl⟩
  cases part with
  | close =>
    show ∃ server', server.workerLost (UInt64.ofNat i) = (server', .ok ())
    unfold ServerState.workerLost
    split
    · next there =>
      obtain ⟨w, found⟩ := Roster.contains_iff.mp there
      exact leaves found
    · exact ⟨_, rfl⟩
  | message m =>
    show ∃ server', server.handleWorker (UInt64.ofNat i) m = (server', .ok ())
    unfold ServerState.handleWorker
    split
    · exact ⟨_, rfl⟩
    next there =>
    obtain ⟨w, found⟩ := Roster.contains_iff.mp (by simpa using there)
    cases m with
    | getInstances requested =>
      obtain ⟨server', granted⟩ := accord.accepts_request here came found
      dsimp only
      rw [granted]
      exact ⟨_, rfl⟩
    | foundSolution solution => exact ⟨_, rfl⟩
    | disconnect => exact leaves found
    | doneProcessing r =>
      obtain ⟨server', completed⟩ := accord.accepts_report here came found
      dsimp only
      rw [completed]
      exact ⟨_, rfl⟩

/-! ### What the server hears -/

/-- An action that concerns one worker only reaches its site. -/
private theorem carryAll_set (accord : Accord shape server sites) (here : sites[i]? = some s)
    (silent : server.outbound = []) {t : Site} {a : Action}
    (own : ∀ id, id ≠ UInt64.ofNat i → ∀ s, Site.carry id s a = s) :
    Site.carryAll (server.outbound ++ [a]) (sites.set i t) =
      sites.set i (Site.carry (UInt64.ofNat i) t a) := by
  have inside := (List.getElem?_eq_some_iff.mp here).1
  have few := accord.length_lt
  rw [silent, List.nil_append,
    Site.carryAll_one (by rw [List.length_set]; omega) (List.getElem?_set_self inside) own,
    List.set_set]

/-- A worker that is off the roster is passed over. -/
private theorem unheard (accord : Accord shape server sites) (here : sites[i]? = some s)
    {part : Parting WorkerMessage} {rest : Pipe WorkerMessage}
    (came : s.toServer.next = some (part, rest))
    (core : server.Core (Cluster.heard (UInt64.ofNat i) part) server)
    (gone : server.roster.find? (UInt64.ofNat i) = none) :
    Accord shape server (sites.set i { s with toServer := rest }) := by
  refine accord.take here came core
    ((accord.honest s (List.mem_of_getElem? here)).take came) fun w found => ?_
  rw [gone] at found
  cases found

/-- A worker that leaves has its connection closed. -/
private theorem dismiss (accord : Accord shape server sites) (here : sites[i]? = some s)
    {part : Parting WorkerMessage} {rest : Pipe WorkerMessage} {w : Worker}
    (came : s.toServer.next = some (part, rest)) (silent : server.outbound = [])
    (core : server.Core (Cluster.heard (UInt64.ofNat i) part) server')
    (found : server.roster.find? (UInt64.ofNat i) = some w)
    (removed : server.removeWorker (UInt64.ofNat i) = (server', .ok ())) :
    Accord shape server'
      (Site.carryAll server'.outbound (sites.set i { s with toServer := rest })) := by
  obtain ⟨scheduler, -, rfl⟩ := ServerState.removeWorker_eq_ok found removed
  have taken := (accord.honest s (List.mem_of_getElem? here)).take came
  have closed : Accord shape _ (sites.set i
      { s with toServer := rest, toWorker := s.toWorker.finish }) :=
    accord.take here came core
      ⟨taken.reports, taken.results, taken.pending, taken.running, by
        rw [Pipe.waiting_finish]
        exact taken.batches⟩ fun w' found' => by
        change (server.roster.remove _).find? _ = _ at found'
        rw [Roster.find?_remove, if_pos rfl] at found'
        cases found'
  have carried := accord.carryAll_set (a := .closeWorker (UInt64.ofNat i)) here silent
    (t := { s with toServer := rest }) fun id apart s => if_neg apart.symm
  rw [Site.carry, if_pos rfl] at carried
  show Accord shape _ (Site.carryAll (server.outbound ++ [.closeWorker _]) _)
  rw [carried]
  exact closed

/-- A report strikes one trial out. -/
private theorem settles (accord : Accord shape server sites) (here : sites[i]? = some s)
    {r : TrialRecord} {rest : Pipe WorkerMessage}
    (came : s.toServer.next = some (.message (.doneProcessing r), rest))
    (done : server.complete (UInt64.ofNat i) r = (server', .ok ())) :
    Accord shape server' (sites.set i { s with toServer := rest }) := by
  have honest := accord.honest s (List.mem_of_getElem? here)
  refine accord.take here came (.complete done) (honest.take came) fun v found' => ?_
  obtain ⟨w, w', scheduler, found, settled, completed, rfl⟩ := ServerState.complete_eq_ok done
  obtain rfl := Option.some.inj ((Roster.find?_modify_self found).symm.trans found')
  have enrolled := accord.enrolled i s w here found
  have kept := accord.balanced.roster.holdings _ (Roster.mem_of_find? found)
  obtain ⟨-, -, -, -, held, load⟩ := Worker.settle_spec kept settled
  obtain ⟨one, -⟩ := honest.reports r ((Pipe.next_eq_message came).1 ▸ List.mem_cons_self ..)
  rw [one] at held load
  exact enrolled.take came (fun _ inside => inside) (enrolled.tied.reported came held load)

/-- A request is answered. -/
private theorem answers (accord : Accord shape server sites) (here : sites[i]? = some s)
    {requested : UInt32} {rest : Pipe WorkerMessage}
    (came : s.toServer.next = some (.message (.getInstances requested), rest))
    (done : server.grant (UInt64.ofNat i) requested = (server', .ok ())) :
    Accord shape server' (sites.set i { s with
      toServer := rest
      toWorker := s.toWorker.put (.sendInstances (server.handOut requested).1) }) := by
  have granted := ServerState.handOut_spec server requested
  have known : ∀ b ∈ (server.handOut requested).1,
      server.scheduler.file? b.taskId = some b.file := by
    intro b inside
    obtain ⟨t, task, file⟩ := granted.files b inside
    rw [file]
    exact Scheduler.file?_of_task? task
  have honest := (accord.honest s (List.mem_of_getElem? here)).take came
  refine accord.take here came (.grant done) (honest.granted known) fun v found' => ?_
  obtain ⟨w, w', found, entered, rfl⟩ := ServerState.grant_eq_ok done
  obtain rfl := Option.some.inj ((Roster.find?_modify_self found).symm.trans found')
  have enrolled := accord.enrolled i s w here found
  obtain ⟨-, held, load⟩ := accord.balanced.granted found entered
  exact enrolled.take came (fun _ => Pipe.mem_put_of_mem)
    (enrolled.tied.granted came held load granted.trials_le)

/-- The effect of what comes out of the pipe of a worker, and of the answer, keeps the accord. -/
theorem hears (accord : Accord shape server sites) (here : sites[i]? = some s)
    {part : Parting WorkerMessage} {rest : Pipe WorkerMessage}
    (came : s.toServer.next = some (part, rest)) (silent : server.outbound = [])
    (core : server.Core (Cluster.heard (UInt64.ofNat i) part) server') :
    Accord shape server'
      (Site.carryAll server'.outbound (sites.set i { s with toServer := rest })) := by
  have unanswered (sites : List Site) : Site.carryAll server.outbound sites = sites := by
    rw [silent, Site.carryAll_nil]
  cases part with
  | close =>
    cases core with
    | lose found removed =>
      exact accord.dismiss here came silent (.lose found removed) found removed
    | miss gone =>
      rw [unanswered]
      exact accord.unheard here came (.miss gone) gone
  | message m =>
    cases core with
    | leave found removed =>
      exact accord.dismiss here came silent (.leave found removed) found removed
    | ignore gone =>
      rw [unanswered]
      exact accord.unheard here came (.ignore gone) gone
    | @solve id solution w found =>
      show Accord shape _ (Site.carryAll server.outbound _)
      rw [unanswered]
      have honest := accord.honest s (List.mem_of_getElem? here)
      refine accord.take here came (.solve found) (honest.take came) fun w' found' => ?_
      have enrolled := accord.enrolled i s w' here found'
      exact enrolled.take came (fun _ inside => inside) (enrolled.tied.heard came)
    | @complete id r server' done =>
      have settled := accord.settles here came done
      obtain ⟨w, w', scheduler, -, -, -, rfl⟩ := ServerState.complete_eq_ok done
      show Accord shape _ (Site.carryAll server.outbound _)
      rw [unanswered]
      exact settled
    | @grant id requested server' done =>
      have answered := accord.answers here came done
      have carried := accord.carryAll_set (t := { s with toServer := rest })
        (a := .toWorker (UInt64.ofNat i) (.sendInstances (server.handOut requested).1)) here silent
        fun id apart s => if_neg apart.symm
      rw [Site.carry, if_pos rfl] at carried
      obtain ⟨w, w', -, -, rfl⟩ := ServerState.grant_eq_ok done
      show Accord shape _ (Site.carryAll (server.outbound ++ [.toWorker _ _]) _)
      rw [carried]
      exact answered

/-! ### What comes from elsewhere -/

/-- Commands of the manager concern no worker. -/
theorem command (accord : Accord shape server sites) {e : StateEvent}
    (core : server.Core e server') (stays : e.isJoin = false) (about : e.worker? = none) :
    Accord shape server' sites := by
  have shaped := core.shaped accord.shaped fun id r same => by
    rw [same] at about
    cases about
  refine accord.update (core.balanced accord.balanced (.of_stays stays)) (core.nextId stays) shaped
    rfl fun i s here => ⟨s, here, rfl, ?_, fun w found => ?_⟩
  · exact (accord.honest s (List.mem_of_getElem? here)).mono fun _ _ => core.file?
  · rw [core.find?_other stays (by rw [about]; exact fun no => nomatch no)] at found
    rw [core.workersTerminated]
    exact accord.enrolled i s w here found

theorem nextId (accord : Accord shape server sites) :
    server.roster.nextId = UInt64.ofNat sites.length := by
  rw [← accord.numbered, UInt64.ofNat_toNat]

/-- The greeting of a newcomer is all that is said when it joins, and it tells the newcomer to stop
if the others were told. -/
private theorem greets (accord : Accord shape server sites) (c : Coordinator)
    (few : sites.length < 2 ^ 64) (silent : server.outbound = []) :
    ∃ ms : List ServerMessage,
      Site.carryAll server.greet.outbound (sites ++ [Site.fresh c]) =
        sites ++ [{ Site.fresh c with toWorker := Pipe.fresh.putAll ms }] ∧
      (∀ m ∈ ms, m.isGrant = false) ∧
      (server.workersTerminated = true → .terminate ∈ ms) := by
  have out : server.greet.outbound = server.outbound ++
      if server.workersTerminated then [.toWorker server.roster.nextId .terminate] else [] := rfl
  rw [out, silent, List.nil_append]
  cases terminated : server.workersTerminated with
  | false =>
    refine ⟨[], ?_, (fun _ member => nomatch member), fun no => nomatch no⟩
    exact Site.carryAll_nil _
  | true =>
    refine ⟨[.terminate], ?_, by simp [ServerMessage.isGrant], fun _ => List.mem_cons_self ..⟩
    rw [if_pos rfl, accord.nextId, Site.carryAll_one (i := sites.length) (s := Site.fresh c)
      (a := .toWorker _ .terminate) (by rw [List.length_append, List.length_singleton]; omega)
      (by simp) fun id apart s => if_neg apart.symm, Site.carry, if_pos rfl,
      List.set_append_right _ _ (Nat.le_refl _), Nat.sub_self]
    rfl

/-- A worker that joins holds nothing and is told to stop if the others were. -/
theorem join (accord : Accord shape server sites) {settings : CoordinatorSettings}
    {c : Coordinator} (started : Coordinator.start settings = .ok c)
    (few : Site.allThreads sites + settings.threads < 2 ^ 32)
    (silent : server.outbound = []) :
    Accord shape server.greet
      (Site.carryAll server.greet.outbound (sites ++ [Site.fresh c])) := by
  obtain ⟨threads, staffed⟩ := Site.threads_fresh started
  have length := accord.length_lt
  have numbered := accord.numbered
  have left : server.roster.nextId.toNat + 1 < 2 ^ 64 := by omega
  obtain ⟨ms, greeted, plain, told⟩ := accord.greets c (by omega) silent
  rw [greeted]
  have fresh := Site.tied_fresh started
  have honest : (Site.fresh c).Honest server.scheduler.file? shape := Site.honest_fresh started
  refine ⟨accord.balanced.greet left, ?_, ?_, fun s member => ?_, accord.shaped,
    fun s member => ?_, fun i s w here found => ?_⟩
  · show server.roster.join.2.nextId.toNat = _
    rw [Roster.nextId_join_toNat left, numbered, List.length_append]
    rfl
  · rw [Site.allThreads, List.map_append, List.sum_append]
    show _ + ((Site.fresh c).threads + 0) < _
    rw [threads]
    exact few
  · rcases List.mem_append.mp member with old | new
    · exact accord.staffed s old
    · rw [List.mem_singleton.mp new]
      show 1 ≤ (Site.fresh c).threads
      rw [threads]
      exact staffed
  · rcases List.mem_append.mp member with old | new
    · exact accord.honest s old
    · rw [List.mem_singleton.mp new]
      exact honest.announced plain
  · change server.roster.join.2.find? _ = _ at found
    rw [Roster.find?_join accord.balanced.roster.numbered, accord.nextId] at found
    have before := (List.getElem?_eq_some_iff.mp here).1
    rw [List.length_append, List.length_singleton] at before
    by_cases new : sites.length = i
    · subst new
      rw [if_pos rfl] at found
      obtain rfl := Option.some.inj found
      rw [List.getElem?_concat_length] at here
      obtain rfl := Option.some.inj here
      refine ⟨fresh.announced plain, Flow.noConfusion, fun all _ => Or.inl ?_⟩
      rw [Pipe.waiting_putAll rfl]
      exact told all
    · rw [if_neg (number_ne (by omega) (by omega) new)] at found
      rw [List.getElem?_append_left (by omega)] at here
      exact accord.enrolled i s w here found

/-- Announcements follow an event, and then everything is carried out. -/
theorem settle (said : server.Announces server')
    (accord : Accord shape server (Site.carryAll server.outbound sites)) :
    Accord shape server'.takeOutbound.2 (Site.carryAll server'.takeOutbound.1 sites) := by
  obtain ⟨extra, out, -⟩ := said.outbound
  have announced := accord.announce said out
  rw [← Site.carryAll_append, ← out] at announced
  exact ⟨⟨announced.balanced.roster, announced.balanced.scheduler, announced.balanced.agree⟩,
    announced.numbered, announced.few, announced.staffed, announced.shaped, announced.honest,
    announced.enrolled⟩

end Accord

end TrialFarm
