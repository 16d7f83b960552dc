import TrialFarm.Proofs.Server.Conservation
import TrialFarm.Proofs.Server.Lifecycle

/-!
# The final statistics

A server reports the results of all tasks once, in the event in which it stops to run. By then no
trial is out, so no worker holds anything that it could report or give back, and nothing is handed
out any more: the scheduler never changes again, and the results that were sent are final.

## Main definitions

* `Scheduler.results`: the results of all tasks, in order.
* `statisticsIn`: the results that were sent.
* `ServerState.Reported`: the results were sent if and only if the server does not run any more.

## Main statements

* `ServerState.Reported.settled`: a server that does not run any more keeps its scheduler.
* `ServerState.Reported.apply`: every event keeps the report up to date.
* `statistics_final`: results are sent once and are final.
-/

namespace TrialFarm

/-! ### Results -/

namespace Scheduler

/-- What all tasks have come to, in order. -/
def results (s : Scheduler) : List (TaskFile × Statistics) :=
  s.tasks.toList.map fun t => (t.file, t.statistics)

/-- The report is on all results, or on those of files that ran. -/
theorem report_eq (s : Scheduler) (short : Bool) :
    s.report short = s.results.filter fun r => !short || 0 < r.2.instancesStarted := by
  rw [results, List.filter_map]
  rfl

variable {s s' : Scheduler} {id : TaskId} {t u : Task} {k : UInt64} {α : Type}

/-- What is the same of a task and of the one in its place, however that is marked, is the same of
all tasks. -/
theorem map_putBack {f : Task → α} (found : s.task? id = some t) (same : f u = f t)
    (plain : ∀ marked, f { u with scheduled := marked } = f u) :
    (s.putBack id u k).tasks.toList.map f = s.tasks.toList.map f := by
  rw [putBack_eq found]
  dsimp only
  have here : (s.tasks.toList.map f)[id.toNat]? = some (f t) := by
    rw [List.getElem?_map, Array.getElem?_toList]
    exact congrArg (Option.map f) found
  rw [Array.toList_setIfInBounds, List.map_set, plain, same]
  obtain ⟨inside, value⟩ := List.getElem?_eq_some_iff.mp here
  rw [← value, List.set_getElem_self]

/-- Trials that are taken back leave no results, -/
theorem results_release {count : UInt32} (done : s.release id count = .ok s') :
    s'.results = s.results := by
  obtain ⟨t, found, -, -, rfl⟩ := release_eq_ok_iff.mp done
  exact map_putBack found rfl fun _ => rfl

/-- A report is on a file that is known. -/
theorem files_complete {r : TrialRecord} (done : s.complete r = .ok s') :
    s'.results.map Prod.fst = s.results.map Prod.fst := by
  obtain ⟨t, found, -, -, -, rfl⟩ := complete_eq_ok_iff.mp done
  unfold results
  rw [List.map_map, List.map_map]
  exact map_putBack found rfl fun _ => rfl

/-- and a grant has none either. -/
theorem Granted.results {requested : UInt32} {bs : List Batch} (g : s.Granted s' requested bs)
    (few : s.tasks.size ≤ 2 ^ 32) : s'.results = s.results := by
  refine List.ext_getElem? fun i => ?_
  unfold Scheduler.results
  rw [List.getElem?_map, List.getElem?_map, Array.getElem?_toList, Array.getElem?_toList]
  by_cases inside : i < s.tasks.size
  · have index : (UInt32.ofNat i).toNat = i := by
      rw [UInt32.toNat_ofNat']
      omega
    have found : s.task? (UInt32.ofNat i) = some s.tasks[i] := by
      rw [task?, index]
      exact Array.getElem?_eq_getElem inside
    obtain ⟨scheduled, later⟩ := g.tasks _ _ found
    rw [task?, index] at found later
    rw [found, later]
    rfl
  · have beyond := Nat.le_of_not_lt inside
    rw [Array.getElem?_eq_none beyond, Array.getElem?_eq_none (g.size ▸ beyond)]

end Scheduler

namespace ServerState

variable {s s' s₁ : ServerState} {e : StateEvent} {id : WorkerId}

/-- Only a file that is submitted and a report change results. -/
theorem Core.results (core : s.Core e s₁) (few : s.scheduler.tasks.size ≤ 2 ^ 32)
    (entered : ∀ file, e ≠ .submitted file) (silent : ∀ id r, e ≠ .said id (.doneProcessing r)) :
    s₁.scheduler.results = s.scheduler.results := by
  cases core with
  | submit => exact absurd rfl (entered _)
  | complete => exact absurd rfl (silent _ _)
  | grant done => exact (granted_of_grant done).results few
  | @leave id s₁ w found removed | @lose id s₁ w found removed =>
    obtain ⟨scheduler, released, rfl⟩ := removeWorker_eq_ok found removed
    have kept := releaseAll_induction (motive := fun t => t.results = s.scheduler.results)
      (fun _ _ _ _ same done => (Scheduler.results_release done).trans same)
      w.outstanding s.scheduler rfl
    rw [released] at kept
    exact kept
  | join | refuse | terminate | solve | ignore | miss => rfl

/-- A report changes no file. -/
theorem Core.files (core : s.Core e s₁) (few : s.scheduler.tasks.size ≤ 2 ^ 32)
    (entered : ∀ file, e ≠ .submitted file) :
    s₁.scheduler.results.map Prod.fst = s.scheduler.results.map Prod.fst := by
  by_cases report : ∃ id r, e = .said id (.doneProcessing r)
  · obtain ⟨id, r, rfl⟩ := report
    cases core with
    | complete done =>
      obtain ⟨w, w', scheduler, -, -, completed, rfl⟩ := complete_eq_ok done
      exact Scheduler.files_complete completed
    | ignore => rfl
  · rw [core.results few entered fun id r same => report ⟨id, r, same⟩]

/-! ### What was sent -/

end ServerState

/-- The results that an action sends to the manager. -/
def Action.statistics? : Action → Option (TaskFile × Statistics)
  | .toManager (.sendStatistics file statistics) => some (file, statistics)
  | _ => none

/-- The results among actions, in order. -/
def statisticsIn (actions : List Action) : List (TaskFile × Statistics) :=
  actions.filterMap Action.statistics?

@[simp] theorem statisticsIn_append (actions more : List Action) :
    statisticsIn (actions ++ more) = statisticsIn actions ++ statisticsIn more :=
  List.filterMap_append

/-- What is said to workers sends no results. -/
theorem statisticsIn_toWorkers {ids : List WorkerId} {m : ServerMessage} :
    statisticsIn (ids.map fun id => .toWorker id m) = [] := by
  refine List.filterMap_eq_nil_iff.mpr fun action member => ?_
  obtain ⟨id, -, rfl⟩ := List.mem_map.mp member
  rfl

/-- The actions that send results hold these results. -/
theorem statisticsIn_report (results : List (TaskFile × Statistics)) :
    statisticsIn (results.map fun (file, statistics) =>
      .toManager (.sendStatistics file statistics)) = results := by
  unfold statisticsIn
  rw [List.filterMap_map]
  exact List.filterMap_some

namespace ServerState

variable {s s' s₁ : ServerState} {e : StateEvent} {id : WorkerId}

/-- Nothing that an event itself asks for sends results. -/
theorem statisticsIn_answers (s : ServerState) (e : StateEvent) :
    statisticsIn (s.answers e) = [] := by
  have none (test : Bool) (a : Action) (plain : a.statistics? = Option.none) :
      statisticsIn (if test then [a] else []) = [] := by
    cases test with
    | false => rfl
    | true => simp [statisticsIn, plain]
  cases e with
  | joined | lost => exact none _ _ rfl
  | submitted | terminated => rfl
  | said id m =>
    cases m with
    | doneProcessing | foundSolution => rfl
    | getInstances | disconnect => exact none _ _ rfl

/-- A server that runs has sent no results. One that does not run any more has sent those that its
scheduler has; its workers were told to stop, and no trial is out. -/
structure Reported (s : ServerState) : Prop where
  unsent : s.phase = .running → s.statisticsSent = false
  told : s.phase ≠ .running → s.workersTerminated = true
  idle : s.phase ≠ .running → s.scheduler.inFlight = 0
  sent : statisticsIn s.outbound =
    if s.phase = .running then [] else s.scheduler.report s.shortStatistics

theorem Reported.start (c : ServerConfig) : (start c).Reported where
  unsent _ := rfl
  told ended := absurd rfl ended
  idle ended := absurd rfl ended
  sent := rfl

/-- A server without trials that are out, whose workers were told to stop, keeps its scheduler:
nothing is handed out, and no worker has anything to report or to give back. -/
theorem Reported.settled (reported : s.Reported) (ended : s.phase ≠ .running)
    (balanced : s.Balanced) (core : s.Core e s₁) : s₁.scheduler = s.scheduler := by
  have empty := balanced.inFlight_eq_zero_iff.mp (reported.idle ended)
  cases core with
  | submit running => exact absurd running ended
  | @grant id requested s₁ done =>
    have suspended : s.dispatchSuspended = true := by
      simp [dispatchSuspended, reported.told ended]
    obtain ⟨w, w', -, -, rfl⟩ := grant_eq_ok done
    change (s.handOut requested).2 = _
    unfold handOut
    rw [if_pos suspended]
  | complete done =>
    obtain ⟨w, w', scheduler, found, settled, -, -⟩ := complete_eq_ok done
    obtain ⟨m, entered, -, -⟩ := Worker.settle_eq_ok settled
    rw [empty _ (Roster.mem_of_find? found)] at entered
    cases entered
  | leave found removed | lose found removed =>
    obtain ⟨scheduler, released, rfl⟩ := removeWorker_eq_ok found removed
    rw [empty _ (Roster.mem_of_find? found)] at released
    exact (Prod.mk.inj released).1.symm
  | join | refuse | terminate | solve | ignore | miss => rfl

/-- Anything may be said that sends no results, as long as workers stay told to stop. -/
theorem Reported.say {new : List Action} (reported : s.Reported) (phase : s'.phase = s.phase)
    (noted : s'.statisticsSent = s.statisticsSent)
    (told : s.workersTerminated = true → s'.workersTerminated = true)
    (scheduler : s.phase ≠ .running → s'.scheduler = s.scheduler)
    (short : s'.shortStatistics = s.shortStatistics)
    (out : s'.outbound = s.outbound ++ new) (none : statisticsIn new = []) : s'.Reported where
  unsent running := noted.trans (reported.unsent (phase ▸ running))
  told ended := told (reported.told (phase ▸ ended))
  idle ended := by
    rw [phase] at ended
    rw [scheduler ended]
    exact reported.idle ended
  sent := by
    rw [out, statisticsIn_append, none, List.append_nil, reported.sent, phase, short]
    split
    · rfl
    · next ended => rw [scheduler ended]

/-- Waking workers sends no results, -/
theorem Reported.wakeIdle (reported : s.Reported) : s.wakeIdle.Reported := by
  obtain ⟨roster, ids, woken⟩ := wakeIdle_eq s
  rw [woken]
  exact reported.say rfl rfl id (fun _ => rfl) rfl rfl statisticsIn_toWorkers

/-- and neither does telling them to stop. -/
theorem Reported.terminateWorkers (reported : s.Reported) : s.terminateWorkers.Reported := by
  obtain ⟨ids, stopped⟩ := terminateWorkers_eq s
  rw [stopped]
  exact reported.say rfl rfl (fun _ => rfl) (fun _ => rfl) rfl rfl statisticsIn_toWorkers

/-- The results are sent when the server stops to run. -/
theorem Reported.drainIfDue (reported : s.Reported) : s.drainIfDue.Reported := by
  unfold ServerState.drainIfDue
  split
  swap
  · exact reported
  next due =>
  simp only [Bool.and_eq_true, decide_eq_true_eq] at due
  have unsent := reported.unsent due.1
  have before := reported.sent
  rw [if_pos due.1] at before
  obtain ⟨ids, stopped⟩ := terminateWorkers_eq s.sendStatistics
  unfold sendStatistics at stopped ⊢
  rw [if_neg (by simp [unsent])] at stopped ⊢
  rw [stopped]
  refine ⟨nofun, fun _ => rfl, fun _ => (drainDue_iff.mp due.2).1, ?_⟩
  dsimp only [push]
  rw [statisticsIn_append, statisticsIn_append, before, statisticsIn_report,
    statisticsIn_toWorkers, List.nil_append, List.append_nil]
  rfl

theorem Reported.stopIfEmpty (reported : s.Reported) : s.stopIfEmpty.Reported := by
  unfold ServerState.stopIfEmpty
  split
  · next last =>
    simp only [Bool.and_eq_true, decide_eq_true_eq] at last
    have ended : s.phase ≠ .running := by
      rw [last.1]
      nofun
    refine ⟨nofun, fun _ => reported.told ended, fun _ => reported.idle ended, ?_⟩
    have sent := reported.sent
    rwa [if_neg ended] at sent
  · exact reported

/-- What follows an event sends results only when the work ends. -/
theorem Reported.sequel (reported : s.Reported) : (s.sequel e).Reported := by
  refine sequel_induction reported ?_ (fun s reported => reported.wakeIdle)
    (fun s reported => reported.terminateWorkers) (fun s reported => reported.drainIfDue)
    (fun s reported => reported.stopIfEmpty)
  exact fun id solution _ => reported.say rfl rfl (fun told => told) (fun _ => rfl) rfl rfl rfl

/-- An event that does not fail sends results only when the work ends, and never changes them after
it. -/
theorem Reported.apply (reported : s.Reported) (balanced : s.Balanced)
    (done : s.apply e = (s', .ok ())) : s'.Reported := by
  rcases apply_cases done with ⟨-, rfl⟩ | ⟨-, s₁, core, rfl⟩
  · exact reported
  · refine Reported.sequel ?_
    have settled (ended : s.phase ≠ .running) := reported.settled ended balanced core
    have out := core.outbound
    obtain ⟨scheduler, roster, requested, solved, outbound, rfl⟩ := core.frame
    exact reported.say rfl rfl (fun told => told) settled rfl out (statisticsIn_answers s e)

/-- Once a server does not run any more, its scheduler never changes. -/
theorem Reported.scheduler_apply (reported : s.Reported) (balanced : s.Balanced)
    (done : s.apply e = (s', .ok ())) (ended : s.phase ≠ .running) :
    s'.scheduler = s.scheduler := by
  obtain ⟨s₁, core, said⟩ := apply_eq_ok done
  rw [said.scheduler, reported.settled ended balanced core]

/-- A server that does not run any more never runs again. -/
theorem ended_apply (done : s.apply e = (s', .ok ())) (ended : s.phase ≠ .running) :
    s'.phase ≠ .running := by
  have forward := apply_phase done
  intro running
  rw [running] at forward
  cases phase : s.phase with
  | running => exact ended phase
  | draining | stopped =>
    rw [phase] at forward
    exact absurd forward (by decide)

/-! ### The end of the run -/

/-- A grant after which no trial is out has handed out nothing. -/
theorem Balanced.handOut_eq_nil {requested : UInt32} (balanced : s.Balanced)
    (idle : (s.handOut requested).2.inFlight = 0) : (s.handOut requested).1 = [] := by
  have granted := handOut_spec s requested
  have summed := granted.summed balanced.scheduler
  have all := granted.outAll_eq
  rw [summed.sum, idle, UInt64.toNat_zero] at all
  refine List.eq_nil_iff_forall_not_mem.mpr fun b member => ?_
  have positive := UInt32.lt_iff_toNat_lt.mp (granted.positive b member)
  have part : b.instances.toNat ≤ trials (s.handOut requested).1 :=
    List.le_sum_of_mem (List.mem_map_of_mem member)
  rw [UInt32.toNat_zero] at positive
  omega

/-- If no trial is out after an event, the event has handed out nothing. -/
theorem answers_idle {batches : List Batch} (balanced : s.Balanced)
    (done : s.apply e = (s', .ok ())) (idle : s'.scheduler.inFlight = 0)
    (granted : .toWorker id (.sendInstances batches) ∈ s.answers e) : batches = [] := by
  obtain ⟨requested, rfl, there, rfl⟩ := grant_mem_answers granted
  obtain ⟨s₁, core, said⟩ := apply_eq_ok done
  rw [said.scheduler] at idle
  cases core with
  | grant granted =>
    obtain ⟨w, w', -, -, rfl⟩ := grant_eq_ok granted
    exact balanced.handOut_eq_nil idle
  | ignore gone =>
    obtain ⟨w, found⟩ := Roster.contains_iff.mp there
    rw [found] at gone
    cases gone

/-- An event after which a server does not run accepts no file, and unless it is a report it changes
no results. -/
theorem results_apply (balanced : s.Balanced) (done : s.apply e = (s', .ok ()))
    (ended : s'.phase ≠ .running) :
    s'.scheduler.results.map Prod.fst = s.scheduler.results.map Prod.fst ∧
      ((∀ id r, e ≠ .said id (.doneProcessing r)) →
        s'.scheduler.results = s.scheduler.results) := by
  rcases apply_cases done with ⟨-, rfl⟩ | ⟨heard, s₁, core, rfl⟩
  · exact ⟨rfl, fun _ => rfl⟩
  have entered : ∀ file, e ≠ .submitted file := by
    rintro file rfl
    refine ended ((phase_wakeIdle s₁).trans (core.phase.trans ?_))
    cases added : s.addFile file with
    | error fault => exact absurd (.refused added) heard
    | ok done => exact (addFile_eq_ok added).1
  have few := balanced.scheduler.few
  rw [(announces_sequel s₁ e).scheduler]
  exact ⟨core.files few entered, core.results few entered⟩

/-- Results are sent by the event in which a server stops to run, and by no other one. -/
theorem Reported.sent_apply {new : List Action} (reported : s.Reported) (balanced : s.Balanced)
    (done : s.apply e = (s', .ok ())) (out : s'.outbound = s.outbound ++ new) :
    statisticsIn new =
      if s.phase = .running ∧ s'.phase ≠ .running then s'.scheduler.report s'.shortStatistics
      else [] := by
  have sent := (reported.apply balanced done).sent
  rw [out, statisticsIn_append, reported.sent] at sent
  by_cases running : s.phase = .running
  · rw [if_pos running, List.nil_append] at sent
    rw [sent]
    by_cases running' : s'.phase = .running
    · rw [if_pos running', if_neg fun both => both.2 running']
    · rw [if_neg running', if_pos ⟨running, running'⟩]
  · -- All was sent before, and it is still what the scheduler has.
    rw [if_neg running, if_neg (ended_apply done running),
      reported.scheduler_apply balanced done running, (apply_settings done).shortStatistics] at sent
    rw [if_neg fun both => running both.1]
    exact List.append_right_eq_self.mp sent

end ServerState

namespace Audit

variable {a b : Audit} {joins : Nat} {events : List StateEvent}

/-- To the server a run is the same with and without a ledger. -/
theorem run_state (ran : a.run events = some b) : a.state.run events = some b.state := by
  induction events generalizing a with
  | nil =>
    obtain rfl := Option.some.inj ran
    rfl
  | cons e events ih =>
    rw [run, Option.bind_eq_some_iff] at ran
    obtain ⟨c, stepped, ran⟩ := ran
    exact ServerState.run_cons_eq_some.mpr ⟨c.state, apply_of_step stepped, ih ran⟩

/-- In every run without failures results are sent once, when the work ends. -/
theorem Sound.reported (sound : a.Sound joins) (reported : a.state.Reported)
    (ran : a.run events = some b) (left : joins + events.countP StateEvent.isJoin < 2 ^ 64) :
    b.state.Reported :=
  (sound.run_induction (motive := ServerState.Reported)
    (fun _ _ _ balanced _ done reported => reported.apply balanced done) reported ran left).2

/-- What a server has when it stops to run, it has for ever. -/
theorem Sound.scheduler_run (sound : a.Sound joins) (reported : a.state.Reported)
    (ended : a.state.phase ≠ .running) (ran : a.run events = some b)
    (left : joins + events.countP StateEvent.isJoin < 2 ^ 64) :
    b.state.scheduler = a.state.scheduler := by
  have kept := sound.run_induction
    (motive := fun s => s.Reported ∧ s.phase ≠ .running ∧ s.scheduler = a.state.scheduler)
    (fun s s' e balanced _ done ⟨reported, ended, same⟩ =>
      ⟨reported.apply balanced done, ServerState.ended_apply done ended,
        (reported.scheduler_apply balanced done ended).trans same⟩)
    ⟨reported, ended, rfl⟩ ran left
  exact kept.2.2.2

end Audit

/-- The results of all tasks are sent once and are final, in every run without failures in which
fewer than 2^64 workers join. The phases come in order. The event in which the server stops to run
sends what each task has come to, in order, without those that never started if the statistics are
to be short; no other event sends any. In that event and ever after no trial is out, requests are
answered with nothing and no file is accepted. If that event is a report it changes results for the
last time, while the server still runs: from the state in which the phase changes on, the scheduler
stays as it is. -/
theorem statistics_final (c : ServerConfig) (events : List StateEvent) (a : Audit)
    (ran : (Audit.start c).run events = some a)
    (numbered : events.countP StateEvent.isJoin < 2 ^ 64) :
    statisticsIn a.state.outbound =
      (if a.state.phase = .running then []
      else a.state.scheduler.results.filter fun r =>
        !c.shortStatistics || 0 < r.2.instancesStarted) ∧
    ∀ before e after, events = before ++ e :: after →
      ∃ b d new, (ServerState.start c).run before = some b ∧ b.apply e = (d, .ok ()) ∧
        d.outbound = b.outbound ++ new ∧ b.phase.rank ≤ d.phase.rank ∧
        statisticsIn new =
          (if b.phase = .running ∧ d.phase ≠ .running then
            d.scheduler.results.filter fun r => !c.shortStatistics || 0 < r.2.instancesStarted
          else []) ∧
        (d.phase ≠ .running →
          d.scheduler.inFlight = 0 ∧
          (∀ id batches, .toWorker id (.sendInstances batches) ∈ new → batches = []) ∧
          d.scheduler.results.map Prod.fst = b.scheduler.results.map Prod.fst ∧
          ((∀ id r, e ≠ .said id (.doneProcessing r)) →
            d.scheduler.results = b.scheduler.results) ∧
          (∃ m, b.Core e m ∧ m.phase = b.phase ∧ d.scheduler = m.scheduler) ∧
          a.state.scheduler = d.scheduler) := by
  have sound := Audit.Sound.start c
  have reported := ServerState.Reported.start c
  have left : 0 + events.countP StateEvent.isJoin < 2 ^ 64 := by omega
  refine ⟨?_, ?_⟩
  · have short := (ServerState.run_settings (Audit.run_state ran)).shortStatistics
    rw [(sound.reported reported ran left).sent, Scheduler.report_eq, short]
    rfl
  rintro before e after rfl
  obtain ⟨b, d, now, early, stepped, late, balanced, room, sound', left'⟩ :=
    sound.split ran left
  have few : 0 + before.countP StateEvent.isJoin < 2 ^ 64 := by
    rw [List.countP_append] at left
    omega
  have done := Audit.apply_of_step stepped
  have reportedB := sound.reported reported early few
  have reportedD := reportedB.apply balanced done
  obtain ⟨extra, out, plain⟩ := ServerState.apply_outbound done
  refine ⟨b.state, d.state, _, Audit.run_state early, done, out, ServerState.apply_phase done, ?_,
    fun ended => ⟨reportedD.idle ended, ?_, ?_⟩⟩
  · have short : d.state.shortStatistics = c.shortStatistics :=
      (ServerState.apply_settings done).shortStatistics.trans
        (ServerState.run_settings (Audit.run_state early)).shortStatistics
    rw [reportedB.sent_apply balanced done out, Scheduler.report_eq, short]
  · intro id batches granted
    rcases List.mem_append.mp granted with answer | late
    · exact ServerState.answers_idle balanced done (reportedD.idle ended) answer
    · exact (plain _ late).elim
  · obtain ⟨files, results⟩ := ServerState.results_apply balanced done ended
    obtain ⟨m, core, said⟩ := ServerState.apply_eq_ok done
    exact ⟨files, results, ⟨m, core, core.phase, said.scheduler⟩,
      sound'.scheduler_run reportedD ended late left'⟩

/-- A worker runs the only trial of the only file. Then it asks for more, and a file comes in. -/
def tooMuch : List StateEvent :=
  lastTrial ++ [.said 0 (.getInstances 2), .submitted ⟨1, 10, "b.cnf"⟩]

/-- In that run one task is reported, and what comes later is neither answered nor accepted. -/
theorem statistics_final_tooMuch :
    ∃ a, (Audit.start ServerConfig.standard).run tooMuch = some a ∧ a.state.phase = .draining ∧
      (statisticsIn a.state.outbound).map (fun r => (r.1.filename, r.2.instancesStarted)) =
        [("a.cnf", 1)] := by
  obtain ⟨a, ran, draining, results⟩ : ∃ a,
      (Audit.start ServerConfig.standard).run tooMuch = some a ∧ a.state.phase = .draining ∧
      (a.state.scheduler.results.filter fun r =>
        !ServerConfig.standard.shortStatistics || 0 < r.2.instancesStarted).map
          (fun r => (r.1.filename, r.2.instancesStarted)) = [("a.cnf", 1)] :=
    ⟨_, rfl, rfl, by decide⟩
  refine ⟨a, ran, draining, ?_⟩
  have sent := (statistics_final ServerConfig.standard tooMuch a ran (by decide)).1
  rw [sent, if_neg (by rw [draining]; decide)]
  exact results

end TrialFarm
