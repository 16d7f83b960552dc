import TrialFarm.Proofs.Worker.Partition

/-!
# A worker accounts for its trials

No trial gets lost at a worker and none is counted twice, in whatever order its threads, the server
and the coordinator act.

## Main definitions

* `JobLedger.Reported`: what the server and the summary know of them.
* `JobLedger.Settled`: the same when the worker is done.

## Main statements

* `Bench.Kept.move`: no event breaks the accounts.
* `Bench.accounts_settled`: a worker that ends well has accounted for all trials.
-/

namespace TrialFarm

open Wire

/-- The work has failed. -/
def Stage.isDoomed : Stage → Bool
  | .stopping (some _) | .finished (.error _) => true
  | _ => false

/-- All trials have ended. -/
def Stage.isLast : Stage → Bool
  | .flush | .farewell | .finished (.ok _) => true
  | _ => false

/-- All trials were returned. -/
def Stage.isParted : Stage → Bool
  | .farewell | .finished (.ok _) => true
  | _ => false

theorem Stage.isLast_of_isParted {s : Stage} (parted : s.isParted = true) : s.isLast = true := by
  unfold isParted at parted
  split at parted
  · rfl
  · rfl
  · cases parted

theorem Stage.isWorking_of_isLast {s : Stage} (last : s.isLast = true) : s.isWorking = false := by
  unfold isLast at last
  split at last
  · rfl
  · rfl
  · rfl
  · cases last

theorem Stage.sound_of_isWorking {s : Stage} (working : s.isWorking = true) :
    s.isDoomed = false := by
  cases s with
  | stopping | finished => cases working
  | _ => rfl

/-- The message announces a solution. -/
def WorkerMessage.isSolution : WorkerMessage → Bool
  | .foundSolution _ => true
  | _ => false

/-- The message is about a trial. -/
def WorkerMessage.isAccount (m : WorkerMessage) : Bool := m.isReport || m.isSolution

/-- The number of solutions that are announced. -/
def solutions (ms : List WorkerMessage) : Nat := ms.countP WorkerMessage.isSolution

theorem Completed.filter_messages (done : Completed) :
    done.messages.filter WorkerMessage.isAccount = done.messages := by
  unfold Completed.messages
  cases done.solution with
  | none => rfl
  | some solution => rfl

/-- A finished trial announces its solution if it has one. -/
theorem solutions_messages (done : Completed) :
    solutions done.messages = done.solution.toList.length := by
  unfold Completed.messages
  cases done.solution with
  | none => rfl
  | some solution => rfl

namespace JobLedger

variable {l : JobLedger} {c c' : Coordinator}

/-- What was sent and summed up is what happened. -/
structure Reported (l : JobLedger) (c : Coordinator) (sent : List WorkerMessage) : Prop where
  results : ∃ returned : List Completed, l.ended.map Ended.result = returned.map .ok ++ c.results ∧
    sent.filter WorkerMessage.isAccount = returned.flatMap Completed.messages
  completed : c.summary.trialsCompleted = UInt64.ofNat (reports sent)
  solved : c.summary.solutionsFound = UInt64.ofNat (solutions sent)
  discarded : c.summary.discarded = UInt64.ofNat l.discarded.length
  assigned : c.stage.isWorking = true → c.assigned + reports sent = l.accepted.length
  quiet : c.stage.isLast = true → c.pool.running = []
  returned : c.stage.isParted = true → c.results = []
  summary : ∀ w, c.stage = .finished (.ok w) → w = c.summary

variable {sent : List WorkerMessage}

/-- What is said about trials is said when they are returned. -/
theorem countP_account {p : WorkerMessage → Bool} (about : ∀ m, p m = true → m.isAccount = true)
    {returned : List Completed}
    (told : sent.filter WorkerMessage.isAccount = returned.flatMap Completed.messages) :
    sent.countP p = (returned.flatMap Completed.messages).countP p := by
  rw [← told, List.countP_filter]
  refine List.countP_congr fun m _ => ?_
  simp only [Bool.and_eq_true]
  exact ⟨fun yes => ⟨yes, about m yes⟩, And.left⟩

theorem reports_flatMap (returned : List Completed) :
    reports (returned.flatMap Completed.messages) = returned.length := by
  induction returned with
  | nil => rfl
  | cons done returned ih =>
    rw [List.flatMap_cons, reports_append, ih, reports_messages, List.length_cons, Nat.add_comm]

/-- As many trials are reported as were returned. -/
theorem reports_eq_length {returned : List Completed}
    (told : sent.filter WorkerMessage.isAccount = returned.flatMap Completed.messages) :
    reports sent = returned.length := by
  rw [← reports_flatMap]
  exact countP_account (fun m yes => by simp [WorkerMessage.isAccount, yes]) told

/-- Another stage is as good if it promises no more. -/
theorem Reported.restage (reported : l.Reported c sent) {stage : Stage} {backingOff : Bool}
    (working : stage.isWorking = true → c.stage.isWorking = true)
    (quiet : stage.isLast = true → c.pool.running = [])
    (returned : stage.isParted = true → c.results = [])
    (summary : ∀ w, stage = .finished (.ok w) → w = c.summary) :
    Reported l { c with stage := stage, backingOff := backingOff } sent :=
  ⟨reported.results, reported.completed, reported.solved, reported.discarded,
    fun works => reported.assigned (working works), quiet, returned, summary⟩

/-- A stage at which the coordinator works promises nothing but the number of its jobs. -/
theorem Reported.work (reported : l.Reported c sent) {stage : Stage} {backingOff : Bool}
    (works : c.stage.isWorking = true) (working : stage.isWorking = true) :
    Reported l { c with stage := stage, backingOff := backingOff } sent := by
  refine reported.restage (fun _ => works) ?_ ?_ ?_
  · cases stage <;> simp_all [Stage.isWorking, Stage.isLast]
  · cases stage <;> simp_all [Stage.isWorking, Stage.isParted]
  · rintro w rfl
    cases working

/-- The account stays right when something else is said. -/
theorem Reported.say (reported : l.Reported c sent) {m : WorkerMessage}
    (other : m.isAccount = false) : Reported l c (sent ++ [m]) := by
  obtain ⟨returned, ended, told⟩ := reported.results
  have silent : m.isReport = false ∧ m.isSolution = false := by
    simpa [WorkerMessage.isAccount] using other
  have reports_same : reports (sent ++ [m]) = reports sent := by
    simp [reports, List.countP_append, silent]
  have solutions_same : solutions (sent ++ [m]) = solutions sent := by
    simp [solutions, List.countP_append, silent]
  exact
    { reported with
      results := ⟨returned, ended, by simp [List.filter_append, told, other]⟩
      completed := by rw [reports_same]; exact reported.completed
      solved := by rw [solutions_same]; exact reported.solved
      assigned := by rw [reports_same]; exact reported.assigned }

/-- A trial is reported. It was assigned before. -/
theorem Reported.give (reported : l.Reported c sent) (kept : l.Partition c) {done : Completed}
    {rest : List (Except Error Completed)} (first : c.results = .ok done :: rest) :
    Reported l
      { c with
        results := rest
        assigned := c.assigned - 1
        summary := c.summary.count done } (sent ++ done.messages) := by
  obtain ⟨returned, ended, told⟩ := reported.results
  have one_more : reports (sent ++ done.messages) = reports sent + 1 := by
    rw [reports_append, reports_messages]
  have left : c.results ≠ [] := by simp [first]
  refine ⟨⟨returned ++ [done], ?_, ?_⟩, ?_, ?_, reported.discarded, fun working => ?_,
    reported.quiet, fun parted => absurd (reported.returned parted) left, fun w finished => ?_⟩
  · simpa [first] using ended
  · rw [List.filter_append, told, done.filter_messages]
    simp
  · rw [one_more, UInt64.ofNat_add, ← reported.completed]
    rfl
  · rw [solutions, List.countP_append, UInt64.ofNat_add, ← solutions, ← solutions,
      ← reported.solved, solutions_messages]
    rfl
  · -- The trial that is returned has ended, so not everything that was accepted is returned yet.
    have := congrArg List.length ended
    have := kept.ended_le
    have := reports_eq_length told
    have := reported.assigned working
    rw [one_more]
    simp only [first, List.length_map, List.length_append, List.length_cons] at *
    omega
  · have parted : c.stage.isParted = true := by rw [finished]; rfl
    exact absurd (reported.returned parted) left

/-- The account stays right when trials are granted. -/
theorem Reported.grant (reported : l.Reported c sent) (working : c.stage.isWorking = true)
    (m : ServerMessage) : Reported (l.grant c m) (c.obey m) sent := by
  have assigned := reported.assigned working
  have counted := c.length_jobsOf m.batches
  have unfinished (w : WorkerSummary) : c.stage ≠ .finished (.ok w) := by
    intro stage
    rw [stage] at working
    cases working
  unfold JobLedger.grant
  rw [c.obey_eq]
  by_cases told : c.terminating = true
  · rw [if_pos told, if_pos told]
    refine { reported with
      discarded := ?_
      summary := fun w ended => absurd ended (unfinished w) }
    change c.summary.discarded + UInt64.ofNat (trials m.batches) = _
    rw [reported.discarded, ← UInt64.ofNat_add]
    congr 1
    simp only [JobLedger.discarded, List.length_append, counted]
    omega
  · rw [if_neg told, if_neg told]
    refine { reported with assigned := fun _ => ?_ }
    simp only [List.length_append, counted]
    omega

/-- The coordinator stops, and nothing has failed. -/
theorem Reported.stop (reported : l.Reported c sent) {backingOff : Bool} :
    Reported { l with dropped := l.dropped ++ c.pool.pending }
      ({ c with backingOff := backingOff }.stop none) sent := by
  refine ⟨reported.results, reported.completed, reported.solved, ?_, ?_, ?_, ?_, ?_⟩
  · change c.summary.discarded + UInt64.ofNat c.pool.pending.length = _
    rw [reported.discarded, ← UInt64.ofNat_add]
    congr 1
    simp only [JobLedger.discarded, List.length_append]
    omega
  all_goals
    intros
    contradiction

/-- Where trials run or wait, not all of them have ended. -/
theorem Reported.busy (reported : l.Reported c sent) (kept : l.Partition c)
    (busy : c.pool.running ≠ [] ∨ c.pool.pending ≠ []) : c.stage.isLast = false := by
  by_contra last
  rw [Bool.not_eq_false] at last
  rcases busy with running | pending
  · exact running (reported.quiet last)
  · exact pending (kept.emptied (Stage.isWorking_of_isLast last))

theorem Reported.start (reported : l.Reported c sent) (kept : l.Partition c) {i : Nat} {job : Job}
    {pool : Pool} (started : c.pool.startAt i = some (job, pool)) :
    Reported { l with started := l.started ++ [job] } { c with pool := pool } sent := by
  have unended := reported.busy kept <| .inr fun none => by
    simpa [none] using (Pool.startAt_spec started).1
  exact { reported with quiet := fun last => by simp [unended] at last }

theorem Reported.finish (reported : l.Reported c sent) (kept : l.Partition c) (t : Ended)
    (running : t.job ∈ c.pool.running) :
    Reported { l with ended := l.ended ++ [t] }
      { c with pool := c.pool.finish t.job false, results := c.results ++ [t.result] } sent := by
  have unended := reported.busy kept <| .inl fun none => by simp [none] at running
  obtain ⟨returned, ended, told⟩ := reported.results
  exact
    { reported with
      results := ⟨returned, by simp [ended], told⟩
      quiet := fun last => by simp [unended] at last
      returned := fun parted => by simp [Stage.isLast_of_isParted parted] at unended }

theorem Reported.die (reported : l.Reported c sent) (kept : l.Partition c) {job : Job}
    (running : job ∈ c.pool.running) :
    Reported { l with died := l.died ++ [job] } { c with pool := c.pool.finish job true } sent := by
  have unended := reported.busy kept <| .inl fun none => by simp [none] at running
  exact { reported with quiet := fun last => by simp [unended] at last }

end JobLedger

namespace Bench

variable {ν : Type} {sender : Sender WorkerMessage ν} {b b' : Bench ν} {e : BenchEvent}

/-- Every trial is in one place, and unless the work has failed all is known. -/
structure Kept (b : Bench ν) : Prop where
  partition : b.ledger.Partition b.coordinator
  reported : b.coordinator.stage.isDoomed = false → b.ledger.Reported b.coordinator b.sent

/-- The ledger stays right when the coordinator goes on by itself. -/
theorem Kept.proceed (kept : b.Kept) {n : ν} {ms : List WorkerMessage} {c : Coordinator}
    (proceeds : b.coordinator.Proceeds sender ms c) :
    Kept ⟨c, n, b.sent ++ ms, b.ledger.drop b.coordinator c⟩ := by
  obtain ⟨partition, reported⟩ := kept
  cases proceeds with
  | rest =>
    rw [JobLedger.drop_of_same rfl, List.append_nil]
    exact ⟨partition, reported⟩
  | shift turn goes =>
    have working := Stage.isWorking_of_inRound turn
    have goes := Stage.isWorking_of_inRound goes
    rw [JobLedger.drop_of_same (goes.trans working.symm), List.append_nil]
    refine ⟨{ partition with emptied := by simp [goes] }, fun _ => ?_⟩
    exact (reported (Stage.sound_of_isWorking working)).work working goes
  | give first stays =>
    rcases stays with ⟨turn, goes⟩ | ⟨flush, goes⟩
    · have working := Stage.isWorking_of_inRound turn
      have goes := Stage.isWorking_of_inRound goes
      rw [JobLedger.drop_of_same (goes.trans working.symm)]
      refine ⟨{ partition with emptied := by simp [goes] }, fun _ => ?_⟩
      have given := (reported (Stage.sound_of_isWorking working)).give partition first
      exact given.work working goes
    · obtain rfl := goes.trans flush.symm
      rw [JobLedger.drop_of_same (by rfl)]
      exact ⟨{ partition with }, fun sound => (reported sound).give partition first⟩
  | ask turn =>
    have working := Stage.isWorking_of_inRound turn
    rw [JobLedger.drop_of_same (by rw [working]; rfl)]
    refine ⟨{ partition with emptied := fun stops => nomatch stops }, fun _ => ?_⟩
    have said := (reported (Stage.sound_of_isWorking working)).say
      (m := .getInstances (UInt32.ofNat b.coordinator.shortfall)) rfl
    exact ⟨said.results, said.completed, said.solved, said.discarded,
      fun _ => said.assigned working, nofun, nofun, nofun⟩
  | quit turn left cause announcing =>
    rw [JobLedger.drop_of_stop (Stage.isWorking_of_inRound turn) rfl]
    exact ⟨partition.stop rfl rfl, fun sound => nomatch sound⟩
  | drain stops quiet =>
    rw [JobLedger.drop_of_same (by rw [stops]; rfl), List.append_nil]
    have emptied := partition.emptied (by rw [stops]; rfl)
    refine ⟨{ partition with emptied := fun _ => emptied }, fun _ => ?_⟩
    have reported := reported (by rw [stops]; rfl)
    exact reported.restage nofun (fun _ => quiet) nofun nofun
  | part last none =>
    rw [JobLedger.drop_of_same (by rw [last]; rfl)]
    have emptied := partition.emptied (by rw [last]; rfl)
    refine ⟨{ partition with emptied := fun _ => emptied }, fun _ => ?_⟩
    have reported := reported (by rw [last]; rfl)
    have quiet := reported.quiet (by rw [last]; rfl)
    exact (reported.say (m := .disconnect) rfl).restage nofun (fun _ => quiet) (fun _ => none) nofun
  | fail last left cause announcing =>
    rw [JobLedger.drop_of_same (by rw [last]; rfl)]
    have emptied := partition.emptied (by rw [last]; rfl)
    exact ⟨{ partition with emptied := fun _ => emptied }, fun sound => nomatch sound⟩
  | abort stops parting =>
    rw [JobLedger.drop_of_same (by rw [stops]; rfl)]
    have emptied := partition.emptied (by rw [stops]; rfl)
    exact ⟨{ partition with emptied := fun _ => emptied }, fun sound => nomatch sound⟩

/-- The ledger stays right when the coordinator heeds a message. -/
theorem Kept.take (kept : b.Kept) {m : ServerMessage} {c : Coordinator}
    (working : b.coordinator.stage.isWorking = true) (heeds : b.coordinator.Heeds m c) :
    Kept { b with
      coordinator := c
      ledger := (b.ledger.grant b.coordinator m).drop b.coordinator c } := by
  have partition := kept.partition.grant working m
  have reported := (kept.reported (Stage.sound_of_isWorking working)).grant working m
  have stays : (b.coordinator.obey m).stage.isWorking = true := by
    rw [Coordinator.obey_stage]
    exact working
  cases heeds with
  | heed _ goes =>
    rw [JobLedger.drop_of_same (goes.trans working.symm)]
    exact ⟨{ partition with emptied := by simp [goes] }, fun _ => reported.work stays goes⟩
  | halt _ _ told =>
    rw [JobLedger.drop_of_stop working rfl, ← Coordinator.obey_pool told]
    exact ⟨partition.stop rfl rfl, fun _ => reported.stop⟩
  | ignore parted =>
    cases stage : b.coordinator.stage <;> simp_all [Stage.isFarewell, Stage.isWorking]

/-- No event breaks the accounts. -/
theorem Kept.move (kept : b.Kept) (move : b.Move sender e b') : b'.Kept := by
  obtain ⟨partition, reported⟩ := kept
  cases move with
  | rest => exact ⟨partition, reported⟩
  | start started =>
    exact ⟨partition.start started, fun sound => (reported sound).start partition started⟩
  | finish t running =>
    exact ⟨partition.finish t running, fun sound => (reported sound).finish partition t running⟩
  | die running =>
    exact ⟨partition.die running, fun sound => (reported sound).die partition running⟩
  | @wait stage backingOff stays =>
    rcases stays with ⟨turn, goes⟩ | rfl
    · have working := Stage.isWorking_of_inRound turn
      have goes := Stage.isWorking_of_inRound goes
      refine ⟨{ partition with emptied := by simp [goes] }, fun _ => ?_⟩
      exact (reported (Stage.sound_of_isWorking working)).work working goes
    · exact ⟨{ partition with }, fun sound => { reported sound with }⟩
  | proceed proceeds => exact Kept.proceed ⟨partition, reported⟩ proceeds
  | take working heeds => exact Kept.take ⟨partition, reported⟩ working heeds
  | strand working broken =>
    rw [JobLedger.drop_of_stop working rfl]
    exact ⟨partition.stop rfl rfl, fun sound => nomatch sound⟩
  | close parted =>
    have emptied := partition.emptied (by rw [parted]; rfl)
    refine ⟨{ partition with emptied := fun _ => emptied }, fun _ => ?_⟩
    have reported := reported (by rw [parted]; rfl)
    have quiet := reported.quiet (by rw [parted]; rfl)
    have returned := reported.returned (by rw [parted]; rfl)
    refine reported.restage nofun (fun _ => quiet) (fun _ => returned) ?_
    rintro w ended
    cases ended
    rfl

/-- The ledger of a new worker is right. -/
theorem kept_fresh {settings : CoordinatorSettings} {c : Coordinator}
    (made : Coordinator.start settings = .ok c) (n : ν) : (fresh c n).Kept := by
  unfold Coordinator.start at made
  split at made
  · cases made
  · cases made
    refine ⟨⟨.nil, .nil, .nil, nofun⟩, fun _ => ⟨⟨[], rfl, rfl⟩, rfl, rfl, rfl, ?_, ?_, ?_, ?_⟩⟩
    · exact fun _ => rfl
    all_goals
      intros
      contradiction

/-- The ledger is right after any events. -/
theorem kept_run {settings : CoordinatorSettings} {c : Coordinator}
    (made : Coordinator.start settings = .ok c) (n : ν) (events : List BenchEvent) :
    ((fresh c n).run sender events).Kept :=
  run_keeps events (fun _ _ _ _ kept move => kept.move move) (kept_fresh made n)

end Bench

/-- What a worker that is done has to show for its trials. -/
structure JobLedger.Settled (l : JobLedger) (c : Coordinator) (sent : List WorkerMessage)
    (w : WorkerSummary) : Prop where
  /-- A granted trial was started or discarded, and never both. -/
  granted : (c.jobsOf l.grants).Perm (l.started ++ l.discarded)
  /-- A started trial ended, unless it took its thread down. -/
  started : l.started.Perm (l.ended.map Ended.job ++ l.died)
  /-- Every trial that ended was reported once. -/
  reported : ∃ returned : List Completed, l.ended.map Ended.result = returned.map .ok ∧
    sent.filter WorkerMessage.isAccount = returned.flatMap Completed.messages
  balanced : ∀ task, trialsOf l.grants task = sent.countP (WorkerMessage.reportsOn task) +
    l.discarded.countP (fun job => job.taskId = task) + l.died.countP (fun job => job.taskId = task)
  completed : w.trialsCompleted = UInt64.ofNat (reports sent)
  solved : w.solutionsFound = UInt64.ofNat (solutions sent)
  discarded : w.discarded = UInt64.ofNat l.discarded.length

theorem Ended.taskId_of_result {t : Ended} {done : Completed} (made : t.result = .ok done) :
    done.record.taskId = t.job.taskId := by
  obtain ⟨job, outcome, overall⟩ := t
  cases outcome with
  | error e => cases made
  | ok o =>
    cases made
    rfl

/-- Trials that were made are counted by their reports as well as by their jobs. -/
theorem countP_job {ended : List Ended} {returned : List Completed}
    (made : ended.map Ended.result = returned.map .ok) (task : TaskId) :
    (ended.map Ended.job).countP (fun job => job.taskId = task) =
      (returned.flatMap Completed.messages).countP (WorkerMessage.reportsOn task) := by
  induction ended generalizing returned with
  | nil =>
    obtain rfl : returned = [] := by simpa using made.symm
    rfl
  | cons t ended ih =>
    cases returned with
    | nil => cases made
    | cons done returned =>
      rw [List.map_cons, List.map_cons, List.cons.injEq] at made
      rw [List.map_cons, List.countP_cons, ih made.2, List.flatMap_cons, List.countP_append,
        countP_reportsOn_messages, Ended.taskId_of_result made.1, Nat.add_comm]
      simp

namespace Bench

variable {ν : Type} {sender : Sender WorkerMessage ν} {b : Bench ν}

/-- A worker that ends well can account for all its trials. -/
theorem Kept.settled (kept : b.Kept) {w : WorkerSummary}
    (done : b.coordinator.stage = .finished (.ok w)) :
    b.ledger.Settled b.coordinator b.sent w := by
  obtain ⟨partition, reported⟩ := kept
  have reported := reported (by rw [done]; rfl)
  have emptied := partition.emptied (by rw [done]; rfl)
  have quiet := reported.quiet (by rw [done]; rfl)
  have none := reported.returned (by rw [done]; rfl)
  obtain ⟨returned, made, told⟩ := reported.results
  rw [none, List.append_nil] at made
  obtain rfl := reported.summary w done
  have granted : (b.coordinator.jobsOf b.ledger.grants).Perm
      (b.ledger.started ++ b.ledger.discarded) := by
    refine partition.granted.trans ((partition.accepted.append_right _).trans ?_)
    rw [emptied, List.nil_append, List.append_assoc]
    exact List.perm_append_comm.append_left _
  have started : b.ledger.started.Perm (b.ledger.ended.map Ended.job ++ b.ledger.died) := by
    simpa [quiet] using partition.started
  refine ⟨granted, started, ⟨returned, made, told⟩, fun task => ?_, reported.completed,
    reported.solved, reported.discarded⟩
  have about : ∀ m, WorkerMessage.reportsOn task m = true → m.isAccount = true := by
    intro m yes
    cases m with
    | doneProcessing r => rfl
    | foundSolution | getInstances | disconnect => cases yes
  rw [← b.coordinator.countP_jobsOf, granted.countP_eq, List.countP_append, started.countP_eq,
    List.countP_append, countP_job made, JobLedger.countP_account about told]
  omega

/-- In whatever order the threads, the server and the coordinator act: as long as a worker works, it
counts as assigned what it accepted and did not report. When it ends well, all granted trials are
accounted for. Each was either discarded and not started, or started and reported once, or it took
its thread down. The worker does nothing else than if nobody kept the ledger. -/
theorem accounts_settled {settings : CoordinatorSettings} {c : Coordinator}
    (made : Coordinator.start settings = .ok c) (sender : Sender WorkerMessage ν) (n : ν)
    (events : List BenchEvent) :
    let b := (fresh c n).run sender events
    runAlone sender c n events = (b.coordinator, b.connection) ∧
    (b.coordinator.stage.isWorking = true →
      b.coordinator.assigned + reports b.sent = b.ledger.accepted.length) ∧
    ∀ w, b.coordinator.stage = .finished (.ok w) → b.ledger.Settled b.coordinator b.sent w := by
  intro b
  have kept : b.Kept := kept_run made n events
  refine ⟨run_alone sender (fresh c n) events, fun working => ?_, fun w done => kept.settled done⟩
  exact (kept.reported (Stage.sound_of_isWorking working)).assigned working

/-- Of three granted trials the first finds a solution, the second takes the only thread down, and
the third is dropped. -/
theorem accounts_settled_three :
    let three : Batch := ⟨⟨3, 0, "a"⟩, 3, 7⟩
    let job : Job := ⟨7, "a", 1000⟩
    let solved : Outcome := ⟨true, 9, 10, .zero, .zero, 1, 1⟩
    let events := BenchEvent.opening three ++
      [.acts (.trialEnded job (.ok solved) .zero), .acts .proceed, .acts .trialStarted,
        .acts (.trialDied job)] ++ BenchEvent.ending ++ BenchEvent.parting
    ∃ c, Coordinator.start ⟨1, 1000, 0⟩ = .ok c ∧
      let b := (fresh c []).run Sender.log events
      b.coordinator.stage = .finished (.ok ⟨1, 1, 1, 1⟩) ∧
        b.ledger.Settled b.coordinator b.sent ⟨1, 1, 1, 1⟩ := by
  dsimp only
  have made : Coordinator.start ⟨1, 1000, 0⟩ = .ok _ := rfl
  refine ⟨_, made, rfl, ?_⟩
  exact (accounts_settled made Sender.log [] _).2.2 _ rfl

/-- A trial that takes its thread down is neither reported nor discarded, and yet the worker ends
well. -/
theorem unreported_of_died :
    let one : Batch := ⟨⟨1, 0, "a"⟩, 1, 0⟩
    let job : Job := ⟨0, "a", 1000⟩
    ∃ c, Coordinator.start ⟨1, 1000, 3600000⟩ = .ok c ∧
      let b := (fresh c []).run Sender.log (BenchEvent.opening one ++
        .acts (.trialDied job) :: BenchEvent.ending ++ BenchEvent.parting)
      b.coordinator.stage = .finished (.ok ⟨0, 0, 0, 1⟩) ∧ b.ledger.started = [job] ∧
        reports b.sent = 0 ∧
        trialsOf b.ledger.grants 0 ≠ b.sent.countP (WorkerMessage.reportsOn 0) +
          b.ledger.discarded.countP fun job => job.taskId = 0 := by
  dsimp only
  exact ⟨_, rfl, rfl, rfl, rfl, by decide⟩

end Bench

end TrialFarm
