import TrialFarm.Proofs.Server.Conservation
import TrialFarm.Proofs.Server.Exhaustion
import TrialFarm.Proofs.Server.Steady

/-!
# Counts of one word

The counts of trials that are out are words. A request that would take one over its word is a crash,
and until then the counts are the true numbers. Only a file without a bound that is tried forever
can come to that: it returns to the queue while trials of it are out, and is handed out to the full
amount of the next request.

## Main statements

* `Audit.calls_of_run`: the scheduler of a run comes from calls.
* `ServerState.Balanced.request`: a request is answered, or it runs over the count of such a file.
* `counters_of_word`: counts are true numbers, and the requests that crash.
-/

namespace TrialFarm

open Scheduler

namespace Audit

variable {a b : Audit} {e : StateEvent} {events : List StateEvent}

/-- An event that does not fail changes the scheduler by calls only. -/
theorem scheduler_of_step (stepped : a.step e = some b) :
    b.state.scheduler = (a.state.callsIn e).foldl Scheduler.call a.state.scheduler := by
  rw [← ServerState.scheduler_apply, apply_of_step stepped]

/-- The scheduler of a run is the one at its start after some calls. -/
theorem calls_of_run (ran : a.run events = some b) :
    ∃ calls : List SchedulerCall,
      b.state.scheduler = calls.foldl Scheduler.call a.state.scheduler := by
  induction events generalizing a with
  | nil => exact ⟨[], congrArg (·.state.scheduler) (Option.some.inj ran).symm⟩
  | cons e events ih =>
    rw [Audit.run, Option.bind_eq_some_iff] at ran
    obtain ⟨d, stepped, ran⟩ := ran
    obtain ⟨calls, after⟩ := ih ran
    exact ⟨a.state.callsIn e ++ calls, by rw [after, scheduler_of_step stepped, List.foldl_append]⟩

end Audit

namespace ServerState

variable {s : ServerState} {id : WorkerId} {requested : UInt32}

/-- Only a scheduler that is asked can run over. -/
theorem allot_eq_error {overflow : Overflow} (failed : s.allot requested = .error overflow) :
    s.scheduler.grant requested = .error overflow := by
  unfold allot at failed
  split at failed
  · cases failed
  · exact failed

/-- A request of a worker on the roster is answered, or it runs over the count of a queued file
without a bound that is tried forever. -/
theorem Balanced.request (balanced : s.Balanced) (distinct : s.scheduler.queue.Nodup)
    (untried : s.scheduler.Untried) (present : s.roster.contains id = true) (requested : UInt32) :
    (∃ s', s.handleWorker id (.getInstances requested) = (s', .ok ())) ∨
    ∃ overflow : Overflow,
      (s.handleWorker id (.getInstances requested)).2 = .error overflow.toError ∧
      s.scheduler.policy = .retryForever ∧ overflow.task ∈ s.scheduler.queue ∧
      overflow.more ≤ requested ∧ ∃ t, s.scheduler.task? overflow.task = some t ∧
        t.file.startConfigs = 0 ∧ 2 ^ 32 ≤ t.inFlight.toNat + overflow.more.toNat := by
  unfold handleWorker
  rw [present, Bool.not_true, if_neg Bool.false_ne_true]
  cases allotted : s.allot requested with
  | error overflow =>
    refine .inr ⟨overflow, ?_, untried.retried distinct (allot_eq_error allotted)⟩
    dsimp only
    rw [grant_of_overflow allotted]
    rfl
  | ok r =>
    obtain ⟨w, found⟩ := Roster.contains_iff.mp present
    obtain ⟨s', done⟩ := balanced.grant_of_allot found allotted
    refine .inl ⟨s'.advance, ?_⟩
    dsimp only
    rw [done]
    rfl

end ServerState

/-- In every run without failures the counts of trials that are out are the true numbers, of each
task and at each worker. The next request of a worker is answered, or it is a crash. It is one only
at a queued file without a bound that is tried forever, if the true number of its trials and what is
to be handed out of it are together more than a word holds. -/
theorem counters_of_word (c : ServerConfig) (events : List StateEvent) (a : Audit)
    (ran : (Audit.start c).run events = some a)
    (numbered : events.countP StateEvent.isJoin < 2 ^ 64) :
    (∀ task t, a.state.scheduler.task? task = some t → t.inFlight.toNat = a.trialsOut task) ∧
    (∀ entry ∈ a.state.roster.workers, ∀ task,
      (entry.2.outstanding.count task).toNat = a.ledger entry.1 task) ∧
    ∀ id requested, a.state.roster.contains id = true →
      (∃ s', a.state.apply (.said id (.getInstances requested)) = (s', .ok ())) ∨
      ((a.state.apply (.said id (.getInstances requested))).2 =
          .error (.crash "attempt to add with overflow") ∧
        c.zeroQuotaPolicy = .retryForever ∧
        ∃ task t, task ∈ a.state.scheduler.queue ∧ a.state.scheduler.task? task = some t ∧
          t.file.startConfigs = 0 ∧
          ∃ more ≤ requested, UInt32.size ≤ a.trialsOut task + more.toNat) := by
  have sound := (Audit.Sound.start c).run ran (by omega)
  have balanced := sound.balanced
  have out {task : TaskId} {t : Task} (found : a.state.scheduler.task? task = some t) :
      t.inFlight.toNat = a.trialsOut task := by
    rw [sound.trialsOut, balanced.agree, outOf_of_some found]
  refine ⟨fun task t => out, fun entry member task => ?_, fun id requested present => ?_⟩
  · rw [sound.ledger, Roster.heldBy_of_find? (Roster.find?_of_mem balanced.roster member)]
    rfl
  obtain ⟨calls, scheduler⟩ := Audit.calls_of_run ran
  obtain ⟨untried, quota⟩ : a.state.scheduler.Untried ∧
      Quota a.state.scheduler.tasks a.state.scheduler.queue :=
    scheduler ▸ (Untried.empty c.zeroQuotaPolicy).calls Quota.empty calls
  have policy : a.state.scheduler.policy = c.zeroQuotaPolicy := scheduler ▸ calls_policy _ calls
  refine (balanced.request quota.distinct untried present requested).imp_right ?_
  rintro ⟨overflow, failed, forever, queued, most, t, found, unbounded, exceeds⟩
  refine ⟨failed, policy ▸ forever, overflow.task, t, queued, found, unbounded, overflow.more,
    most, ?_⟩
  rw [← out found]
  exact exceeds

/-- A worker is granted two of three trials. However much it asks for next, it is answered. -/
theorem counters_of_word_twoOfThree :
    let events := [.joined, .submitted ⟨3, 10, "a.cnf"⟩, .said 0 (.getInstances 2)]
    ∃ a t s', (Audit.start ServerConfig.standard).run events = some a ∧
      a.state.scheduler.task? 0 = some t ∧ t.inFlight.toNat = a.trialsOut 0 ∧
      a.state.apply (.said 0 (.getInstances 4294967295)) = (s', .ok ()) := by
  intro events
  obtain ⟨a, ran, ⟨t, found⟩, present⟩ : ∃ a,
      (Audit.start ServerConfig.standard).run events = some a ∧
      (∃ t, a.state.scheduler.task? 0 = some t) ∧ a.state.roster.contains 0 = true :=
    ⟨_, rfl, ⟨_, rfl⟩, by decide⟩
  obtain ⟨counts, -, requests⟩ :=
    counters_of_word ServerConfig.standard events a ran (by decide)
  rcases requests 0 4294967295 present with ⟨s', answered⟩ | ⟨-, forever, -⟩
  · exact ⟨a, t, s', ran, found, counts 0 t found, answered⟩
  · cases forever

/-- A worker reports one of the 2^32 - 1 trials that it was granted of a file without a bound, which
is tried forever, and asks for two more. No count can hold two more than the 2^32 - 2 trials that
are out, so the request is a crash. -/
theorem counters_run_over :
    let events := [.joined, .submitted ⟨0, 10, "a.cnf"⟩, .said 0 (.getInstances 4294967295),
      .said 0 (.doneProcessing { (default : TrialRecord) with instancesProcessed := 1 })]
    let c := { ServerConfig.standard with zeroQuotaPolicy := .retryForever }
    ∃ a, (Audit.start c).run events = some a ∧ a.trialsOut 0 = 4294967294 ∧
      a.state.scheduler.grant 2 = .error ⟨0, 4294967294, 2⟩ ∧ UInt32.size ≤ 4294967294 + 2 ∧
      (a.state.apply (.said 0 (.getInstances 2))).2 =
        .error (.crash "attempt to add with overflow") := by
  intro events c
  have ran : ((Audit.start c).run events).map (fun a => (a.trialsOut 0,
      (a.state.scheduler.grant 2).map fun _ => (),
      (a.state.apply (.said 0 (.getInstances 2))).2)) =
        some (4294967294, .error ⟨0, 4294967294, 2⟩,
          .error (.crash "attempt to add with overflow")) := by decide +kernel
  obtain ⟨a, ran, counts⟩ := Option.map_eq_some_iff.mp ran
  simp only [Prod.mk.injEq] at counts
  obtain ⟨out, exceeds, crash⟩ := counts
  refine ⟨a, ran, out, ?_, by decide, crash⟩
  cases granted : a.state.scheduler.grant 2 with
  | ok given =>
    rw [granted] at exceeds
    cases exceeds
  | error overflow =>
    rw [granted] at exceeds
    exact congrArg _ (Except.error.inj exceeds)

end TrialFarm
