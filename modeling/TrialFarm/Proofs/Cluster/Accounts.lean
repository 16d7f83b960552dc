import TrialFarm.Proofs.Cluster.Conversation

/-!
# Accounts

What is on its way is counted: reports, requests and grants in the pipes of a site, and the trials
of a task wherever they are between the grant and the report.

## Main definitions

* `reports`, `requests`, `grants`, `granted`: what waits in a pipe.
* `Site.owed`: the trials of a task that are still to be reported.
* `Affords`: a request on its way asks for no more than the worker has threads for.

## Main statements

* `Affords.append`, `affords_ask`, `affords_succ`: what the messages afford, as they come and go.
* `Coordinator.jobs_start` and those after it: no trial comes out of nothing.
-/

namespace TrialFarm

/-- The number of reports among messages. -/
def reports (ms : List WorkerMessage) : Nat := ms.countP WorkerMessage.isReport

/-- The number of requests among messages. -/
def requests (ms : List WorkerMessage) : Nat := ms.countP WorkerMessage.isRequest

/-- The number of grants among messages. -/
def grants (ms : List ServerMessage) : Nat := ms.countP ServerMessage.isGrant

/-- All trials that are granted in messages. -/
def granted (ms : List ServerMessage) : Nat := (ms.map fun m => trials m.batches).sum

/-- The trials of a task that are granted in messages. -/
def grantedOf (ms : List ServerMessage) (task : TaskId) : Nat :=
  (ms.map fun m => trialsOf m.batches task).sum

/-- The message is a report on the task. -/
def WorkerMessage.reportsOn (task : TaskId) : WorkerMessage → Bool
  | .doneProcessing r => r.taskId = task
  | _ => false

/-- The trial of the task was made. -/
def resultOf (task : TaskId) : Except Error Completed → Bool
  | .ok done => done.record.taskId = task
  | .error _ => false

/-- The trials of a task that the coordinator has in its hands. -/
def Coordinator.jobs (c : Coordinator) (task : TaskId) : Nat :=
  c.results.countP (resultOf task) + c.pool.running.countP (fun job => job.taskId = task) +
    c.pool.pending.countP (fun job => job.taskId = task)

/-- The trials of a task that are still to be reported, wherever they are. -/
def Site.owed (s : Site) (task : TaskId) : Nat :=
  s.toServer.waiting.countP (WorkerMessage.reportsOn task) + s.coordinator.jobs task +
    grantedOf s.toWorker.waiting task

/-- The request among the messages asks for no more than the worker has threads for, besides what it
holds. Every report before the request makes room for one more trial. -/
def Affords : Nat → Nat → List WorkerMessage → Prop
  | _, _, [] => True
  | threads, load, .getInstances r :: rest => load + r.toNat ≤ threads ∧ requests rest = 0
  | threads, load, .doneProcessing _ :: rest => Affords (threads + 1) load rest
  | threads, load, .foundSolution _ :: rest => Affords threads load rest
  | threads, load, .disconnect :: rest => Affords threads load rest

section Messages

variable {ms ms' : List WorkerMessage} {m : WorkerMessage} {threads load : Nat}

theorem reports_append : reports (ms ++ ms') = reports ms + reports ms' := List.countP_append

theorem requests_append : requests (ms ++ ms') = requests ms + requests ms' := List.countP_append

theorem requests_cons : requests (m :: ms) = requests ms + if m.isRequest then 1 else 0 :=
  List.countP_cons

theorem requests_messages (done : Completed) : requests done.messages = 0 := by
  unfold Completed.messages
  cases done.solution with
  | none => rfl
  | some solution => rfl

/-- A finished trial is reported once. -/
theorem reports_messages (done : Completed) : reports done.messages = 1 := by
  unfold Completed.messages
  cases done.solution with
  | none => rfl
  | some solution => rfl

theorem requests_plain (plain : Plain ms) : requests ms = 0 := by
  rw [requests, List.countP_eq_zero]
  intro m member
  simp [(plain m member).2]

theorem countP_reportsOn_plain (plain : Plain ms) (task : TaskId) :
    ms.countP (WorkerMessage.reportsOn task) = 0 := by
  rw [List.countP_eq_zero]
  intro m member
  have unreported := (plain m member).1
  cases m with
  | doneProcessing r => cases unreported
  | foundSolution | getInstances | disconnect => simp [WorkerMessage.reportsOn]

/-- The report of a finished trial is on the trial's own task. -/
theorem countP_reportsOn_messages (done : Completed) (task : TaskId) :
    done.messages.countP (WorkerMessage.reportsOn task) =
      if done.record.taskId = task then 1 else 0 := by
  unfold Completed.messages
  cases done.solution with
  | none => simp [WorkerMessage.reportsOn]
  | some solution => simp [WorkerMessage.reportsOn]

/-- Messages without a request need no free threads. -/
theorem affords_of_none (none : requests ms = 0) : Affords threads load ms := by
  induction ms generalizing threads with
  | nil => trivial
  | cons m ms ih =>
    rw [requests_cons] at none
    cases m with
    | getInstances r => simp [WorkerMessage.isRequest] at none
    | foundSolution | doneProcessing | disconnect => exact ih none

/-- What follows the request does not matter, as long as it asks for nothing. -/
theorem Affords.append (afforded : Affords threads load ms) (none : requests ms' = 0) :
    Affords threads load (ms ++ ms') := by
  induction ms generalizing threads with
  | nil => exact affords_of_none none
  | cons m ms ih =>
    cases m with
    | getInstances r =>
      refine ⟨afforded.1, ?_⟩
      show requests (ms ++ ms') = 0
      rw [requests_append, afforded.2, none]
    | foundSolution | doneProcessing | disconnect => exact ih afforded

/-- Before a request no other one is on its way. -/
theorem affords_ask (none : requests ms = 0) {r : UInt32}
    (short : load + r.toNat ≤ threads + reports ms) :
    Affords threads load (ms ++ [.getInstances r]) := by
  induction ms generalizing threads with
  | nil => exact ⟨short, rfl⟩
  | cons m ms ih =>
    rw [requests_cons] at none
    rw [reports, List.countP_cons] at short
    cases m with
    | getInstances r => simp [WorkerMessage.isRequest] at none
    | foundSolution | disconnect => exact ih none short
    | doneProcessing r =>
      refine ih none ?_
      simp only [WorkerMessage.isReport, if_true] at short
      rw [reports]
      omega

/-- A report that is struck out takes back the room that it made. -/
theorem affords_succ : Affords (threads + 1) (load + 1) ms ↔ Affords threads load ms := by
  induction ms generalizing threads with
  | nil => exact Iff.rfl
  | cons m ms ih =>
    cases m with
    | getInstances r =>
      refine and_congr_left fun _ => ?_
      omega
    | foundSolution | doneProcessing | disconnect => exact ih

/-- A worker whose last messages are lost still asks for no more than it has threads for. -/
theorem Affords.take (afforded : Affords threads load ms) (n : Nat) :
    Affords threads load (ms.take n) := by
  induction ms generalizing threads n with
  | nil => simpa using afforded
  | cons m ms ih =>
    cases n with
    | zero => trivial
    | succ n =>
      rw [List.take_succ_cons]
      cases m with
      | getInstances r =>
        refine ⟨afforded.1, Nat.le_zero.mp ?_⟩
        rw [← afforded.2]
        exact (List.take_sublist n ms).countP_le
      | foundSolution | doneProcessing | disconnect => exact ih afforded n

end Messages

section Grants

variable {ms : List ServerMessage} {m : ServerMessage} {task : TaskId}

theorem grants_append (ms ms' : List ServerMessage) : grants (ms ++ ms') = grants ms + grants ms' :=
  List.countP_append

theorem grants_cons : grants (m :: ms) = grants ms + if m.isGrant then 1 else 0 := List.countP_cons

/-- The trials granted in two lists of messages add up. -/
theorem granted_append (ms ms' : List ServerMessage) :
    granted (ms ++ ms') = granted ms + granted ms' := by
  simp [granted]

theorem grantedOf_append (ms ms' : List ServerMessage) (task : TaskId) :
    grantedOf (ms ++ ms') task = grantedOf ms task + grantedOf ms' task := by
  simp [grantedOf]

theorem granted_cons : granted (m :: ms) = trials m.batches + granted ms := List.sum_cons

theorem grantedOf_cons : grantedOf (m :: ms) task = trialsOf m.batches task + grantedOf ms task :=
  List.sum_cons

theorem batches_of_not_grant (other : m.isGrant = false) : m.batches = [] := by
  cases m with
  | sendInstances batches => cases other
  | activate | terminate => rfl

/-- Without a grant nothing is granted. -/
theorem granted_of_none (none : grants ms = 0) : granted ms = 0 := by
  induction ms with
  | nil => rfl
  | cons m ms ih =>
    rw [grants_cons] at none
    have other : m.isGrant = false := by
      by_contra grant
      simp [grant] at none
    rw [granted_cons, batches_of_not_grant other, ih (by omega)]
    rfl

end Grants

namespace Coordinator

/-- A job that a thread takes up stays with the coordinator. -/
theorem jobs_start {c : Coordinator} {pool : Pool} (started : c.pool.start = some pool)
    (task : TaskId) : Coordinator.jobs { c with pool := pool } task = c.jobs task := by
  unfold Pool.start at started
  split at started
  · next free job pending _ waiting =>
    obtain rfl := Option.some.inj started
    unfold Coordinator.jobs
    simp only [waiting, List.countP_append, List.countP_cons, List.countP_nil]
    omega
  · simp at started

/-- A list of jobs has the jobs of a task that are left when one is taken out, and that one if it is
of the task. -/
theorem countP_erase_add {job : Job} {jobs : List Job} (member : job ∈ jobs) (task : TaskId) :
    (jobs.erase job).countP (fun job => job.taskId = task) + (if job.taskId = task then 1 else 0) =
      jobs.countP (fun job => job.taskId = task) := by
  rw [(List.perm_cons_erase member).countP_eq, List.countP_cons]
  simp only [decide_eq_true_eq]

/-- A trial that ends adds no trial to those in the coordinator's hands. -/
theorem jobs_finish (c : Coordinator) {job : Job} (running : job ∈ c.pool.running)
    (outcome : Except Error Outcome) (overall : Span) (task : TaskId) :
    Coordinator.jobs { c with
      pool := c.pool.finish job false
      results := c.results ++ [job.complete overall outcome] } task ≤ c.jobs task := by
  have made : resultOf task (job.complete overall outcome) = true → job.taskId = task := by
    cases outcome with
    | error e => exact fun no => nomatch no
    | ok o => exact of_decide_eq_true
  have fewer := countP_erase_add running task
  unfold Coordinator.jobs Pool.finish
  dsimp only
  rw [List.countP_append, List.countP_singleton]
  split
  · next yes =>
    rw [if_pos (made yes)] at fewer
    omega
  · omega

/-- A thread that dies takes its trial with it. -/
theorem jobs_die (c : Coordinator) {job : Job} (running : job ∈ c.pool.running) (task : TaskId) :
    Coordinator.jobs { c with pool := c.pool.finish job true } task ≤ c.jobs task := by
  have fewer := countP_erase_add running task
  unfold Coordinator.jobs Pool.finish
  dsimp only
  omega

/-- The first result is one of the trials in the coordinator's hands until it is returned. -/
theorem jobs_give {c : Coordinator} {done : Completed} {rest : List (Except Error Completed)}
    (first : c.results = .ok done :: rest) (task : TaskId) :
    c.jobs task = rest.countP (resultOf task) +
      c.pool.running.countP (fun job => job.taskId = task) +
      c.pool.pending.countP (fun job => job.taskId = task) +
      if done.record.taskId = task then 1 else 0 := by
  unfold Coordinator.jobs
  rw [first, List.countP_cons]
  simp only [resultOf, decide_eq_true_eq]
  omega

/-- Results may be dropped, and jobs that nobody started. -/
theorem jobs_drop {c c' : Coordinator} (results : c'.results <:+ c.results)
    (running : c'.pool.running = c.pool.running)
    (pending : c'.pool.pending = [] ∨ c'.pool.pending = c.pool.pending) (task : TaskId) :
    c'.jobs task ≤ c.jobs task := by
  have fewer := results.countP_le (p := resultOf task)
  unfold Coordinator.jobs
  rw [running]
  rcases pending with none | same
  · rw [none, List.countP_nil]
    omega
  · rw [same]
    omega

/-- A coordinator that stops drops trials and gets none. -/
theorem jobs_stop (c : Coordinator) (cause : Option Error) (task : TaskId) :
    (c.stop cause).jobs task ≤ c.jobs task := by
  refine jobs_drop ?_ ?_ ?_ task
  · exact List.suffix_refl c.results
  · rfl
  · exact Or.inl rfl

/-- A coordinator gets no more trials than the message grants it. -/
theorem jobs_obey (c : Coordinator) (m : ServerMessage) (task : TaskId) :
    (c.obey m).jobs task ≤ c.jobs task + trialsOf m.batches task := by
  obtain ⟨jobs, assigned, summary, obeyed, -, few, -⟩ := c.obey_spec m
  have := few task
  rw [obeyed]
  unfold Coordinator.jobs
  dsimp only
  rw [List.countP_append]
  omega

end Coordinator

end TrialFarm
