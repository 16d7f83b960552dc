import TrialFarm.Proofs.Cluster.System

/-!
# What a coordinator does

How the functions of a coordinator act when it speaks through a pipe. Where its conversation stands
is told by a few questions: whether it goes on, whether a request is unanswered, whether goodbye was
said.

## Main definitions

* `Stage.isWorking`, `Stage.isAsked`, `Stage.isFarewell`, `Stage.Same`: the questions, and stages
  that answer them alike.
* `Completed.messages`: what is sent for a finished trial.

## Main statements

* `Coordinator.returnOne_cases`: returning a trial.
* `Coordinator.obey_spec`: taking a message.
-/

namespace TrialFarm

/-- The conversation with the server goes on. -/
def Stage.isWorking : Stage → Bool
  | .stopping _ | .flush | .farewell | .finished _ => false
  | _ => true

/-- A request is unanswered. -/
def Stage.isAsked : Stage → Bool
  | .awaitGrant => true
  | _ => false

/-- Goodbye was said. -/
def Stage.isFarewell : Stage → Bool
  | .farewell => true
  | _ => false

/-- The conversation stands at the same point. -/
structure Stage.Same (a b : Stage) : Prop where
  working : b.isWorking = a.isWorking
  asked : b.isAsked = a.isAsked
  farewell : b.isFarewell = a.isFarewell
  finished : b.isFinished = a.isFinished

/-- The message reports a trial. -/
def WorkerMessage.isReport : WorkerMessage → Bool
  | .doneProcessing _ => true
  | _ => false

/-- The message asks for trials. -/
def WorkerMessage.isRequest : WorkerMessage → Bool
  | .getInstances _ => true
  | _ => false

/-- The message grants trials. -/
def ServerMessage.isGrant : ServerMessage → Bool
  | .sendInstances _ => true
  | _ => false

/-- The message tells the worker to stop. -/
def ServerMessage.isTerminate : ServerMessage → Bool
  | .terminate => true
  | _ => false

/-- The batches of a grant; none of any other message. -/
def ServerMessage.batches : ServerMessage → List Batch
  | .sendInstances batches => batches
  | _ => []

/-- What is sent for a finished trial. -/
def Completed.messages (done : Completed) : List WorkerMessage :=
  (done.solution.map .foundSolution).toList ++ [.doneProcessing done.record]

/-- Messages that neither report trials nor ask for any. -/
def Plain (ms : List WorkerMessage) : Prop :=
  ∀ m ∈ ms, m.isReport = false ∧ m.isRequest = false

theorem plain_nil : Plain [] := fun _ member => nomatch member

namespace Coordinator

variable {c c' : Coordinator}

/-! ### Returning trials -/

/-- A solution is put into the pipe to the server, or sending it fails and nothing was put in. -/
theorem sendSolution_cases (c : Coordinator) (o : Outlet WorkerMessage)
    (solution : Option Solution) :
    (∃ summary failures, sendSolution Outlet.sender c o solution =
      ({ c with summary := summary },
        ⟨o.pipe.putAll (solution.map .foundSolution).toList, failures⟩, .ok ())) ∨
    ∃ failures e, sendSolution Outlet.sender c o solution = (c, ⟨o.pipe, failures⟩, .error e) := by
  cases solution with
  | none => exact Or.inl ⟨c.summary, o.failures, rfl⟩
  | some found =>
    unfold sendSolution
    dsimp only
    rcases o.send_cases (.foundSolution found) with ⟨failures, sent⟩ | ⟨failures, e, failed⟩
    · rw [sent]
      exact Or.inl ⟨_, failures, rfl⟩
    · rw [failed]
      exact Or.inr ⟨failures, e, rfl⟩

/-- A result is returned in full, or returning it fails before its report is put in. -/
theorem returnOne_cases (c : Coordinator) (o : Outlet WorkerMessage)
    (result : Except Error Completed) :
    (∃ done summary failures, result = .ok done ∧ returnOne Outlet.sender c o result =
      ({ c with assigned := c.assigned - 1, summary := summary },
        ⟨o.pipe.putAll done.messages, failures⟩, .ok ())) ∨
    ∃ assigned summary ms failures e, Plain ms ∧ returnOne Outlet.sender c o result =
      ({ c with assigned := assigned, summary := summary },
        ⟨o.pipe.putAll ms, failures⟩, .error e) := by
  cases result with
  | error e => exact Or.inr ⟨c.assigned, c.summary, [], o.failures, e, plain_nil, rfl⟩
  | ok done =>
    unfold returnOne
    dsimp only
    rcases sendSolution_cases { c with assigned := c.assigned - 1 } o done.solution with
      ⟨summary, failures, sent⟩ | ⟨failures, e, failed⟩
    · rw [sent]
      dsimp only
      rcases Outlet.send_cases ⟨o.pipe.putAll (done.solution.map .foundSolution).toList, failures⟩
        (.doneProcessing done.record) with ⟨failures', sent'⟩ | ⟨failures', e, failed'⟩
      · rw [sent']
        refine Or.inl ⟨done, { summary with trialsCompleted := summary.trialsCompleted + 1 },
          failures', rfl, ?_⟩
        rw [Completed.messages, Pipe.putAll_append]
        rfl
      · rw [failed']
        refine Or.inr ⟨c.assigned - 1, summary, _, failures', e, ?_, rfl⟩
        intro m member
        cases solution : done.solution with
        | none => simp [solution] at member
        | some found =>
          simp only [solution, Option.map_some, Option.toList_some, List.mem_singleton] at member
          rw [member]
          exact ⟨rfl, rfl⟩
    · rw [failed]
      exact Or.inr ⟨c.assigned - 1, c.summary, [], failures, e, plain_nil, rfl⟩

/-! ### Taking messages -/

/-- Jobs of a grant wait in the pool, unless the worker is to stop. -/
theorem accept_spec (c : Coordinator) (bs : List Batch) :
    ∃ jobs assigned summary,
      c.accept bs =
        { c with
          pool := { c.pool with pending := c.pool.pending ++ jobs }
          assigned := assigned
          summary := summary } ∧
      (c.terminating = false → assigned = c.assigned + trials bs) ∧
      (∀ task, jobs.countP (fun job => job.taskId = task) ≤ trialsOf bs task) ∧
      ∀ job ∈ jobs, ∃ b ∈ bs, job.taskId = b.taskId ∧ job.path = b.file.filename := by
  induction bs generalizing c with
  | nil => exact ⟨[], c.assigned, c.summary, by simp [accept], by simp, by simp, by simp⟩
  | cons b bs ih =>
    change ∃ jobs assigned summary, accept (c.acceptBatch b) bs = _ ∧ _
    unfold acceptBatch
    by_cases stops : c.terminating = true
    · rw [if_pos stops]
      obtain ⟨jobs, assigned, summary, accepted, -, few, known⟩ :=
        ih (c.countDiscarded b.instances.toUInt64)
      refine ⟨jobs, assigned, summary, accepted, by simp [stops], fun task => ?_, ?_⟩
      · have := few task
        rw [trialsOf_cons]
        omega
      · intro job member
        obtain ⟨b', inside, same⟩ := known job member
        exact ⟨b', List.mem_cons_of_mem b inside, same⟩
    · rw [if_neg stops]
      obtain ⟨jobs, assigned, summary, accepted, counted, few, known⟩ := ih
        { c with
          pool := c.pool.submitAll (List.replicate b.instances.toNat (c.jobOf b))
          assigned := c.assigned + b.instances.toNat }
      refine ⟨List.replicate b.instances.toNat (c.jobOf b) ++ jobs, assigned, summary,
        ?_, ?_, ?_, ?_⟩
      · rw [accepted]
        simp [Pool.submitAll]
      · intro goes
        rw [counted goes, trials_cons]
        exact Nat.add_assoc ..
      · intro task
        have := few task
        rw [List.countP_append, List.countP_replicate, trialsOf_cons]
        change (if decide (b.taskId = task) = true then _ else _) + _ ≤ _
        by_cases same : b.taskId = task
        · simp only [same, decide_true, if_true]
          omega
        · simp only [same, decide_false, if_false, Bool.false_eq_true]
          omega
      · intro job member
        rcases List.mem_append.mp member with first | later
        · rw [(List.mem_replicate.mp first).2]
          exact ⟨b, List.mem_cons_self .., rfl, rfl⟩
        · obtain ⟨b', inside, same⟩ := known job later
          exact ⟨b', List.mem_cons_of_mem b inside, same⟩

/-- Obeying a message adds jobs to the queue and may set the wish to stop, and changes nothing else
but the counts. -/
theorem obey_spec (c : Coordinator) (m : ServerMessage) :
    ∃ jobs assigned summary,
      c.obey m =
        { c with
          pool := { c.pool with pending := c.pool.pending ++ jobs }
          assigned := assigned
          terminating := c.terminating || m.isTerminate
          summary := summary } ∧
      (c.terminating = false → assigned = c.assigned + trials m.batches) ∧
      (∀ task, jobs.countP (fun job => job.taskId = task) ≤ trialsOf m.batches task) ∧
      ∀ job ∈ jobs, ∃ b ∈ m.batches, job.taskId = b.taskId ∧ job.path = b.file.filename := by
  cases m with
  | sendInstances batches =>
    obtain ⟨jobs, assigned, summary, accepted, rest⟩ := c.accept_spec batches
    refine ⟨jobs, assigned, summary, ?_, rest⟩
    change c.accept batches = _
    rw [accepted]
    simp [ServerMessage.isTerminate]
  | activate | terminate =>
    refine ⟨[], c.assigned, c.summary, ?_, fun _ => rfl, by simp, by simp⟩
    simp [obey, ServerMessage.isTerminate]

/-- Obeying a message does not move the conversation on. -/
theorem obey_stage (c : Coordinator) (m : ServerMessage) : (c.obey m).stage = c.stage := by
  obtain ⟨jobs, assigned, summary, obeyed, -⟩ := c.obey_spec m
  rw [obeyed]

/-- No message ends a coordinator that listens. -/
theorem onMessage_unfinished {c : Coordinator} (listens : c.listens = true) (m : ServerMessage) :
    (c.onMessage m).stage.isFinished = false := by
  have stays := c.obey_stage m
  unfold Coordinator.listens at listens
  unfold onMessage
  cases stage : c.stage with
  | awaitActivation =>
    cases m with
    | activate | terminate => rfl
    | sendInstances batches =>
      change (c.obey (.sendInstances batches)).stage.isFinished = false
      rw [stays, stage]
      rfl
  | look moved =>
    dsimp only
    split
    · rfl
    · rfl
  | awaitGrant =>
    cases m with
    | sendInstances batches =>
      dsimp only
      unfold nextRound
      split
      · rfl
      · rfl
    | activate | terminate =>
      dsimp only
      rw [stays, stage]
      rfl
  | idle =>
    dsimp only
    unfold nextRound
    split
    · rfl
    · rfl
  | farewell =>
    dsimp only
    rw [stage]
    rfl
  | collect | ask | stopping | flush | finished => simp [stage] at listens

end Coordinator

end TrialFarm
