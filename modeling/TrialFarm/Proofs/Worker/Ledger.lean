import TrialFarm.Proofs.Cluster.Accounts
import TrialFarm.Proofs.Worker.Acts

/-!
# The ledger of a worker

A bench is a coordinator with its pool, on a connection of any kind. While it works somebody keeps a
ledger of the trials: which ones were granted, and what became of each.

## Main definitions

* `JobLedger`: what became of the trials that were granted.
* `Bench`: a coordinator with a connection, what it has said, and the ledger.
* `BenchEvent`, `Bench.step`, `Bench.run`: what can happen at a bench.
* `Bench.runAlone`: the same if nothing is written down.
* `Bench.Move`: all that an event can do to a bench.

## Main statements

* `Bench.run_alone`: nothing is different because it is written down.
* `Bench.step_heard`: what a message does.
* `Bench.step_move`: every event is a move.
-/

namespace TrialFarm

open Wire

/-- A trial that ended. -/
structure Ended where
  job : Job
  outcome : Except Error Outcome
  overall : Span

/-- What the coordinator gets of it. -/
def Ended.result (t : Ended) : Except Error Completed := t.job.complete t.overall t.outcome

/-- What became of the trials that were granted. -/
structure JobLedger where
  /-- The grants that were taken before goodbye. -/
  grants : List Batch
  /-- Trials that went into the pool. -/
  accepted : List Job
  /-- Trials that were granted when the worker was to stop. -/
  refused : List Job
  /-- Trials that were waiting when the worker stopped. -/
  dropped : List Job
  started : List Job
  /-- Trials that ended, the first one first. -/
  ended : List Ended
  /-- Trials that took their threads down. -/
  died : List Job

namespace JobLedger

/-- Nothing was granted yet. -/
def empty : JobLedger := ⟨[], [], [], [], [], [], []⟩

/-- All trials that the worker gave up on. -/
def discarded (l : JobLedger) : List Job := l.refused ++ l.dropped

/-- Enters a message of the server. -/
def grant (l : JobLedger) (c : Coordinator) (m : ServerMessage) : JobLedger :=
  if c.terminating then
    { l with grants := l.grants ++ m.batches, refused := l.refused ++ c.jobsOf m.batches }
  else { l with grants := l.grants ++ m.batches, accepted := l.accepted ++ c.jobsOf m.batches }

/-- Enters what happened besides, while `c` became `c'`. -/
def drop (l : JobLedger) (c c' : Coordinator) : JobLedger :=
  if c.stage.isWorking && !c'.stage.isWorking then
    { l with dropped := l.dropped ++ c.pool.pending }
  else l

@[simp] theorem ended_grant (l : JobLedger) (c : Coordinator) (m : ServerMessage) :
    (l.grant c m).ended = l.ended := by
  unfold grant
  split <;> rfl

@[simp] theorem ended_drop (l : JobLedger) (c c' : Coordinator) :
    (l.drop c c').ended = l.ended := by
  unfold drop
  split <;> rfl

@[simp] theorem accepted_drop (l : JobLedger) (c c' : Coordinator) :
    (l.drop c c').accepted = l.accepted := by
  unfold drop
  split <;> rfl

variable {l : JobLedger} {c c' : Coordinator}

/-- Nothing is dropped unless work comes to its end. -/
theorem drop_of_same (same : c'.stage.isWorking = c.stage.isWorking) : l.drop c c' = l := by
  rw [drop, same]
  simp

/-- A coordinator that stops drops the jobs that no thread has taken up. -/
theorem drop_of_stop (working : c.stage.isWorking = true) (stops : c'.stage.isWorking = false) :
    l.drop c c' = { l with dropped := l.dropped ++ c.pool.pending } := by
  simp [drop, working, stops]

end JobLedger

/-- A free thread starts the job at some place, if there are both. -/
def Pool.startAt (p : Pool) (i : Nat) : Option (Job × Pool) :=
  match p.free, p.pending[i]? with
  | free + 1, some job =>
    some (job, { p with
      free := free
      pending := p.pending.eraseIdx i
      running := p.running ++ [job] })
  | _, _ => none

theorem Pool.start_eq (p : Pool) : p.start = (p.startAt 0).map Prod.snd := by
  obtain ⟨threads, free, pending, running⟩ := p
  cases free with
  | zero => rfl
  | succ free =>
    cases pending with
    | nil => rfl
    | cons job pending => rfl

/-- Enters an event of the coordinator. -/
def JobLedger.enter (l : JobLedger) (c : Coordinator) : CoordinatorEvent → JobLedger
  | .trialStarted =>
    match c.pool.startAt 0 with
    | some (job, _) => { l with started := l.started ++ [job] }
    | none => l
  | .trialEnded job outcome overall =>
    if c.pool.running.contains job then { l with ended := l.ended ++ [⟨job, outcome, overall⟩] }
    else l
  | .trialDied job =>
    if c.pool.running.contains job then { l with died := l.died ++ [job] } else l
  | .received (.message m) => if c.listens && c.stage.isWorking then l.grant c m else l
  | _ => l

/-- A coordinator at work. -/
structure Bench (ν : Type) where
  coordinator : Coordinator
  connection : ν
  /-- The messages that got through. -/
  sent : List WorkerMessage
  ledger : JobLedger

/-- What can happen at a bench. -/
inductive BenchEvent where
  | acts (e : CoordinatorEvent)
  /-- A free thread starts a job out of turn. The coordinator drops the jobs that wait one after the
  other, and threads may start some in between. Seen from the end these were started before all the
  others were dropped, but not in turn. -/
  | slips (i : Nat)

namespace BenchEvent

/-- The connection goes on. -/
def Keeps : BenchEvent → Prop
  | .acts (.received .closed) | .acts (.received (.failed _)) => False
  | _ => True

/-- The message that an event brings to a coordinator, if it listens to one. -/
def heard (c : Coordinator) : BenchEvent → Option ServerMessage
  | .acts (.received (.message m)) => if c.listens then some m else none
  | _ => none

/-- The worker is activated, asks for trials, gets some of a file and starts the first of them. -/
def opening (b : Batch) : List BenchEvent :=
  [.acts (.received (.message .activate)), .acts .proceed, .acts (.received .nothing),
    .acts .proceed, .acts (.received (.message (.sendInstances [b]))), .acts .trialStarted]

/-- The worker looks for a command and is told to stop. -/
def ending : List BenchEvent := [.acts .proceed, .acts (.received (.message .terminate))]

/-- The worker finds that all trials have ended, says goodbye and sees the connection close. -/
def parting : List BenchEvent := [.acts .proceed, .acts .proceed, .acts (.received .closed)]

end BenchEvent

namespace Bench

variable {ν : Type}

/-- A coordinator that has not said anything. -/
def fresh (c : Coordinator) (n : ν) : Bench ν := ⟨c, n, [], JobLedger.empty⟩

/-- The effect of an event. -/
def step (sender : Sender WorkerMessage ν) (b : Bench ν) : BenchEvent → Bench ν
  | .acts e =>
    let (c, n, sent) := b.coordinator.step sender.recorded (b.connection, b.sent) e
    ⟨c, n, sent, (b.ledger.enter b.coordinator e).drop b.coordinator c⟩
  | .slips i =>
    match b.coordinator.pool.startAt i with
    | some (job, pool) =>
      { b with
        coordinator := { b.coordinator with pool := pool }
        ledger := { b.ledger with started := b.ledger.started ++ [job] } }
    | none => b

/-- The effect of events. -/
def run (sender : Sender WorkerMessage ν) (b : Bench ν) (events : List BenchEvent) : Bench ν :=
  events.foldl (step sender) b

/-- The effect of an event if nothing is written down. -/
def stepAlone (sender : Sender WorkerMessage ν) (p : Coordinator × ν) : BenchEvent → Coordinator × ν
  | .acts e => p.1.step sender p.2 e
  | .slips i =>
    match p.1.pool.startAt i with
    | some (_, pool) => ({ p.1 with pool := pool }, p.2)
    | none => p

/-- The effect of events on a coordinator and its connection if nothing is written down. -/
def runAlone (sender : Sender WorkerMessage ν) (c : Coordinator) (n : ν)
    (events : List BenchEvent) : Coordinator × ν :=
  events.foldl (stepAlone sender) (c, n)

/-- What is written down changes nothing for the coordinator. -/
theorem step_alone (sender : Sender WorkerMessage ν) (b : Bench ν) (e : BenchEvent) :
    stepAlone sender (b.coordinator, b.connection) e =
      ((b.step sender e).coordinator, (b.step sender e).connection) := by
  cases e with
  | acts e => exact b.coordinator.step_recorded sender (b.connection, b.sent) e
  | slips i =>
    unfold stepAlone step
    dsimp only
    split
    · rfl
    · rfl

/-- The coordinator of a bench runs as it does alone. -/
theorem run_alone (sender : Sender WorkerMessage ν) (b : Bench ν) (events : List BenchEvent) :
    runAlone sender b.coordinator b.connection events =
      ((b.run sender events).coordinator, (b.run sender events).connection) := by
  induction events generalizing b with
  | nil => rfl
  | cons e events ih =>
    rw [runAlone, List.foldl_cons, step_alone]
    exact ih (b.step sender e)

/-- All that an event can do to a bench. -/
inductive Move (sender : Sender WorkerMessage ν) (b : Bench ν) : BenchEvent → Bench ν → Prop
  | rest {e : BenchEvent} : Move sender b e b
  | start {e : BenchEvent} {i : Nat} {job : Job} {pool : Pool}
      (started : b.coordinator.pool.startAt i = some (job, pool)) :
      Move sender b e
        { b with
          coordinator := { b.coordinator with pool := pool }
          ledger := { b.ledger with started := b.ledger.started ++ [job] } }
  | finish {e : BenchEvent} (t : Ended) (running : t.job ∈ b.coordinator.pool.running) :
      Move sender b e
        { b with
          coordinator :=
            { b.coordinator with
              pool := b.coordinator.pool.finish t.job false
              results := b.coordinator.results ++ [t.result] }
          ledger := { b.ledger with ended := b.ledger.ended ++ [t] } }
  | die {e : BenchEvent} {job : Job} (running : job ∈ b.coordinator.pool.running) :
      Move sender b e
        { b with
          coordinator := { b.coordinator with pool := b.coordinator.pool.finish job true }
          ledger := { b.ledger with died := b.ledger.died ++ [job] } }
  /-- Time passes, or nothing was received. -/
  | wait {e : BenchEvent} {stage : Stage} {backingOff : Bool}
      (stays : b.coordinator.stage.inRound = true ∧ stage.inRound = true ∨
        stage = b.coordinator.stage) :
      Move sender b e
        { b with coordinator := { b.coordinator with stage := stage, backingOff := backingOff } }
  | proceed {e : BenchEvent} {n : ν} {ms : List WorkerMessage} {c : Coordinator}
      (proceeds : b.coordinator.Proceeds sender ms c) :
      Move sender b e ⟨c, n, b.sent ++ ms, b.ledger.drop b.coordinator c⟩
  | take {e : BenchEvent} {m : ServerMessage} {c : Coordinator}
      (working : b.coordinator.stage.isWorking = true) (heeds : b.coordinator.Heeds m c)
      (heard : e.heard b.coordinator = some m) :
      Move sender b e
        { b with
          coordinator := c
          ledger := (b.ledger.grant b.coordinator m).drop b.coordinator c }
  /-- The connection ends too early. -/
  | strand {e : BenchEvent} {cause : Error} (working : b.coordinator.stage.isWorking = true)
      (broken : ¬ e.Keeps) :
      Move sender b e
        { b with
          coordinator := b.coordinator.stop (some cause)
          ledger := b.ledger.drop b.coordinator (b.coordinator.stop (some cause)) }
  /-- The connection ends after goodbye. -/
  | close {e : BenchEvent} (parted : b.coordinator.stage = .farewell) :
      Move sender b e
        { b with
          coordinator :=
            { b.coordinator with stage := .finished (.ok b.coordinator.summary) } }

variable {sender : Sender WorkerMessage ν} {b : Bench ν}

/-- A message is taken while the coordinator works. It says nothing then. -/
theorem step_heard {e : BenchEvent} {m : ServerMessage} (hears : e.heard b.coordinator = some m) :
    (b.coordinator.stage.isWorking = true ∧ ∃ c, b.coordinator.Heeds m c ∧ b.step sender e =
      { b with
        coordinator := c
        ledger := (b.ledger.grant b.coordinator m).drop b.coordinator c }) ∨
    b.coordinator.stage.isFarewell = true ∧ b.step sender e = b := by
  unfold BenchEvent.heard at hears
  split at hears
  case h_2 => cases hears
  case h_1 m' =>
  split at hears
  case isFalse => cases hears
  case isTrue listens =>
  cases hears
  have heeds := Coordinator.onMessage_heeds listens m
  change _ ∨ _ ∧ (⟨b.coordinator.onMessage m, b.connection, b.sent,
    JobLedger.drop (if _ then _ else _) b.coordinator (b.coordinator.onMessage m)⟩ : Bench ν) = b
  by_cases working : b.coordinator.stage.isWorking = true
  · refine Or.inl ⟨working, _, heeds, ?_⟩
    change (⟨b.coordinator.onMessage m, b.connection, b.sent,
      JobLedger.drop (if _ then _ else _) b.coordinator (b.coordinator.onMessage m)⟩ : Bench ν) = _
    rw [if_pos (by simp [listens, working])]
  · rw [if_neg (by simp [working])]
    generalize b.coordinator.onMessage m = c at heeds
    cases heeds with
    | heed works => exact absurd works working
    | halt works => exact absurd works working
    | ignore parted => exact Or.inr ⟨parted, by rw [JobLedger.drop_of_same rfl]⟩

/-- Whatever arrives, the worker makes a move. -/
theorem received_move (arrival : Arrival ServerMessage) :
    b.Move sender (.acts (.received arrival)) (b.step sender (.acts (.received arrival))) := by
  change b.Move sender _ ⟨b.coordinator.onArrival arrival, b.connection, b.sent, _⟩
  have stay : b.Move sender (.acts (.received arrival)) ⟨b.coordinator, b.connection, b.sent,
      b.ledger.drop b.coordinator b.coordinator⟩ := by
    rw [JobLedger.drop_of_same rfl]
    exact .rest
  have ended (e : Error) (broken : ¬ (BenchEvent.acts (.received arrival)).Keeps) :
      b.Move sender (.acts (.received arrival)) ⟨b.coordinator.onEnd e, b.connection, b.sent,
        b.ledger.drop b.coordinator (b.coordinator.onEnd e)⟩ := by
    unfold Coordinator.onEnd
    cases stage : b.coordinator.stage with
    | awaitActivation | look | awaitGrant | idle => exact .strand (by rw [stage]; rfl) broken
    | farewell =>
      rw [JobLedger.drop_of_same (by rw [stage]; rfl)]
      exact .close stage
    | collect | ask | stopping | flush | finished => exact stay
  cases arrival with
  | nothing =>
    change b.Move sender _ ⟨_, _, _, b.ledger.drop b.coordinator _⟩
    unfold Coordinator.onArrival
    dsimp only
    split
    · next moved stage =>
      rw [JobLedger.drop_of_same (by rw [stage]; rfl)]
      exact .wait (.inl ⟨by rw [stage]; rfl, rfl⟩)
    · exact stay
  | message m =>
    by_cases listens : b.coordinator.listens = true
    · have hears : BenchEvent.heard b.coordinator (.acts (.received (.message m))) = some m :=
        if_pos listens
      change b.Move sender _ (b.step sender (.acts (.received (.message m))))
      rcases step_heard hears with ⟨working, c, heeds, taken⟩ | ⟨-, ignored⟩
      · rw [taken]
        exact .take working heeds hears
      · rw [ignored]
        exact .rest
    · change b.Move sender _ ⟨b.coordinator.onMessage m, b.connection, b.sent,
        JobLedger.drop (if _ then _ else _) b.coordinator (b.coordinator.onMessage m)⟩
      rw [if_neg (by simp [listens]), Coordinator.onMessage_of_deaf (by simpa using listens) m]
      exact stay
  | closed => exact ended _ id
  | failed e => exact ended _ id

/-- Every event of a bench is one of the moves. -/
theorem step_move (sender : Sender WorkerMessage ν) (b : Bench ν) (e : BenchEvent) :
    b.Move sender e (b.step sender e) := by
  have same (l : JobLedger) : JobLedger.drop l b.coordinator b.coordinator = l :=
    JobLedger.drop_of_same rfl
  cases e with
  | slips i =>
    unfold step
    dsimp only
    split
    · next started => exact .start started
    · exact .rest
  | acts e =>
    cases e with
    | trialStarted =>
      unfold step Coordinator.step JobLedger.enter
      dsimp only
      rw [Pool.start_eq]
      cases started : b.coordinator.pool.startAt 0 with
      | none =>
        dsimp only [Option.map_none]
        rw [same]
        exact .rest
      | some taken =>
        dsimp only [Option.map_some]
        rw [JobLedger.drop_of_same (by rfl)]
        exact .start started
    | trialEnded job outcome overall =>
      unfold step Coordinator.step Coordinator.onTrialEnded JobLedger.enter
      dsimp only
      split
      · next running =>
        rw [JobLedger.drop_of_same (by rfl)]
        exact .finish ⟨job, outcome, overall⟩ (by simpa using running)
      · rw [same]
        exact .rest
    | trialDied job =>
      unfold step Coordinator.step Coordinator.onTrialDied JobLedger.enter
      dsimp only
      split
      · next running =>
        rw [JobLedger.drop_of_same (by rfl)]
        exact .die (by simpa using running)
      · rw [same]
        exact .rest
    | received arrival => exact received_move arrival
    | tick =>
      unfold step Coordinator.step Coordinator.onTick JobLedger.enter
      dsimp only
      split
      · next stage =>
        rw [JobLedger.drop_of_same (by rw [stage]; rfl)]
        exact .wait (.inl ⟨by rw [stage]; rfl, rfl⟩)
      · rw [JobLedger.drop_of_same (by rfl)]
        exact .wait (.inr rfl)
    | proceed =>
      obtain ⟨ms, sent, proceeds⟩ :=
        Coordinator.proceed_proceeds sender b.coordinator (b.connection, b.sent)
      change b.Move sender _ ⟨_, _, (Coordinator.proceed sender.recorded b.coordinator
        (b.connection, b.sent)).2.2, _⟩
      rw [sent]
      exact .proceed proceeds

/-- What every move of a bench keeps holds after every run. -/
theorem run_keeps {P : Bench ν → Prop} (events : List BenchEvent)
    (keeps : ∀ b b' e, e ∈ events → P b → b.Move sender e b' → P b') (begins : P b) :
    P (b.run sender events) := by
  induction events generalizing b with
  | nil => exact begins
  | cons e events ih =>
    refine ih (fun b b' e member => keeps b b' e (List.mem_cons_of_mem _ member)) ?_
    exact keeps b _ e (List.mem_cons_self ..) begins (b.step_move sender e)

end Bench

end TrialFarm
