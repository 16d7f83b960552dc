import TrialFarm.Proofs.Cluster.Conversation
import TrialFarm.Proofs.Worker.Recorded

/-!
# What a coordinator says and does

All that a coordinator can do in one step, with what it says. Any connection will do: each message
may get through or fail.

## Main definitions

* `Stage.inRound`: it is the turn of the coordinator.
* `Coordinator.jobsOf`: the trials of a grant.
* `Coordinator.Proceeds`: what it can do by itself.
* `Coordinator.Heeds`: what it can do about a message.

## Main statements

* `Coordinator.accept_eq`: a grant is taken as a whole or dropped as a whole.
* `Coordinator.proceed_proceeds`, `Coordinator.onMessage_heeds`: nothing else can happen.
-/

namespace TrialFarm

open Wire

/-- It is the turn of the coordinator, and it has not asked for anything. -/
def Stage.inRound : Stage → Bool
  | .collect _ | .look _ | .ask _ | .idle => true
  | _ => false

/-- The coordinator was activated and works. -/
def Stage.isActive (s : Stage) : Bool := s.inRound || s.isAsked

theorem Stage.isWorking_of_inRound {s : Stage} (turn : s.inRound = true) : s.isWorking = true := by
  cases s <;> simp_all [inRound, isWorking]

theorem Stage.isWorking_of_isActive {s : Stage} (active : s.isActive = true) :
    s.isWorking = true := by
  cases s <;> simp_all [isActive, inRound, isAsked, isWorking]

theorem Stage.isActive_of_inRound {s : Stage} (turn : s.inRound = true) : s.isActive = true := by
  simp [isActive, turn]

theorem Stage.unasked_of_inRound {s : Stage} (turn : s.inRound = true) : s.isAsked = false := by
  cases s <;> simp_all [inRound, isAsked]

/-- A trial was reported. -/
def WorkerSummary.count (w : WorkerSummary) (done : Completed) : WorkerSummary :=
  { w with
    trialsCompleted := w.trialsCompleted + 1
    solutionsFound := w.solutionsFound + UInt64.ofNat done.solution.toList.length }

/-- Only solutions are sent. -/
def Announcing (ms : List WorkerMessage) : Prop := ∀ m ∈ ms, ∃ s, m = .foundSolution s

/-- Announcements do not say goodbye. -/
theorem Announcing.disconnect_not_mem {ms : List WorkerMessage} (announcing : Announcing ms) :
    .disconnect ∉ ms := by
  intro member
  obtain ⟨s, same⟩ := announcing _ member
  cases same

theorem Announcing.unasking {ms : List WorkerMessage} (announcing : Announcing ms) :
    ∀ m ∈ ms, m.isRequest = false := by
  intro m member
  obtain ⟨s, rfl⟩ := announcing m member
  rfl

theorem Completed.disconnect_not_mem (done : Completed) : .disconnect ∉ done.messages := by
  unfold messages
  cases done.solution <;> simp

theorem Completed.unasking (done : Completed) :
    ∀ m ∈ done.messages, m.isRequest = false := by
  intro m member
  unfold messages at member
  cases solution : done.solution with
  | none => simp_all [WorkerMessage.isRequest]
  | some found =>
    simp only [solution, Option.map_some, Option.toList_some, List.mem_append,
      List.mem_singleton] at member
    rcases member with rfl | rfl
    · rfl
    · rfl

namespace Coordinator

variable {c : Coordinator} {m : ServerMessage}

/-! ### Grants -/

/-- The trials of a grant. -/
def jobsOf (c : Coordinator) (bs : List Batch) : List Job :=
  bs.flatMap fun b => List.replicate b.instances.toNat (c.jobOf b)

/-- Batches make as many jobs as they have trials. -/
theorem length_jobsOf (c : Coordinator) (bs : List Batch) : (c.jobsOf bs).length = trials bs := by
  induction bs with
  | nil => rfl
  | cons b bs ih => simp [jobsOf, trials]

/-- Batches make as many jobs of a task as they have trials of it. -/
theorem countP_jobsOf (c : Coordinator) (bs : List Batch) (task : TaskId) :
    (c.jobsOf bs).countP (fun job => job.taskId = task) = trialsOf bs task := by
  induction bs with
  | nil => rfl
  | cons b bs ih =>
    rw [trialsOf_cons, ← ih, jobsOf, List.flatMap_cons, List.countP_append, List.countP_replicate]
    simp [jobOf, jobsOf, eq_comm]

/-- A worker that is to stop drops a grant. Otherwise all trials of it go into the pool. -/
theorem accept_eq (c : Coordinator) (bs : List Batch) :
    c.accept bs =
      if c.terminating then c.countDiscarded (UInt64.ofNat (trials bs))
      else
        { c with
          pool := c.pool.submitAll (c.jobsOf bs)
          assigned := c.assigned + trials bs } := by
  induction bs generalizing c with
  | nil =>
    by_cases told : c.terminating = true
    · rw [if_pos told, countDiscarded]
      simp [accept]
    · rw [if_neg told]
      simp [accept, jobsOf, Pool.submitAll]
  | cons b bs ih =>
    change accept (c.acceptBatch b) bs = _
    rw [ih, acceptBatch]
    by_cases told : c.terminating = true
    · simp [told, countDiscarded, UInt64.add_assoc]
    · simp [told, jobsOf, jobOf, Pool.submitAll, Nat.add_assoc]

/-- A worker that is to stop takes nothing more. -/
theorem obey_eq (c : Coordinator) (m : ServerMessage) :
    c.obey m =
      if c.terminating then c.countDiscarded (UInt64.ofNat (trials m.batches))
      else
        { c with
          pool := c.pool.submitAll (c.jobsOf m.batches)
          assigned := c.assigned + trials m.batches
          terminating := m.isTerminate } := by
  by_cases told : c.terminating = true
  · rw [if_pos told]
    cases m with
    | sendInstances batches => exact (c.accept_eq batches).trans (if_pos told)
    | activate | terminate => simp [obey, ServerMessage.batches, countDiscarded, ← told]
  · have untold : c.terminating = false := by simpa using told
    rw [if_neg told]
    cases m with
    | sendInstances batches =>
      refine (c.accept_eq batches).trans ((if_neg told).trans ?_)
      simp [ServerMessage.batches, ServerMessage.isTerminate, untold]
    | activate | terminate =>
      simp [obey, ServerMessage.batches, ServerMessage.isTerminate, jobsOf, Pool.submitAll,
        ← untold]

/-- A worker that is to stop after a message got no trials with it. -/
theorem obey_pool (told : (c.obey m).terminating = true) : (c.obey m).pool = c.pool := by
  by_cases before : c.terminating = true
  · rw [obey_eq, if_pos before]
    rfl
  · rw [obey_eq, if_neg before] at told ⊢
    cases m with
    | terminate => simp [ServerMessage.batches, jobsOf, Pool.submitAll]
    | activate | sendInstances => cases told

/-! ### Returning trials -/

section Sending

variable {ν : Type} (sender : Sender WorkerMessage ν) (p : ν × List WorkerMessage)

theorem sendSolution_outcome (c : Coordinator) (solution : Option Solution) :
    (∃ n, sendSolution sender.recorded c p solution =
      ({ c with summary := { c.summary with
          solutionsFound := c.summary.solutionsFound + UInt64.ofNat solution.toList.length } },
        (n, p.2 ++ (solution.map .foundSolution).toList), .ok ())) ∨
    ∃ n e, sender.Fails e ∧
      sendSolution sender.recorded c p solution = (c, (n, p.2), .error e) := by
  cases solution with
  | none => exact Or.inl ⟨p.1, by simp [sendSolution]⟩
  | some found =>
    unfold sendSolution
    dsimp only
    rcases sender.recorded_cases p (.foundSolution found) with ⟨n, sent⟩ | ⟨n, e, fails, failed⟩
    · rw [sent]
      exact Or.inl ⟨n, rfl⟩
    · rw [failed]
      exact Or.inr ⟨n, e, fails, rfl⟩

/-- A trial is reported as a whole, or an error comes up: that of the trial itself, or one of
sending. -/
theorem returnOne_outcome (c : Coordinator) (result : Except Error Completed) :
    (∃ done n, result = .ok done ∧ returnOne sender.recorded c p result =
      ({ c with assigned := c.assigned - 1, summary := c.summary.count done },
        (n, p.2 ++ done.messages), .ok ())) ∨
    ∃ assigned summary n ms e, (result = .error e ∨ sender.Fails e) ∧ Announcing ms ∧
      returnOne sender.recorded c p result =
        ({ c with assigned := assigned, summary := summary }, (n, p.2 ++ ms), .error e) := by
  cases result with
  | error e =>
    exact Or.inr ⟨c.assigned, c.summary, p.1, [], e, .inl rfl, nofun, by simp [returnOne]⟩
  | ok done =>
    unfold returnOne
    dsimp only
    rcases sendSolution_outcome sender p { c with assigned := c.assigned - 1 } done.solution with
      ⟨n, sent⟩ | ⟨n, e, fails, failed⟩
    · rw [sent]
      dsimp only
      rcases sender.recorded_cases (n, p.2 ++ (done.solution.map .foundSolution).toList)
        (.doneProcessing done.record) with ⟨n', sent'⟩ | ⟨n', e, fails, failed⟩
      · rw [sent']
        exact Or.inl ⟨done, n', rfl, by simp [Completed.messages, WorkerSummary.count]⟩
      · rw [failed]
        refine Or.inr ⟨_, _, n', (done.solution.map .foundSolution).toList, e, .inr fails, ?_, rfl⟩
        cases done.solution <;> simp [Announcing]
    · rw [failed]
      exact Or.inr ⟨c.assigned - 1, c.summary, n, [], e, .inr fails, nofun, by simp⟩

end Sending

/-! ### Acting without the server -/

/-- What a coordinator can do by itself, and what it says. -/
inductive Proceeds {ν : Type} (sender : Sender WorkerMessage ν) (c : Coordinator) :
    List WorkerMessage → Coordinator → Prop
  | rest : Proceeds sender c [] c
  | shift {stage : Stage} (turn : c.stage.inRound = true) (goes : stage.inRound = true) :
      Proceeds sender c [] { c with stage := stage }
  /-- It returns a trial, in its turn or as one of the last. -/
  | give {done : Completed} {rest : List (Except Error Completed)} {stage : Stage}
      (first : c.results = .ok done :: rest)
      (stays : c.stage.inRound = true ∧ stage.inRound = true ∨
        c.stage = .flush ∧ stage = .flush) :
      Proceeds sender c done.messages
        { c with
          stage := stage
          results := rest
          assigned := c.assigned - 1
          summary := c.summary.count done }
  /-- It is short of trials and asks for as many. -/
  | ask (turn : c.stage.inRound = true) {requests : UInt64} (short : 0 < c.shortfall) :
      Proceeds sender c [.getInstances (UInt32.ofNat c.shortfall)]
        { c with stage := .awaitGrant, summary := { c.summary with requests := requests } }
  /-- It gives up. -/
  | quit {results : List (Except Error Completed)} {assigned : Nat} {summary : WorkerSummary}
      {ms : List WorkerMessage} {e : Error} (turn : c.stage.inRound = true)
      (left : results <:+ c.results) (cause : .error e ∈ c.results ∨ sender.Fails e)
      (announcing : Announcing ms) :
      Proceeds sender c ms
        { c with
          stage := .stopping (some e)
          pool := { c.pool with pending := [] }
          results := results
          assigned := assigned
          summary := summary }
  /-- The last trial has ended. -/
  | drain (stops : c.stage = .stopping none) (quiet : c.pool.running = []) :
      Proceeds sender c [] { c with stage := .flush }
  /-- It has returned everything and says goodbye. -/
  | part (last : c.stage = .flush) (none : c.results = []) :
      Proceeds sender c [.disconnect] { c with stage := .farewell }
  /-- It fails when it returns the last trials, or when it says goodbye. -/
  | fail {results : List (Except Error Completed)} {assigned : Nat} {summary : WorkerSummary}
      {ms : List WorkerMessage} {e : Error} (last : c.stage = .flush)
      (left : results <:+ c.results) (cause : .error e ∈ c.results ∨ sender.Fails e)
      (announcing : Announcing ms) :
      Proceeds sender c ms
        { c with
          stage := .finished (.error e)
          results := results
          assigned := assigned
          summary := summary }
  /-- It says goodbye because of an error. -/
  | abort {e : Error} {ms : List WorkerMessage} (stops : c.stage = .stopping (some e))
      (parting : ms = [.disconnect] ∨ ms = [] ∧ ∃ e', sender.Fails e') :
      Proceeds sender c ms { c with stage := .finished (.error e) }

section Proceeding

variable {ν : Type} {sender : Sender WorkerMessage ν} {p : ν × List WorkerMessage}

/-- What happens, and what is written down. -/
def Yields (sender : Sender WorkerMessage ν) (c : Coordinator) (p : ν × List WorkerMessage)
    (next : Coordinator × (ν × List WorkerMessage)) : Prop :=
  ∃ ms, next.2.2 = p.2 ++ ms ∧ Proceeds sender c ms next.1

/-- What returning the first result can come to. -/
theorem returnFirst_yields {result : Except Error Completed} {rest : List (Except Error Completed)}
    {stage : Stage} (first : c.results = result :: rest) (turn : c.stage.inRound = true)
    (goes : stage.inRound = true) :
    Yields sender c p (returnFirst sender.recorded c p result rest
      fun c => { c with stage := stage }) := by
  unfold returnFirst
  rcases returnOne_outcome sender p { c with results := rest } result with
    ⟨done, n, rfl, sent⟩ | ⟨assigned, summary, n, ms, e, cause, announcing, failed⟩
  · rw [sent]
    exact ⟨done.messages, rfl, .give first (.inl ⟨turn, goes⟩)⟩
  · rw [failed]
    have left : rest <:+ c.results := first ▸ List.suffix_cons result rest
    refine ⟨ms, rfl, .quit turn left (cause.imp_left fun same => ?_) announcing⟩
    simp [first, same]

theorem request_yields (turn : c.stage.inRound = true) (short : 0 < c.shortfall) :
    Yields sender c p (request sender.recorded c p) := by
  unfold request
  rcases sender.recorded_cases p (.getInstances (UInt32.ofNat c.shortfall)) with
    ⟨n, sent⟩ | ⟨n, e, fails, failed⟩
  · rw [sent]
    exact ⟨_, rfl, .ask turn short⟩
  · rw [failed]
    exact ⟨[], by simp, .quit turn (List.suffix_refl _) (.inr fails) nofun⟩

theorem takeLeave_yields (last : c.stage = .flush) :
    Yields sender c p (takeLeave sender.recorded c p) := by
  unfold takeLeave
  cases results : c.results with
  | cons result rest =>
    dsimp only
    rcases returnOne_outcome sender p { c with results := rest } result with
      ⟨done, n, rfl, sent⟩ | ⟨assigned, summary, n, ms, e, cause, announcing, failed⟩
    · rw [sent]
      exact ⟨done.messages, rfl, .give results (.inr ⟨last, last⟩)⟩
    · rw [failed]
      have left : rest <:+ c.results := results ▸ List.suffix_cons result rest
      refine ⟨ms, rfl, .fail last left (cause.imp_left fun same => ?_) announcing⟩
      simp [results, same]
  | nil =>
    dsimp only
    rcases sender.recorded_cases p .disconnect with ⟨n, sent⟩ | ⟨n, e, fails, failed⟩
    · rw [sent, ← results]
      exact ⟨_, rfl, .part last results⟩
    · rw [failed]
      exact ⟨[], by simp, .fail last (results ▸ List.suffix_refl _) (.inr fails) nofun⟩

theorem abort_yields {e : Error} (stops : c.stage = .stopping (some e)) :
    Yields sender c p (abort sender.recorded c p e) := by
  unfold abort
  rcases sender.recorded_cases p .disconnect with ⟨n, sent⟩ | ⟨n, e', fails, failed⟩
  · rw [sent]
    exact ⟨_, rfl, .abort stops (.inl rfl)⟩
  · rw [failed]
    exact ⟨[], by simp [Sender.recorded], .abort stops (.inr ⟨rfl, e', fails⟩)⟩

/-- A coordinator that proceeds does one of the things that it can do. -/
theorem proceed_proceeds (sender : Sender WorkerMessage ν) (c : Coordinator)
    (p : ν × List WorkerMessage) :
    ∃ ms, (proceed sender.recorded c p).2.2 = p.2 ++ ms ∧
      Proceeds sender c ms (proceed sender.recorded c p).1 := by
  have stay : Yields sender c p (c, p) := ⟨[], by simp, .rest⟩
  have shift {stage : Stage} (turn : c.stage.inRound = true) (goes : stage.inRound = true) :
      Yields sender c p ({ c with stage := stage }, p) := ⟨[], by simp, .shift turn goes⟩
  change Yields sender c p _
  unfold proceed
  cases stage : c.stage with
  | collect moved =>
    have turn : c.stage.inRound = true := by rw [stage]; rfl
    dsimp only
    split
    · next result rest results => exact returnFirst_yields results turn rfl
    · exact shift turn rfl
  | ask moved =>
    have turn : c.stage.inRound = true := by rw [stage]; rfl
    dsimp only
    split
    · next wants =>
      rw [Bool.and_eq_true, decide_eq_true_eq] at wants
      exact request_yields turn wants.1
    · split
      · exact shift turn rfl
      · exact shift turn rfl
  | idle =>
    have turn : c.stage.inRound = true := by rw [stage]; rfl
    dsimp only
    split
    · next result rest results => exact returnFirst_yields results turn rfl
    · exact stay
  | stopping cause =>
    dsimp only
    split
    · next quiet =>
      cases cause with
      | none => exact ⟨[], by simp, .drain stage (List.isEmpty_iff.mp quiet)⟩
      | some e => exact abort_yields stage
    · exact stay
  | flush => exact takeLeave_yields stage
  | awaitActivation | look | awaitGrant | farewell | finished => exact stay

end Proceeding

/-! ### Messages of the server -/

/-- What a coordinator can do about a message. -/
inductive Heeds (c : Coordinator) (m : ServerMessage) : Coordinator → Prop
  /-- It goes on. If it was told to stop, it waits for a grant first. -/
  | heed {stage : Stage} {backingOff : Bool} (working : c.stage.isWorking = true)
      (goes : stage.isWorking = true)
      (asked : stage.isAsked = (c.stage.isAsked && !m.isGrant))
      (told : (c.obey m).terminating = true →
        stage.isAsked = true ∨ c.terminating = true ∧ c.stage.isAsked = false)
      (roused : stage.isActive = true → c.stage.isActive = true ∨ m = .activate) :
      Heeds c m { c.obey m with stage := stage, backingOff := backingOff }
  /-- It was told to stop and stops. -/
  | halt {backingOff : Bool} (working : c.stage.isWorking = true)
      (answered : c.stage.isAsked = true → m.isGrant = true)
      (told : (c.obey m).terminating = true) :
      Heeds c m ({ c.obey m with backingOff := backingOff }.stop none)
  /-- It has said goodbye. -/
  | ignore (parted : c.stage.isFarewell = true) : Heeds c m c

theorem onMessage_heeds (listens : c.listens = true) (m : ServerMessage) :
    Heeds c m (c.onMessage m) := by
  unfold Coordinator.listens at listens
  unfold onMessage
  cases stage : c.stage with
  | awaitActivation =>
    have working : c.stage.isWorking = true := by rw [stage]; rfl
    have unasked : c.stage.isAsked = false := by rw [stage]; rfl
    cases m with
    | activate =>
      exact .heed working rfl (by rw [unasked]; rfl) (fun told => .inr ⟨told, unasked⟩)
        fun _ => .inr rfl
    | terminate => exact .halt working (by rw [unasked]; simp) rfl
    | sendInstances batches =>
      -- Nobody asked for this grant. It is taken, but the coordinator waits on.
      have stays := c.obey_stage (.sendInstances batches)
      have goes : (c.obey (.sendInstances batches)).stage.isWorking = true := stays ▸ working
      have waits : (c.obey (.sendInstances batches)).stage.isAsked = false := stays ▸ unasked
      obtain ⟨jobs, assigned, summary, obeyed, -⟩ := c.obey_spec (.sendInstances batches)
      refine .heed working goes (waits.trans (by rw [unasked]; rfl)) (fun told => ?_)
        fun active => ?_
      · rw [obeyed] at told
        exact .inr ⟨by simpa [ServerMessage.isTerminate] using told, unasked⟩
      · exact .inl (stays ▸ active)
  | look moved =>
    have working : c.stage.isWorking = true := by rw [stage]; rfl
    have unasked : c.stage.isAsked = false := by rw [stage]; rfl
    have active : c.stage.isActive = true := by rw [stage]; rfl
    dsimp only
    split
    · next told => exact .halt working (by rw [unasked]; simp) told
    · next untold =>
      exact .heed working rfl (by rw [unasked]; rfl) (fun told => absurd told untold)
        fun _ => .inl active
  | awaitGrant =>
    -- Only the grant ends the wait, also for a coordinator that was told to stop.
    have working : c.stage.isWorking = true := by rw [stage]; rfl
    have asked : c.stage.isAsked = true := by rw [stage]; rfl
    have active : c.stage.isActive = true := by rw [stage]; rfl
    cases m with
    | sendInstances batches =>
      dsimp only
      unfold nextRound
      split
      · next told => exact .halt working (fun _ => rfl) told
      · next untold =>
        exact .heed working rfl (by rw [asked]; rfl) (fun told => absurd told untold)
          fun _ => .inl active
    | activate | terminate =>
      exact .heed working working (by rw [asked]; rfl) (fun _ => .inl asked) fun _ => .inl active
  | idle =>
    have working : c.stage.isWorking = true := by rw [stage]; rfl
    have unasked : c.stage.isAsked = false := by rw [stage]; rfl
    have active : c.stage.isActive = true := by rw [stage]; rfl
    unfold nextRound
    dsimp only
    split
    · next told => exact .halt working (by rw [unasked]; simp) told
    · next untold =>
      exact .heed working rfl (by rw [unasked]; rfl) (fun told => absurd told untold)
        fun _ => .inl active
  | farewell => exact .ignore (by rw [stage]; rfl)
  | collect | ask | stopping | flush | finished => simp [stage] at listens

/-- A coordinator that does not listen passes over messages. -/
theorem onMessage_of_deaf (deaf : c.listens = false) (m : ServerMessage) : c.onMessage m = c := by
  unfold Coordinator.listens at deaf
  unfold onMessage
  cases stage : c.stage with
  | awaitActivation | look | awaitGrant | idle | farewell => simp [stage] at deaf
  | collect | ask | stopping | flush | finished => rfl

end Coordinator

end TrialFarm
