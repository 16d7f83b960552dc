import TrialFarm.Proofs.Worker.Acts

/-!
# Moves of a site

What can happen at a site, read off the machine of the coordinator once and for all.

## Main definitions

* `Site.Move`: all that an event can do to a site.

## Main statements

* `Site.step_move`: every event of a site is a move.
-/

namespace TrialFarm

/-- All that an event can do to a site. -/
inductive Site.Move (shape : String → UInt64 × UInt64) (s : Site) : Site → Prop
  | rest : s.Move shape s
  /-- A trial starts. -/
  | start {pool : Pool} (started : s.coordinator.pool.start = some pool) :
      s.Move shape { s with coordinator := { s.coordinator with pool := pool } }
  /-- A trial ends. -/
  | finish {job : Job} {outcome : Except Error Outcome} {overall : Span}
      (running : job ∈ s.coordinator.pool.running)
      (conforms : ∀ o, outcome = .ok o → (o.numVars, o.numClauses) = shape job.path) :
      s.Move shape
        { s with
          coordinator :=
            { s.coordinator with
              pool := s.coordinator.pool.finish job false
              results := s.coordinator.results ++ [job.complete overall outcome] } }
  /-- A trial takes its thread down. -/
  | die {job : Job} (running : job ∈ s.coordinator.pool.running) :
      s.Move shape
        { s with coordinator := { s.coordinator with pool := s.coordinator.pool.finish job true } }
  /-- The coordinator goes on without saying anything. -/
  | shift {stage : Stage} {backingOff : Bool} (same : s.coordinator.stage.Same stage) :
      s.Move shape
        { s with coordinator := { s.coordinator with stage := stage, backingOff := backingOff } }
  /-- It returns a trial. -/
  | give {done : Completed} {rest : List (Except Error Completed)} {stage : Stage}
      {summary : WorkerSummary} (first : s.coordinator.results = .ok done :: rest)
      (same : s.coordinator.stage.Same stage) :
      s.Move shape
        { s with
          coordinator :=
            { s.coordinator with
              stage := stage
              results := rest
              assigned := s.coordinator.assigned - 1
              summary := summary }
          toServer := s.toServer.putAll done.messages }
  /-- It asks for trials. -/
  | ask {moved : Bool} {summary : WorkerSummary} (asks : s.coordinator.stage = .ask moved) :
      s.Move shape
        { s with
          coordinator := { s.coordinator with stage := .awaitGrant, summary := summary }
          toServer := s.toServer.put (.getInstances (UInt32.ofNat s.coordinator.shortfall)) }
  /-- It gives up and waits for the running trials. -/
  | quit {results : List (Except Error Completed)} {assigned : Nat} {cause : Option Error}
      {summary : WorkerSummary} {ms : List WorkerMessage}
      (unasked : s.coordinator.stage.isAsked = false)
      (left : results <:+ s.coordinator.results) (plain : Plain ms) :
      s.Move shape
        { s with
          coordinator :=
            { s.coordinator with
              stage := .stopping cause
              pool := { s.coordinator.pool with pending := [] }
              results := results
              assigned := assigned
              summary := summary }
          toServer := s.toServer.putAll ms }
  /-- It says goodbye. -/
  | part (last : s.coordinator.stage = .flush) :
      s.Move shape
        { s with
          coordinator := { s.coordinator with stage := .farewell }
          toServer := s.toServer.put .disconnect }
  /-- It is done and closes the connection. -/
  | leave {results : List (Except Error Completed)} {assigned : Nat}
      {result : Except Error WorkerSummary} {summary : WorkerSummary} {ms : List WorkerMessage}
      (left : results <:+ s.coordinator.results) (plain : Plain ms) :
      s.Move shape
        { coordinator :=
            { s.coordinator with
              stage := .finished result
              results := results
              assigned := assigned
              summary := summary }
          toServer := (s.toServer.putAll ms).finish
          toWorker := s.toWorker.abandon }
  /-- It takes a message and goes on. -/
  | heed {m : ServerMessage} {rest : Pipe ServerMessage} {stage : Stage} {backingOff : Bool}
      (came : s.toWorker.next = some (.message m, rest))
      (working : s.coordinator.stage.isWorking = true) (goes : stage.isWorking = true)
      (asked : stage.isAsked = (s.coordinator.stage.isAsked && !m.isGrant))
      (heeds : (s.coordinator.obey m).terminating = true →
        stage.isAsked = true ∨
          s.coordinator.terminating = true ∧ s.coordinator.stage.isAsked = false) :
      s.Move shape
        { s with
          coordinator := { s.coordinator.obey m with stage := stage, backingOff := backingOff }
          toWorker := rest }
  /-- It takes a message and stops. -/
  | halt {m : ServerMessage} {rest : Pipe ServerMessage} {backingOff : Bool}
      (came : s.toWorker.next = some (.message m, rest))
      (answered : s.coordinator.stage.isAsked = true → m.isGrant = true) :
      s.Move shape
        { s with
          coordinator := { s.coordinator.obey m with backingOff := backingOff }.stop none
          toWorker := rest }
  /-- It has said goodbye and passes over a message. -/
  | ignore {m : ServerMessage} {rest : Pipe ServerMessage}
      (came : s.toWorker.next = some (.message m, rest))
      (parted : s.coordinator.stage.isFarewell = true) : s.Move shape { s with toWorker := rest }
  /-- It finds the connection closed too early. -/
  | strand {rest : Pipe ServerMessage} {cause : Option Error}
      (came : s.toWorker.next = some (.close, rest)) :
      s.Move shape { s with coordinator := s.coordinator.stop cause, toWorker := rest }

namespace Site

variable {shape : String → UInt64 × UInt64} {s : Site}

/-- The pipes of a coordinator that is not finished stay as they are. -/
theorem settle_of_unfinished {c : Coordinator} {toServer : Pipe WorkerMessage}
    {toWorker : Pipe ServerMessage} (unfinished : c.stage.isFinished = false) :
    settle ⟨c, toServer, toWorker⟩ = ⟨c, toServer, toWorker⟩ := by
  unfold settle
  rw [if_neg (by simp [unfinished])]

/-- A coordinator that is finished leaves both its pipes. -/
theorem settle_of_finished {c : Coordinator} {toServer : Pipe WorkerMessage}
    {toWorker : Pipe ServerMessage} (finished : c.stage.isFinished = true) :
    settle ⟨c, toServer, toWorker⟩ = ⟨c, toServer.finish, toWorker.abandon⟩ := by
  unfold settle
  rw [if_pos finished]

theorem finish_finish {α : Type} (p : Pipe α) : p.finish.finish = p.finish := by
  have := p.flow_finish
  rw [Pipe.finish, if_neg this]

/-- Returning the oldest trial either succeeds or makes the coordinator give up. -/
theorem returnFirst_move {result : Except Error Completed} {rest : List (Except Error Completed)}
    {stage : Stage} (first : s.coordinator.results = result :: rest)
    (unasked : s.coordinator.stage.isAsked = false) (same : s.coordinator.stage.Same stage)
    (unfinished : s.coordinator.stage.isFinished = false) (failures : List (Option Error))
    {next : Coordinator × Outlet WorkerMessage}
    (returned : Coordinator.returnFirst Outlet.sender s.coordinator ⟨s.toServer, failures⟩ result
      rest (fun c => { c with stage := stage }) = next) :
    s.Move shape (settle ⟨next.1, next.2.pipe, s.toWorker⟩) := by
  subst returned
  unfold Coordinator.returnFirst
  rcases Coordinator.returnOne_cases { s.coordinator with results := rest }
      ⟨s.toServer, failures⟩ result with
    ⟨done, summary, failures', rfl, sent⟩ | ⟨assigned, summary, ms, failures', e, plain, failed⟩
  · rw [sent, settle_of_unfinished (same.finished.trans unfinished)]
    exact .give first same
  · rw [failed, settle_of_unfinished rfl]
    have left : rest <:+ s.coordinator.results := first ▸ List.suffix_cons result rest
    exact .quit unasked left plain

/-- The last trials are returned one by one; then the coordinator says goodbye. -/
theorem takeLeave_move (last : s.coordinator.stage = .flush) (failures : List (Option Error))
    {next : Coordinator × Outlet WorkerMessage}
    (left : Coordinator.takeLeave Outlet.sender s.coordinator ⟨s.toServer, failures⟩ = next) :
    s.Move shape (settle ⟨next.1, next.2.pipe, s.toWorker⟩) := by
  subst left
  have unfinished : s.coordinator.stage.isFinished = false := by rw [last]; rfl
  unfold Coordinator.takeLeave
  cases results : s.coordinator.results with
  | cons result rest =>
    dsimp only
    rcases Coordinator.returnOne_cases { s.coordinator with results := rest }
        ⟨s.toServer, failures⟩ result with
      ⟨done, summary, failures', rfl, sent⟩ | ⟨assigned, summary, ms, failures', e, plain, failed⟩
    · rw [sent, settle_of_unfinished]
      · exact .give results ⟨rfl, rfl, rfl, rfl⟩
      · exact unfinished
    · rw [failed, settle_of_finished rfl]
      exact .leave (results ▸ List.suffix_cons result rest) plain
  | nil =>
    dsimp only
    rcases Outlet.send_cases ⟨s.toServer, failures⟩ WorkerMessage.disconnect with
      ⟨failures', sent⟩ | ⟨failures', e, failed⟩
    · rw [sent, settle_of_unfinished rfl, ← results]
      exact .part last
    · rw [failed, settle_of_finished rfl]
      change s.Move shape ⟨_, (s.toServer.putAll []).finish, _⟩
      exact .leave (results ▸ List.suffix_refl _) plain_nil

theorem abort_move (failures : List (Option Error)) (cause : Error)
    {next : Coordinator × Outlet WorkerMessage}
    (left : Coordinator.abort Outlet.sender s.coordinator ⟨s.toServer, failures⟩ cause = next) :
    s.Move shape (settle ⟨next.1, next.2.pipe, s.toWorker⟩) := by
  subst left
  unfold Coordinator.abort
  rcases Outlet.send_cases ⟨s.toServer, failures⟩ WorkerMessage.disconnect with
    ⟨failures', sent⟩ | ⟨failures', e, failed⟩
  · -- The coordinator closes the pipe itself, and once more when it is done.
    rw [sent, settle_of_finished rfl]
    change s.Move shape ⟨_, ((s.toServer.putAll [.disconnect]).finish).finish, _⟩
    rw [finish_finish]
    refine .leave (List.suffix_refl _) ?_
    simp [Plain, WorkerMessage.isReport, WorkerMessage.isRequest]
  · rw [failed, settle_of_finished rfl]
    change s.Move shape ⟨_, ((s.toServer.putAll []).finish).finish, _⟩
    rw [finish_finish]
    exact .leave (List.suffix_refl _) plain_nil

theorem request_move {moved : Bool} (asks : s.coordinator.stage = .ask moved)
    (failures : List (Option Error)) {next : Coordinator × Outlet WorkerMessage}
    (asked : Coordinator.request Outlet.sender s.coordinator ⟨s.toServer, failures⟩ = next) :
    s.Move shape (settle ⟨next.1, next.2.pipe, s.toWorker⟩) := by
  subst asked
  unfold Coordinator.request
  rcases Outlet.send_cases ⟨s.toServer, failures⟩
      (WorkerMessage.getInstances (UInt32.ofNat s.coordinator.shortfall)) with
    ⟨failures', sent⟩ | ⟨failures', e, failed⟩
  · rw [sent, settle_of_unfinished rfl]
    exact .ask asks
  · rw [failed, settle_of_unfinished rfl]
    change s.Move shape ⟨_, s.toServer.putAll [], _⟩
    exact .quit (by rw [asks]; rfl) (List.suffix_refl _) plain_nil

/-- A coordinator that goes on by itself makes a move, at every point of the conversation. -/
theorem proceed_move (unfinished : s.coordinator.stage.isFinished = false)
    (failures : List (Option Error)) : s.Move shape (s.act failures .proceed) := by
  have stay : s.Move shape (settle ⟨s.coordinator, s.toServer, s.toWorker⟩) := by
    rw [settle_of_unfinished unfinished]
    exact .rest
  change s.Move shape (settle ⟨(Coordinator.proceed Outlet.sender s.coordinator
    ⟨s.toServer, failures⟩).1, (Coordinator.proceed Outlet.sender s.coordinator
    ⟨s.toServer, failures⟩).2.pipe, s.toWorker⟩)
  unfold Coordinator.proceed
  cases stage : s.coordinator.stage with
  | collect moved =>
    dsimp only
    split
    · next result rest results =>
      exact returnFirst_move results (by rw [stage]; rfl)
        (by rw [stage]; exact ⟨rfl, rfl, rfl, rfl⟩) unfinished failures rfl
    · rw [settle_of_unfinished rfl]
      exact .shift (by rw [stage]; exact ⟨rfl, rfl, rfl, rfl⟩)
  | ask moved =>
    dsimp only
    split
    · exact request_move stage failures rfl
    · split
      · rw [settle_of_unfinished rfl]
        exact .shift (by rw [stage]; exact ⟨rfl, rfl, rfl, rfl⟩)
      · rw [settle_of_unfinished rfl]
        exact .shift (by rw [stage]; exact ⟨rfl, rfl, rfl, rfl⟩)
  | idle =>
    dsimp only
    split
    · next result rest results =>
      exact returnFirst_move results (by rw [stage]; rfl)
        (by rw [stage]; exact ⟨rfl, rfl, rfl, rfl⟩) unfinished failures rfl
    · exact stay
  | stopping cause =>
    dsimp only
    split
    · cases cause with
      | none =>
        rw [settle_of_unfinished rfl]
        exact .shift (by rw [stage]; exact ⟨rfl, rfl, rfl, rfl⟩)
      | some e => exact abort_move failures e rfl
    · exact stay
  | flush => exact takeLeave_move stage failures rfl
  | awaitActivation | look | awaitGrant | farewell => exact stay
  | finished result =>
    rw [stage] at unfinished
    cases unfinished

/-! ### Receiving -/

/-- A coordinator that listens makes a move with every message. -/
theorem onMessage_move {m : ServerMessage} {rest : Pipe ServerMessage}
    (came : s.toWorker.next = some (.message m, rest)) (listens : s.coordinator.listens = true) :
    s.Move shape { s with coordinator := s.coordinator.onMessage m, toWorker := rest } := by
  have heeds := Coordinator.onMessage_heeds listens m
  generalize s.coordinator.onMessage m = c at heeds
  cases heeds with
  | heed working goes asked told => exact .heed came working goes asked told
  | halt working answered told => exact .halt came answered
  | ignore parted => exact .ignore came parted

/-- Whatever comes out of the pipe from the server, the site makes a move. -/
theorem receive_move (failure : Option Error) : s.Move shape (s.receive failure) := by
  unfold receive
  split
  · next listens =>
    split
    · next came rest next =>
      cases came with
      | message m =>
        change s.Move shape (settle ⟨s.coordinator.onMessage m, s.toServer, rest⟩)
        rw [settle_of_unfinished (Coordinator.onMessage_unfinished listens m)]
        exact onMessage_move next listens
      | close =>
        have ended (e : Error) :
            s.Move shape (settle ⟨s.coordinator.onEnd e, s.toServer, rest⟩) := by
          unfold Coordinator.listens at listens
          unfold Coordinator.onEnd
          cases stage : s.coordinator.stage with
          | awaitActivation | look | awaitGrant | idle =>
            rw [settle_of_unfinished rfl]
            exact .strand next
          | farewell =>
            -- This is the end that the coordinator waits for.
            rw [settle_of_finished rfl]
            change s.Move shape ⟨_, (s.toServer.putAll []).finish, _⟩
            exact .leave (List.suffix_refl _) plain_nil
          | collect | ask | stopping | flush | finished => simp [stage] at listens
        cases failure with
        | none => exact ended Coordinator.serverGone
        | some e => exact ended e
    · exact .rest
  · exact .rest

/-- Every event of a site is one of the moves. -/
theorem step_move {e : SiteEvent} (conforms : e.Conforms shape) : s.Move shape (s.step e) := by
  unfold step
  split
  · exact .rest
  next working =>
  have unfinished : s.coordinator.stage.isFinished = false := by simpa using working
  have stay : s.Move shape (settle ⟨s.coordinator, s.toServer, s.toWorker⟩) := by
    rw [settle_of_unfinished unfinished]
    exact .rest
  cases e with
  | started =>
    unfold act Coordinator.step
    dsimp only
    split
    · next started =>
      rw [settle_of_unfinished]
      · exact .start started
      · exact unfinished
    · exact stay
  | ended job outcome overall =>
    unfold act Coordinator.step Coordinator.onTrialEnded
    dsimp only
    split
    · next running =>
      rw [settle_of_unfinished]
      · refine .finish (by simpa using running) ?_
        rintro o rfl
        exact conforms
      · exact unfinished
    · exact stay
  | died job =>
    unfold act Coordinator.step Coordinator.onTrialDied
    dsimp only
    split
    · next running =>
      rw [settle_of_unfinished]
      · exact .die (by simpa using running)
      · exact unfinished
    · exact stay
  | ticked =>
    unfold act Coordinator.step Coordinator.onTick
    dsimp only
    split
    · next stage =>
      rw [settle_of_unfinished rfl]
      exact .shift (by rw [stage]; exact ⟨rfl, rfl, rfl, rfl⟩)
    · rw [settle_of_unfinished]
      · have same : s.coordinator.stage.Same s.coordinator.stage := ⟨rfl, rfl, rfl, rfl⟩
        exact .shift same
      · exact unfinished
  | proceeds failures => exact proceed_move unfinished failures
  | looks =>
    unfold act Coordinator.step Coordinator.onArrival
    dsimp only
    split
    · next moved stage =>
      rw [settle_of_unfinished rfl]
      exact .shift (by rw [stage]; exact ⟨rfl, rfl, rfl, rfl⟩)
    · exact stay
  | receives failure => exact receive_move failure

end Site

end TrialFarm
