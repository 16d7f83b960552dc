import TrialFarm.Proofs.Cluster.Accounts
import TrialFarm.Proofs.Cluster.Moves
import TrialFarm.Proofs.Server.Holdings

/-!
# What ties a worker to the server

As long as a worker is on the roster, the roster and the worker agree on what is between them: what
the worker still has to report is on the roster, what is on the roster the worker has threads for,
and at most one question or answer is on its way.

## Main definitions

* `Site.Tied`: the agreement of a site with what the roster says the worker holds.

## Main statements

* `Site.Tied.move`: whatever happens at the site keeps the agreement.
-/

namespace TrialFarm

/-- The site agrees with what the roster says its worker holds. -/
structure Site.Tied (s : Site) (h : Holdings) : Prop where
  /-- All that is still to be reported is held. -/
  owes : ∀ task, s.owed task ≤ h.held task
  fits : h.load ≤ s.coordinator.settings.threads
  affords : Affords s.coordinator.settings.threads h.load s.toServer.waiting
  linked : s.toServer.flow = .flowing → s.toWorker.flow = .flowing
  /-- A request or its answer is on its way exactly while the coordinator waits for it. -/
  turn : s.toServer.flow = .flowing →
    requests s.toServer.waiting + grants s.toWorker.waiting =
      if s.coordinator.stage.isAsked then 1 else 0
  /-- All that is held is reported, assigned or granted, until the worker stops. -/
  covered : s.toServer.flow = .flowing → s.coordinator.terminating = false →
    s.coordinator.stage.isWorking = true →
    h.load ≤ reports s.toServer.waiting + s.coordinator.assigned + granted s.toWorker.waiting
  /-- Of the stages in which it works, a worker that is to stop is only in the one for an answer. -/
  heeds : s.coordinator.terminating = true → s.coordinator.stage.isWorking = true →
    s.coordinator.stage.isAsked = true
  goodbye : s.toServer.flow = .flowing → s.coordinator.stage.isFarewell = true →
    .disconnect ∈ s.toServer.waiting
  closed : s.coordinator.stage.isFinished = true → s.toServer.flow ≠ .flowing

namespace Site

variable {s s' : Site} {h : Holdings} {shape : String → UInt64 × UInt64}

/-- A worker that has just joined owes nothing and holds nothing. -/
theorem tied_fresh {settings : CoordinatorSettings} {c : Coordinator}
    (started : Coordinator.start settings = .ok c) : (fresh c).Tied [] := by
  unfold Coordinator.start at started
  split at started
  · simp at started
  · simp only [Except.ok.injEq] at started
    subst started
    refine ⟨fun task => ?_, Nat.zero_le _, trivial, fun _ => rfl, fun _ => rfl, fun _ _ _ => ?_,
      fun stops => ?_, fun _ parted => ?_, fun finished => ?_⟩
    · exact Nat.le_refl 0
    · exact Nat.zero_le _
    · cases stops
    · cases parted
    · cases finished

/-! ### Moves that say nothing -/

/-- A move keeps the agreement if it touches no pipe, no count and not the point of the
conversation. -/
theorem Tied.local (tied : s.Tied h) {c : Coordinator}
    (settings : c.settings = s.coordinator.settings)
    (jobs : ∀ task, c.jobs task ≤ s.coordinator.jobs task)
    (assigned : c.assigned = s.coordinator.assigned)
    (terminating : c.terminating = s.coordinator.terminating)
    (same : s.coordinator.stage.Same c.stage) :
    Site.Tied { s with coordinator := c } h where
  owes task := by
    have := tied.owes task
    have := jobs task
    unfold Site.owed at *
    dsimp only
    omega
  fits := settings ▸ tied.fits
  affords := settings ▸ tied.affords
  linked := tied.linked
  turn flowing := same.asked ▸ tied.turn flowing
  covered flowing goes working := by
    show h.load ≤ _ + c.assigned + _
    rw [assigned]
    exact tied.covered flowing (terminating ▸ goes) (same.working ▸ working)
  heeds stops working := by
    show c.stage.isAsked = true
    rw [same.asked]
    exact tied.heeds (terminating ▸ stops) (same.working ▸ working)
  goodbye flowing parted := tied.goodbye flowing (same.farewell ▸ parted)
  closed finished := tied.closed (same.finished ▸ finished)

/-! ### Moves that speak -/

/-- A tied site stays tied when it returns its first result. -/
theorem Tied.give (tied : s.Tied h) {done : Completed} {rest : List (Except Error Completed)}
    {stage : Stage} {summary : WorkerSummary} (first : s.coordinator.results = .ok done :: rest)
    (same : s.coordinator.stage.Same stage) :
    Site.Tied
      { s with
        coordinator :=
          { s.coordinator with
            stage := stage
            results := rest
            assigned := s.coordinator.assigned - 1
            summary := summary }
        toServer := s.toServer.putAll done.messages } h where
  owes task := by
    have owes := tied.owes task
    have jobs := Coordinator.jobs_give first task
    have sent := s.toServer.countP_putAll_le done.messages (WorkerMessage.reportsOn task)
    rw [countP_reportsOn_messages] at sent
    unfold Site.owed at *
    rw [jobs] at owes
    unfold Coordinator.jobs
    dsimp only
    omega
  fits := tied.fits
  affords := by
    by_cases flowing : s.toServer.flow = .flowing
    · rw [Pipe.waiting_putAll flowing]
      exact tied.affords.append (requests_messages done)
    · rw [Pipe.putAll_of_not_flowing flowing]
      exact tied.affords
  linked flowing := tied.linked (by simpa using flowing)
  turn flowing := by
    rw [Pipe.flow_putAll] at flowing
    rw [Pipe.waiting_putAll flowing, requests_append, requests_messages, same.asked]
    exact tied.turn flowing
  covered flowing goes working := by
    rw [Pipe.flow_putAll] at flowing
    have covered := tied.covered flowing goes (same.working ▸ working)
    -- The report covers from now on what the assigned job covered.
    rw [Pipe.waiting_putAll flowing, reports_append, reports_messages]
    dsimp only
    omega
  heeds stops working := by
    show stage.isAsked = true
    rw [same.asked]
    exact tied.heeds stops (same.working ▸ working)
  goodbye flowing parted := by
    rw [Pipe.flow_putAll] at flowing
    exact Pipe.mem_putAll_of_mem (tied.goodbye flowing (same.farewell ▸ parted))
  closed finished := by
    rw [Pipe.flow_putAll]
    exact tied.closed (same.finished ▸ finished)

/-- A tied site stays tied when it waits for the answer to its request. -/
theorem Tied.ask (tied : s.Tied h) {moved : Bool} {summary : WorkerSummary}
    (asks : s.coordinator.stage = .ask moved) :
    Site.Tied
      { s with
        coordinator := { s.coordinator with stage := .awaitGrant, summary := summary }
        toServer := s.toServer.put (.getInstances (UInt32.ofNat s.coordinator.shortfall)) } h := by
  have working : s.coordinator.stage.isWorking = true := by rw [asks]; rfl
  have unasked : s.coordinator.stage.isAsked = false := by rw [asks]; rfl
  by_cases flowing : s.toServer.flow = .flowing
  · -- The coordinator waits for no answer, so nothing is granted on the way, and what it holds is
    -- all assigned or reported.
    obtain ⟨silent, none⟩ : requests s.toServer.waiting = 0 ∧ grants s.toWorker.waiting = 0 := by
      simpa [unasked] using tied.turn flowing
    have ungranted := granted_of_none none
    have goes : s.coordinator.terminating = false := by
      by_contra stops
      have := tied.heeds (by simpa using stops) working
      rw [unasked] at this
      cases this
    have covered := tied.covered flowing goes working
    have fits := tied.fits
    have asked : (UInt32.ofNat s.coordinator.shortfall).toNat ≤ s.coordinator.shortfall := by
      rw [UInt32.toNat_ofNat']
      exact Nat.mod_le _ _
    unfold Coordinator.shortfall at asked
    refine ⟨fun task => ?_, fits, ?_, fun _ => tied.linked flowing, fun _ => ?_, fun _ _ _ => ?_,
      fun _ _ => rfl, fun _ parted => ?_, fun finished => ?_⟩
    · have owes := tied.owes task
      unfold Site.owed at *
      dsimp only
      rw [Pipe.waiting_put flowing, List.countP_append]
      exact owes
    · rw [Pipe.waiting_put flowing]
      refine affords_ask silent ?_
      unfold Coordinator.shortfall
      dsimp only
      omega
    · show requests (s.toServer.put _).waiting + _ = 1
      rw [Pipe.waiting_put flowing, requests_append, silent, none]
      rfl
    · dsimp only
      rw [Pipe.waiting_put flowing, reports_append]
      omega
    · cases parted
    · cases finished
  · rw [Pipe.put_of_not_flowing flowing]
    refine ⟨tied.owes, tied.fits, tied.affords, tied.linked, fun here => absurd here flowing,
      fun here => absurd here flowing, fun _ _ => rfl, fun here => absurd here flowing,
      fun finished => ?_⟩
    cases finished

/-- A coordinator that does not work any more only has to see that it owes no more than before. -/
theorem Tied.rest (tied : s.Tied h) {c : Coordinator} {ms : List WorkerMessage}
    {toWorker : Pipe ServerMessage} (settings : c.settings = s.coordinator.settings)
    (jobs : ∀ task, c.jobs task + grantedOf toWorker.waiting task ≤
      s.coordinator.jobs task + grantedOf s.toWorker.waiting task)
    (plain : Plain ms) (rests : c.stage.isWorking = false) (unfinished : c.stage.isFinished = false)
    (linked : s.toServer.flow = .flowing → toWorker.flow = .flowing ∧
      requests s.toServer.waiting = 0 ∧ grants toWorker.waiting = 0)
    (goodbye : s.toServer.flow = .flowing → c.stage.isFarewell = true →
      .disconnect ∈ (s.toServer.putAll ms).waiting) :
    Site.Tied ⟨c, s.toServer.putAll ms, toWorker⟩ h where
  owes task := by
    have := tied.owes task
    have := jobs task
    have := s.toServer.countP_putAll_le ms (WorkerMessage.reportsOn task)
    rw [countP_reportsOn_plain plain] at this
    unfold Site.owed at *
    dsimp only
    omega
  fits := settings ▸ tied.fits
  affords := by
    rw [settings]
    by_cases flowing : s.toServer.flow = .flowing
    · rw [Pipe.waiting_putAll flowing]
      exact tied.affords.append (requests_plain plain)
    · rw [Pipe.putAll_of_not_flowing flowing]
      exact tied.affords
  linked flowing := (linked (by simpa using flowing)).1
  turn flowing := by
    rw [Pipe.flow_putAll] at flowing
    obtain ⟨-, silent, none⟩ := linked flowing
    have unasked : c.stage.isAsked = false := by
      cases stage : c.stage with
      | awaitGrant => rw [stage] at rests; cases rests
      | _ => rfl
    rw [Pipe.waiting_putAll flowing, requests_append, silent, none, requests_plain plain, unasked]
    rfl
  covered _ _ working := by
    rw [rests] at working
    cases working
  heeds _ working := by
    rw [rests] at working
    cases working
  goodbye flowing parted := goodbye (by simpa using flowing) parted
  closed finished := by
    rw [unfinished] at finished
    cases finished

/-- A coordinator that is done keeps the agreement: nothing more comes from it. -/
theorem Tied.leave (tied : s.Tied h) {c : Coordinator} {toServer : Pipe WorkerMessage}
    (settings : c.settings = s.coordinator.settings)
    (jobs : ∀ task, c.jobs task ≤ s.coordinator.jobs task)
    (reported : ∀ task, toServer.waiting.countP (WorkerMessage.reportsOn task) ≤
      s.toServer.waiting.countP (WorkerMessage.reportsOn task))
    (affords : Affords s.coordinator.settings.threads h.load toServer.waiting)
    (ended : toServer.flow ≠ .flowing) (finished : c.stage.isFinished = true) :
    Site.Tied ⟨c, toServer, s.toWorker.abandon⟩ h where
  owes task := by
    have := tied.owes task
    have := jobs task
    have := reported task
    unfold Site.owed at *
    show toServer.waiting.countP _ + c.jobs task + 0 ≤ _
    omega
  fits := settings ▸ tied.fits
  affords := settings ▸ affords
  linked flowing := absurd flowing ended
  turn flowing := absurd flowing ended
  covered flowing := absurd flowing ended
  heeds _ working := by
    cases stage : c.stage with
    | finished result => rw [stage] at working; cases working
    | _ => rw [stage] at finished; cases finished
  goodbye flowing := absurd flowing ended
  closed _ := ended

/-! ### Moves that listen -/

/-- A tied site stays tied when it heeds a message and works on. -/
theorem Tied.heed (tied : s.Tied h) {m : ServerMessage} {rest : Pipe ServerMessage} {stage : Stage}
    {backingOff : Bool} (came : s.toWorker.next = some (.message m, rest))
    (working : s.coordinator.stage.isWorking = true) (goes : stage.isWorking = true)
    (asked : stage.isAsked = (s.coordinator.stage.isAsked && !m.isGrant))
    (heeds : (s.coordinator.obey m).terminating = true →
      stage.isAsked = true ∨
        s.coordinator.terminating = true ∧ s.coordinator.stage.isAsked = false) :
    Site.Tied
      { s with
        coordinator := { s.coordinator.obey m with stage := stage, backingOff := backingOff }
        toWorker := rest } h := by
  obtain ⟨waiting, flow⟩ := Pipe.next_eq_message came
  obtain ⟨jobs, assigned, summary, obeyed, counted, -⟩ := s.coordinator.obey_spec m
  have settings : (s.coordinator.obey m).settings = s.coordinator.settings := by rw [obeyed]
  refine ⟨fun task => ?_, settings ▸ tied.fits, ?_, fun flowing => ?_, fun flowing => ?_,
    fun flowing goes' _ => ?_, fun stops _ => ?_, fun _ parted => ?_, fun finished => ?_⟩
  · have owes := tied.owes task
    have := s.coordinator.jobs_obey m task
    unfold Site.owed at *
    rw [waiting, grantedOf_cons] at owes
    change _ + (s.coordinator.obey m).jobs task + _ ≤ _
    dsimp only
    omega
  · show Affords (s.coordinator.obey m).settings.threads _ _
    rw [settings]
    exact tied.affords
  · exact flow.trans (tied.linked flowing)
  · -- A grant ends the turn of the server. Any other message leaves the turn where it is.
    have turn := tied.turn flowing
    rw [waiting, grants_cons] at turn
    show requests s.toServer.waiting + grants rest.waiting = if stage.isAsked = true then 1 else 0
    rw [asked]
    cases answered : m.isGrant with
    | true =>
      rw [answered] at turn
      cases was : s.coordinator.stage.isAsked with
      | true =>
        rw [was] at turn
        simp only [if_true] at turn
        simp only [Bool.not_true, Bool.and_false, Bool.false_eq_true, if_false]
        omega
      | false => simp [was] at turn
    | false =>
      rw [answered] at turn
      simpa using turn
  · -- As long as the worker was not told to stop, a grant turns into jobs as a whole.
    have going : s.coordinator.terminating = false := by
      rw [obeyed] at goes'
      exact (Bool.or_eq_false_iff.mp goes').1
    have covered := tied.covered flowing going working
    rw [waiting, granted_cons] at covered
    have total : (s.coordinator.obey m).assigned = s.coordinator.assigned + trials m.batches := by
      rw [obeyed]
      exact counted going
    show h.load ≤ _ + (s.coordinator.obey m).assigned + _
    rw [total]
    dsimp only
    omega
  · rcases heeds stops with now | ⟨before, unasked⟩
    · exact now
    · have := tied.heeds before working
      rw [unasked] at this
      cases this
  · cases stage with
    | farewell => cases goes
    | _ => cases parted
  · cases stage with
    | finished => cases goes
    | _ => cases finished

/-- A tied site stays tied when a message makes it stop. -/
theorem Tied.halt (tied : s.Tied h) {m : ServerMessage} {rest : Pipe ServerMessage}
    {backingOff : Bool} (came : s.toWorker.next = some (.message m, rest))
    (answered : s.coordinator.stage.isAsked = true → m.isGrant = true) :
    Site.Tied
      { s with
        coordinator := { s.coordinator.obey m with backingOff := backingOff }.stop none
        toWorker := rest } h := by
  obtain ⟨waiting, flow⟩ := Pipe.next_eq_message came
  obtain ⟨jobs, assigned, summary, obeyed, -⟩ := s.coordinator.obey_spec m
  change Site.Tied ⟨_, s.toServer.putAll [], rest⟩ h
  refine tied.rest ?_ (fun task => ?_) plain_nil rfl rfl (fun flowing => ?_)
    fun _ parted => ?_
  · show (s.coordinator.obey m).settings = s.coordinator.settings
    rw [obeyed]
  · have dropped :=
      Coordinator.jobs_stop { s.coordinator.obey m with backingOff := backingOff } none task
    change _ ≤ (s.coordinator.obey m).jobs task at dropped
    have := s.coordinator.jobs_obey m task
    rw [waiting, grantedOf_cons]
    omega
  · -- If the coordinator waited for an answer, this was it. Otherwise none was on its way.
    have turn := tied.turn flowing
    rw [waiting, grants_cons] at turn
    refine ⟨flow.trans (tied.linked flowing), ?_⟩
    cases was : s.coordinator.stage.isAsked with
    | true =>
      rw [was, answered was] at turn
      simp only [if_true] at turn
      omega
    | false =>
      rw [was] at turn
      simp at turn
      exact ⟨turn.1, turn.2.1⟩
  · cases parted

/-- A tied site that has said goodbye stays tied when it passes over a message. -/
theorem Tied.ignore (tied : s.Tied h) {m : ServerMessage} {rest : Pipe ServerMessage}
    (came : s.toWorker.next = some (.message m, rest))
    (parted : s.coordinator.stage.isFarewell = true) : Site.Tied { s with toWorker := rest } h := by
  obtain ⟨waiting, flow⟩ := Pipe.next_eq_message came
  have stage : s.coordinator.stage = .farewell := by
    cases stage : s.coordinator.stage with
    | farewell => rfl
    | _ => rw [stage] at parted; cases parted
  change Site.Tied ⟨_, s.toServer.putAll [], rest⟩ h
  refine tied.rest rfl (fun task => ?_) plain_nil (by rw [stage]; rfl)
    (by rw [stage]; rfl) (fun flowing => ?_) tied.goodbye
  · rw [waiting, grantedOf_cons]
    omega
  · have turn := tied.turn flowing
    rw [waiting, grants_cons, stage] at turn
    refine ⟨flow.trans (tied.linked flowing), ?_⟩
    change _ = 0 at turn
    omega

/-- A tied site stays tied when it sees that the server is gone. -/
theorem Tied.strand (tied : s.Tied h) {rest : Pipe ServerMessage} {cause : Option Error}
    (came : s.toWorker.next = some (.close, rest)) :
    Site.Tied { s with coordinator := s.coordinator.stop cause, toWorker := rest } h := by
  obtain ⟨waiting, ending, rfl⟩ := Pipe.next_eq_close came
  change Site.Tied ⟨_, s.toServer.putAll [], _⟩ h
  refine tied.rest rfl (fun task => ?_) plain_nil rfl rfl (fun flowing => ?_)
    fun _ parted => ?_
  · rw [waiting]
    exact Nat.add_le_add_right (Coordinator.jobs_stop s.coordinator cause task) _
  · -- A connection that the worker can still write to is not closed by the server.
    have := tied.linked flowing
    rw [ending] at this
    cases this
  · cases parted

/-- Whatever happens at a site keeps its agreement with the roster. -/
theorem Tied.move (tied : s.Tied h) (move : s.Move shape s') : s'.Tied h := by
  cases move with
  | rest => exact tied
  | start started =>
    exact tied.local rfl (fun task => (Coordinator.jobs_start started task).le) rfl rfl
      ⟨rfl, rfl, rfl, rfl⟩
  | finish running conforms =>
    exact tied.local rfl (Coordinator.jobs_finish _ running _ _) rfl rfl ⟨rfl, rfl, rfl, rfl⟩
  | die running =>
    exact tied.local rfl (Coordinator.jobs_die _ running) rfl rfl ⟨rfl, rfl, rfl, rfl⟩
  | shift same => exact tied.local rfl (fun _ => Nat.le_refl _) rfl rfl same
  | give first same => exact tied.give first same
  | ask asks => exact tied.ask asks
  | quit unasked left plain =>
    refine tied.rest rfl (fun task => ?_) plain rfl rfl (fun flowing => ?_) fun _ parted => ?_
    · refine Nat.add_le_add_right (Coordinator.jobs_drop ?_ ?_ ?_ task) _
      · exact left
      · rfl
      · exact Or.inl rfl
    · have turn := tied.turn flowing
      rw [unasked] at turn
      exact ⟨tied.linked flowing, by simpa using turn⟩
    · cases parted
  | part last =>
    change Site.Tied ⟨_, s.toServer.putAll [.disconnect], _⟩ h
    refine tied.rest rfl (fun _ => Nat.le_refl _) ?_ rfl rfl
      (fun flowing => ?_) fun flowing _ => ?_
    · intro m member
      rw [List.mem_singleton.mp member]
      exact ⟨rfl, rfl⟩
    · have turn := tied.turn flowing
      rw [last] at turn
      exact ⟨tied.linked flowing, by simpa [Stage.isAsked] using turn⟩
    · rw [Pipe.waiting_putAll flowing]
      simp
  | @leave results assigned result summary ms left plain =>
    refine tied.leave rfl (Coordinator.jobs_drop left rfl (Or.inr rfl)) (fun task => ?_) ?_
      Pipe.flow_finish rfl
    · have := s.toServer.countP_putAll_le ms (WorkerMessage.reportsOn task)
      rw [countP_reportsOn_plain plain] at this
      rw [Pipe.waiting_finish]
      exact this
    · rw [Pipe.waiting_finish]
      by_cases flowing : s.toServer.flow = .flowing
      · rw [Pipe.waiting_putAll flowing]
        exact tied.affords.append (requests_plain plain)
      · rw [Pipe.putAll_of_not_flowing flowing]
        exact tied.affords
  | heed came working goes asked heeds => exact tied.heed came working goes asked heeds
  | halt came answered => exact tied.halt came answered
  | ignore came parted => exact tied.ignore came parted
  | strand came => exact tied.strand came

end Site

end TrialFarm
