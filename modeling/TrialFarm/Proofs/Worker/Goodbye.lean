import TrialFarm.Proofs.Worker.Ledger

/-!
# Saying goodbye after a failure

A worker gives up when a trial fails. If it finds the failure while it works, it says goodbye before
it ends. If it finds the failure only among the last results, after it was told to stop, it ends
without a word.

## Main definitions

* `Sender.Reliable`: sending never fails.
* `Coordinator.GaveUp`: how a coordinator ended after a failure.
* `Coordinator.Civil`: which coordinators were told to stop, and which have said goodbye.

## Main statements

* `Coordinator.Civil.move`: no event breaks it.
* `Bench.goodbye_unless_told`: how a worker ends whose trial has failed.
-/

namespace TrialFarm

open Wire

namespace Wire

/-- Sending never fails. -/
def Sender.Reliable {ο ν : Type} (sender : Sender ο ν) : Prop :=
  ∀ n m, (sender.send n m).2 = .ok ()

/-- A reliable sender has no failures. -/
theorem Sender.Reliable.not_fails {ο ν : Type} {sender : Sender ο ν} (reliable : sender.Reliable)
    (e : Error) : ¬ sender.Fails e := by
  rintro ⟨n, m, failed⟩
  rw [reliable n m] at failed
  cases failed

end Wire

namespace Stage

variable {s : Stage}

/-- The coordinator works but did not ask for anything, or it gives up. -/
def isUntold : Stage → Bool
  | .awaitActivation | .collect _ | .look _ | .ask _ | .idle | .stopping (some _) => true
  | _ => false

/-- The coordinator does what it was told to. -/
def isTold : Stage → Bool
  | .stopping none | .flush => true
  | _ => false

/-- Goodbye was not said. -/
def isSilent : Stage → Bool
  | .farewell | .finished _ => false
  | _ => true

theorem isSilent_of_isWorking (working : s.isWorking = true) : s.isSilent = true := by
  cases s <;> simp_all [isWorking, isSilent]

theorem isTold_of_isWorking (working : s.isWorking = true) : s.isTold = false := by
  cases s <;> simp_all [isWorking, isTold]

theorem isUntold_of_inRound (turn : s.inRound = true) : s.isUntold = true := by
  cases s <;> simp_all [inRound, isUntold]

theorem isUntold_eq_not_isAsked (working : s.isWorking = true) : s.isUntold = !s.isAsked := by
  cases s <;> simp_all [isWorking, isAsked, isUntold]

end Stage

namespace Coordinator

/-- How a coordinator ended after the failure of a trial. -/
structure GaveUp (c : Coordinator) (sent : List WorkerMessage) (ended : List Ended) (e : Error) :
    Prop where
  failed : ∃ t ∈ ended, t.result = .error e
  /-- If it was not told to stop it said goodbye once, as its last word. -/
  untold : c.terminating = false → ∃ said, sent = said ++ [.disconnect] ∧ .disconnect ∉ said
  /-- If it was told to stop it did not. -/
  told : c.terminating = true → .disconnect ∉ sent

/-- Which coordinators were told to stop, and which have said goodbye. -/
structure Civil (c : Coordinator) (sent : List WorkerMessage) (ended : List Ended) : Prop where
  results : ∀ r ∈ c.results, ∃ t ∈ ended, t.result = r
  silent : c.stage.isSilent = true → .disconnect ∉ sent
  untold : c.stage.isUntold = true → c.terminating = false
  told : c.stage.isTold = true → c.terminating = true
  failed : ∀ e, c.stage = .stopping (some e) → ∃ t ∈ ended, t.result = .error e
  gaveUp : ∀ e, c.stage = .finished (.error e) → c.GaveUp sent ended e

variable {ν : Type} {sender : Sender WorkerMessage ν} {c c' : Coordinator}
  {sent ms : List WorkerMessage} {ended : List Ended}

/-- Where a coordinator works, only this matters. -/
theorem civil_of_isWorking (working : c.stage.isWorking = true)
    (results : ∀ r ∈ c.results, ∃ t ∈ ended, t.result = r) (silent : .disconnect ∉ sent)
    (untold : c.stage.isAsked = false → c.terminating = false) : c.Civil sent ended := by
  refine ⟨results, fun _ => silent, fun free => untold ?_, ?_, ?_, ?_⟩
  · simpa [Stage.isUntold_eq_not_isAsked working] using free
  · simp [Stage.isTold_of_isWorking working]
  · intro e stage
    simp [stage, Stage.isWorking] at working
  · intro e stage
    simp [stage, Stage.isWorking] at working

/-- A civil coordinator stays civil when it goes on by itself. -/
theorem Civil.proceed (civil : c.Civil sent ended) (reliable : sender.Reliable)
    (proceeds : c.Proceeds sender ms c') : c'.Civil (sent ++ ms) ended := by
  have found {e : Error} (cause : .error e ∈ c.results ∨ sender.Fails e) :
      ∃ t ∈ ended, t.result = .error e := by
    rcases cause with member | fails
    · exact civil.results _ member
    · exact absurd fails (reliable.not_fails e)
  have silent (turn : c.stage.inRound = true) : .disconnect ∉ sent :=
    civil.silent (Stage.isSilent_of_isWorking (Stage.isWorking_of_inRound turn))
  have untold (turn : c.stage.inRound = true) : c.terminating = false :=
    civil.untold (Stage.isUntold_of_inRound turn)
  cases proceeds with
  | rest => simpa using civil
  | shift turn goes =>
    rw [List.append_nil]
    refine civil_of_isWorking (Stage.isWorking_of_inRound goes) civil.results (silent turn) ?_
    exact fun _ => untold turn
  | @give done rest stage first stays =>
    have results : ∀ r ∈ rest, ∃ t ∈ ended, t.result = r := fun r member =>
      civil.results r (first ▸ List.mem_cons_of_mem _ member)
    have mute : .disconnect ∉ done.messages := done.disconnect_not_mem
    rcases stays with ⟨turn, goes⟩ | ⟨flush, rfl⟩
    · refine civil_of_isWorking (Stage.isWorking_of_inRound goes) results ?_ fun _ => untold turn
      simp [silent turn, mute]
    · have silent := civil.silent (by rw [flush]; rfl)
      have told := civil.told (by rw [flush]; rfl)
      exact ⟨results, fun _ => by simp [silent, mute], nofun, fun _ => told, nofun, nofun⟩
  | ask turn =>
    refine civil_of_isWorking rfl civil.results ?_ nofun
    simp [silent turn]
  | quit turn left cause announcing =>
    have failed := found cause
    have mute := announcing.disconnect_not_mem
    refine ⟨fun r member => civil.results r (left.mem member), fun _ => by simp [silent turn, mute],
      fun _ => untold turn, nofun, ?_, nofun⟩
    rintro e' same
    cases same
    exact failed
  | drain stops quiet =>
    rw [List.append_nil]
    have silent := civil.silent (by rw [stops]; rfl)
    have told := civil.told (by rw [stops]; rfl)
    exact ⟨civil.results, fun _ => silent, nofun, fun _ => told, nofun, nofun⟩
  | part last none => exact ⟨civil.results, nofun, nofun, nofun, nofun, nofun⟩
  | fail last left cause announcing =>
    have failed := found cause
    have mute := announcing.disconnect_not_mem
    have silent := civil.silent (by rw [last]; rfl)
    have told := civil.told (by rw [last]; rfl)
    refine ⟨fun r member => civil.results r (left.mem member), nofun, nofun, nofun, nofun, ?_⟩
    rintro e' same
    cases same
    exact ⟨failed, fun untold => (nomatch told.symm.trans untold),
      fun _ => by simp [silent, mute]⟩
  | abort stops parting =>
    have failed := civil.failed _ stops
    have silent := civil.silent (by rw [stops]; rfl)
    have untold := civil.untold (by rw [stops]; rfl)
    obtain rfl : ms = [.disconnect] := by
      rcases parting with said | ⟨-, e', fails⟩
      · exact said
      · exact absurd fails (reliable.not_fails e')
    refine ⟨civil.results, nofun, nofun, nofun, nofun, ?_⟩
    rintro e' same
    cases same
    exact ⟨failed, fun _ => ⟨sent, rfl, silent⟩, fun told => nomatch told.symm.trans untold⟩

theorem Civil.heeds (civil : c.Civil sent ended) {m : ServerMessage}
    (working : c.stage.isWorking = true) (heeds : c.Heeds m c') : c'.Civil sent ended := by
  have silent := civil.silent (Stage.isSilent_of_isWorking working)
  have results : ∀ r ∈ (c.obey m).results, ∃ t ∈ ended, t.result = r := by
    obtain ⟨_, _, _, obeyed, -⟩ := c.obey_spec m
    rw [obeyed]
    exact civil.results
  cases heeds with
  | heed _ goes asked told =>
    refine civil_of_isWorking goes results silent fun unasked => ?_
    by_contra stops
    rcases told (by simpa using stops) with asks | ⟨before, free⟩
    · simp [asks] at unasked
    · have untold := civil.untold (by rw [Stage.isUntold_eq_not_isAsked working, free]; rfl)
      simp [before] at untold
  | halt _ _ told => exact ⟨results, fun _ => silent, nofun, fun _ => told, nofun, nofun⟩
  | ignore parted => exact civil

/-- A coordinator that nobody spoke to, while more trials ended. -/
theorem Civil.frame (civil : c.Civil sent ended) {ended' : List Ended}
    (more : ∀ t ∈ ended, t ∈ ended') (stage : c'.stage = c.stage)
    (terminating : c'.terminating = c.terminating)
    (results : ∀ r ∈ c'.results, ∃ t ∈ ended', t.result = r) : c'.Civil sent ended' := by
  have later {e : Error} (failed : ∃ t ∈ ended, t.result = .error e) :
      ∃ t ∈ ended', t.result = .error e := by
    obtain ⟨t, member, made⟩ := failed
    exact ⟨t, more t member, made⟩
  refine ⟨results, ?_, ?_, ?_, ?_, ?_⟩
  · rw [stage]
    exact civil.silent
  · rw [stage, terminating]
    exact civil.untold
  · rw [stage, terminating]
    exact civil.told
  · rw [stage]
    exact fun e same => later (civil.failed e same)
  · rw [stage]
    intro e same
    obtain ⟨failed, untold, told⟩ := civil.gaveUp e same
    exact ⟨later failed, by rwa [terminating], by rwa [terminating]⟩

end Coordinator

namespace Bench

variable {ν : Type} {sender : Sender WorkerMessage ν} {b b' : Bench ν} {e : BenchEvent}

/-- The coordinator has behaved, by what it has said and by the trials that ended. -/
def Civil (b : Bench ν) : Prop := b.coordinator.Civil b.sent b.ledger.ended

/-- No event of a connection that goes on breaks it. -/
theorem Civil.move (civil : b.Civil) (reliable : sender.Reliable) (keeps : e.Keeps)
    (move : b.Move sender e b') : b'.Civil := by
  unfold Civil at civil ⊢
  cases move with
  | rest => exact civil
  | start started => exact civil.frame (fun _ member => member) rfl rfl civil.results
  | finish t running =>
    have more : ∀ t' ∈ b.ledger.ended, t' ∈ b.ledger.ended ++ [t] := fun _ member =>
      List.mem_append_left _ member
    refine civil.frame more rfl rfl fun r member => ?_
    rcases List.mem_append.mp member with before | new
    · obtain ⟨t', inside, made⟩ := civil.results r before
      exact ⟨t', more t' inside, made⟩
    · exact ⟨t, by simp, (List.mem_singleton.mp new).symm⟩
  | die running => exact civil.frame (fun _ member => member) rfl rfl civil.results
  | wait stays =>
    rcases stays with ⟨turn, goes⟩ | rfl
    · have untold := civil.untold (Stage.isUntold_of_inRound turn)
      have working := Stage.isWorking_of_inRound turn
      exact Coordinator.civil_of_isWorking (Stage.isWorking_of_inRound goes) civil.results
        (civil.silent (Stage.isSilent_of_isWorking working)) fun _ => untold
    · exact civil.frame (fun _ member => member) rfl rfl civil.results
  | proceed proceeds =>
    rw [JobLedger.ended_drop]
    exact civil.proceed reliable proceeds
  | take working heeds =>
    rw [JobLedger.ended_drop, JobLedger.ended_grant]
    exact civil.heeds working heeds
  | strand working broken => exact absurd keeps broken
  | close parted => exact ⟨civil.results, nofun, nofun, nofun, nofun, nofun⟩

/-- A new coordinator is civil. -/
theorem civil_fresh {settings : CoordinatorSettings} {c : Coordinator}
    (made : Coordinator.start settings = .ok c) (n : ν) : (fresh c n).Civil := by
  unfold Coordinator.start at made
  split at made
  · cases made
  · cases made
    exact Coordinator.civil_of_isWorking rfl nofun nofun fun _ => rfl

/-- On a connection that works and goes on, a worker ends with an error only if a trial failed. It
says goodbye, once and at last, exactly if it was not told to stop. It does nothing else than if
nobody wrote down what it says. -/
theorem goodbye_unless_told {settings : CoordinatorSettings} {c : Coordinator}
    (made : Coordinator.start settings = .ok c) (reliable : sender.Reliable) (n : ν)
    {events : List BenchEvent} (keeps : ∀ e ∈ events, e.Keeps) :
    let b := (fresh c n).run sender events
    runAlone sender c n events = (b.coordinator, b.connection) ∧
      ∀ e, b.coordinator.stage = .finished (.error e) →
        b.coordinator.GaveUp b.sent b.ledger.ended e := by
  intro b
  refine ⟨run_alone sender (fresh c n) events, fun e ends => ?_⟩
  have civil : b.Civil := run_keeps events
    (fun _ _ _ member civil move => civil.move reliable (keeps _ member) move) (civil_fresh made n)
  exact civil.gaveUp e ends

/-- The trial fails while the worker works. -/
theorem goodbye_unless_told_working :
    let one : Batch := ⟨⟨1, 0, "bad"⟩, 1, 0⟩
    let job : Job := ⟨0, "bad", 1000⟩
    let events := BenchEvent.opening one ++
      [.acts (.trialEnded job (.error (.parse "broken file")) .zero), .acts .proceed,
        .acts .proceed]
    ∃ c, Coordinator.start ⟨1, 1000, 3600000⟩ = .ok c ∧
      (Sender.log : Sender WorkerMessage _).Reliable ∧ (∀ e ∈ events, e.Keeps) ∧
      let b := (fresh c []).run Sender.log events
      let e := job.failure (.parse "broken file")
      b.coordinator.stage = .finished (.error e) ∧ b.coordinator.terminating = false ∧
        b.coordinator.GaveUp b.sent b.ledger.ended e := by
  intro one job events
  have reliable : (Sender.log : Sender WorkerMessage _).Reliable := fun _ _ => rfl
  have keeps : ∀ e ∈ events, e.Keeps := by
    simp [events, BenchEvent.opening, BenchEvent.Keeps]
  have made : Coordinator.start ⟨1, 1000, 3600000⟩ = .ok _ := rfl
  refine ⟨_, made, reliable, keeps, rfl, rfl, ?_⟩
  exact (goodbye_unless_told made reliable [] keeps).2 _ rfl

/-- The trial fails after the worker was told to stop. The worker ends without a goodbye, although
the connection works to the end. -/
theorem goodbye_missing :
    let one : Batch := ⟨⟨1, 0, "bad"⟩, 1, 0⟩
    let job : Job := ⟨0, "bad", 1000⟩
    let events := BenchEvent.opening one ++ BenchEvent.ending ++
      [.acts (.trialEnded job (.error (.parse "broken file")) .zero), .acts .proceed,
        .acts .proceed]
    ∃ c, Coordinator.start ⟨1, 1000, 3600000⟩ = .ok c ∧
      (Sender.log : Sender WorkerMessage _).Reliable ∧ (∀ e ∈ events, e.Keeps) ∧
      let b := (fresh c []).run Sender.log events
      b.coordinator.stage = .finished (.error (job.failure (.parse "broken file"))) ∧
        .disconnect ∉ b.sent := by
  intro one job events
  have keeps : ∀ e ∈ events, e.Keeps := by
    simp [events, BenchEvent.opening, BenchEvent.ending, BenchEvent.Keeps]
  exact ⟨_, rfl, fun _ _ => rfl, keeps, rfl, by decide⟩

end Bench

end TrialFarm
