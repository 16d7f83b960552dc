import TrialFarm.Worker.Coordinator

/-!
# Writing down what is sent

Somebody may write down all messages that get through to the server. A coordinator acts the same
then: on any connection, it does to the connection and to itself what it does without the record.

## Main definitions

* `Sender.recorded`: writes down the messages that got through.
* `Sender.Fails`: the errors of sending.

## Main statements

* `Sender.recorded_cases`: a message is written down, or sending fails.
* `Coordinator.step_recorded`: a coordinator does not notice.
-/

namespace TrialFarm

namespace Wire

variable {ο ν : Type}

/-- Writes down the messages that got through. -/
def Sender.recorded (sender : Sender ο ν) : Sender ο (ν × List ο) where
  send := fun (n, sent) m =>
    match sender.send n m with
    | (n, .ok ()) => ((n, sent ++ [m]), .ok ())
    | (n, .error e) => ((n, sent), .error e)
  close := fun (n, sent) => (sender.close n, sent)

/-- Sending can fail with this error. -/
def Sender.Fails (sender : Sender ο ν) (e : Error) : Prop :=
  ∃ n m, (sender.send n m).2 = .error e

/-- A recorded message was sent; one that could not be sent is not recorded. -/
theorem Sender.recorded_cases (sender : Sender ο ν) (p : ν × List ο) (m : ο) :
    (∃ n, sender.recorded.send p m = ((n, p.2 ++ [m]), .ok ())) ∨
      ∃ n e, sender.Fails e ∧ sender.recorded.send p m = ((n, p.2), .error e) := by
  cases sends : sender.send p.1 m with
  | mk n result =>
    cases result with
    | ok u => exact Or.inl ⟨n, by simp [recorded, sends]⟩
    | error e => exact Or.inr ⟨n, e, ⟨p.1, m, by rw [sends]⟩, by simp [recorded, sends]⟩

/-- Recording does not change how a message is sent. -/
theorem Sender.send_recorded (sender : Sender ο ν) (p : ν × List ο) (m : ο) :
    sender.send p.1 m = ((sender.recorded.send p m).1.1, (sender.recorded.send p m).2) := by
  cases sends : sender.send p.1 m with
  | mk n result => cases result <;> simp [recorded, sends]

end Wire

open Wire

namespace Coordinator

variable {ν : Type} (sender : Sender WorkerMessage ν) (c : Coordinator)
  (p : ν × List WorkerMessage)

/-- A solution is announced alike with and without a record. -/
theorem sendSolution_recorded (solution : Option Solution) :
    sendSolution sender c p.1 solution =
      let next := sendSolution sender.recorded c p solution
      (next.1, next.2.1.1, next.2.2) := by
  unfold sendSolution
  cases solution with
  | none => rfl
  | some found =>
    dsimp only
    rw [sender.send_recorded p]
    rcases sender.recorded.send p (.foundSolution found) with ⟨n, _ | _⟩ <;> rfl

theorem returnOne_recorded (result : Except Error Completed) :
    returnOne sender c p.1 result =
      let next := returnOne sender.recorded c p result
      (next.1, next.2.1.1, next.2.2) := by
  unfold returnOne
  cases result with
  | error e => rfl
  | ok done =>
    dsimp only
    rw [sendSolution_recorded]
    rcases sendSolution sender.recorded _ p done.solution with ⟨c, q, _ | _⟩
    · rfl
    · dsimp only
      rw [sender.send_recorded q]
      rcases sender.recorded.send q (.doneProcessing done.record) with ⟨n, _ | _⟩ <;> rfl

theorem returnFirst_recorded (result : Except Error Completed)
    (rest : List (Except Error Completed)) (go : Coordinator → Coordinator) :
    returnFirst sender c p.1 result rest go =
      let next := returnFirst sender.recorded c p result rest go
      (next.1, next.2.1) := by
  unfold returnFirst
  rw [returnOne_recorded]
  rcases returnOne sender.recorded _ p result with ⟨c, q, _ | _⟩ <;> rfl

theorem request_recorded :
    request sender c p.1 =
      let next := request sender.recorded c p
      (next.1, next.2.1) := by
  unfold request
  rw [sender.send_recorded p]
  rcases sender.recorded.send p _ with ⟨n, _ | _⟩ <;> rfl

theorem takeLeave_recorded :
    takeLeave sender c p.1 =
      let next := takeLeave sender.recorded c p
      (next.1, next.2.1) := by
  unfold takeLeave
  cases c.results with
  | nil =>
    dsimp only
    rw [sender.send_recorded p]
    rcases sender.recorded.send p .disconnect with ⟨n, _ | _⟩ <;> rfl
  | cons result rest =>
    dsimp only
    rw [returnOne_recorded]
    rcases returnOne sender.recorded _ p result with ⟨c, q, _ | _⟩ <;> rfl

theorem abort_recorded (cause : Error) :
    abort sender c p.1 cause =
      let next := abort sender.recorded c p cause
      (next.1, next.2.1) := by
  unfold abort
  rw [sender.send_recorded p]
  rfl

/-- A coordinator does not notice that what it sends is written down. -/
theorem step_recorded (e : CoordinatorEvent) :
    c.step sender p.1 e =
      let next := c.step sender.recorded p e
      (next.1, next.2.1) := by
  cases e with
  | trialStarted =>
    unfold step
    dsimp only
    split <;> rfl
  | trialEnded | trialDied | received | tick => rfl
  | proceed =>
    unfold step proceed
    dsimp only
    cases c.stage with
    | collect moved =>
      dsimp only
      split
      · exact returnFirst_recorded ..
      · rfl
    | ask moved =>
      dsimp only
      split
      · exact request_recorded ..
      · split <;> rfl
    | idle =>
      dsimp only
      split
      · exact returnFirst_recorded ..
      · rfl
    | stopping cause =>
      dsimp only
      split
      · cases cause with
        | none => rfl
        | some e => exact abort_recorded ..
      · rfl
    | flush => exact takeLeave_recorded ..
    | awaitActivation | look | awaitGrant | farewell | finished => rfl

end Coordinator

end TrialFarm
