import TrialFarm.Proofs.Worker.Goodbye
import TrialFarm.Proofs.Worker.Transcript

/-!
# The conversation of a worker

A worker announces every solution right before it returns the trial that found it. When all goes
well, goodbye is its last word.

## Main definitions

* `Paired`: a solution is announced right before its trial.
* `Bench.Courteous`: solutions are announced and goodbye comes last.
* `Conversation`: the shape of a conversation that ends well.

## Main statements

* `Bench.Courteous.move`: no event breaks it.
* `Bench.conversation_of_ok`: the conversation of a worker that ends well.
-/

namespace TrialFarm

open Wire

/-- The solution is the one that the trial found. -/
structure Announces (s : Solution) (r : TrialRecord) : Prop where
  seed : s.seed = r.seed
  flips : s.flips = r.flips
  solveMicros : s.solveMicros = r.solveMicros
  numVars : s.numVars = r.numVars
  numClauses : s.numClauses = r.numClauses

/-- A solution is announced right before the trial that found it, and nowhere else. -/
structure Paired (sent : List WorkerMessage) : Prop where
  announced : ∀ before r after, sent = before ++ .doneProcessing r :: after → r.solved = true →
    ∃ front s, before = front ++ [.foundSolution s] ∧ Announces s r
  settled : ∀ before s after, sent = before ++ .foundSolution s :: after →
    ∃ r rest, after = .doneProcessing r :: rest ∧ r.solved = true ∧ Announces s r

/-- Messages in pairs and more messages in pairs are in pairs. -/
theorem Paired.append {sent ms : List WorkerMessage} (paired : Paired sent) (more : Paired ms) :
    Paired (sent ++ ms) := by
  constructor
  · intro before r after cut solved
    rcases append_eq_cut cut with ⟨rest, left, -⟩ | ⟨front, rfl, right⟩
    · exact paired.announced before r rest left solved
    · obtain ⟨front, s, rfl, announces⟩ := more.announced front r after right solved
      exact ⟨sent ++ front, s, (List.append_assoc ..).symm, announces⟩
  · intro before s after cut
    rcases append_eq_cut cut with ⟨rest, left, rfl⟩ | ⟨front, -, right⟩
    · obtain ⟨r, rest, rfl, found⟩ := paired.settled before s rest left
      exact ⟨r, rest ++ ms, rfl, found⟩
    · exact more.settled front s after right

/-- Without solutions nothing needs a partner. -/
theorem paired_of_unsolved {ms : List WorkerMessage}
    (unsolved : ∀ r, .doneProcessing r ∈ ms → r.solved = false)
    (silent : ∀ s, .foundSolution s ∉ ms) : Paired ms := by
  constructor
  · intro before r after cut solved
    have := unsolved r (by simp [cut])
    exact absurd (this.symm.trans solved) Bool.false_ne_true
  · intro before s after cut
    exact absurd (by simp [cut]) (silent s)

theorem paired_nil : Paired [] := paired_of_unsolved nofun nofun

/-- A solved trial and its solution. -/
theorem paired_pair {s : Solution} {r : TrialRecord} (solved : r.solved = true)
    (announces : Announces s r) : Paired [.foundSolution s, .doneProcessing r] := by
  constructor
  · intro before r' after cut _
    cases before with
    | nil => cases cut
    | cons m before =>
      cases before with
      | nil =>
        cases cut
        exact ⟨[], s, rfl, announces⟩
      | cons m' before => simp at cut
  · intro before s' after cut
    cases before with
    | nil =>
      cases cut
      exact ⟨r, [], rfl, solved, announces⟩
    | cons m before =>
      cases before with
      | nil => cases cut
      | cons m' before => simp at cut

/-- What is said of a trial is in order. -/
theorem Ended.paired {t : Ended} {done : Completed} (made : t.result = .ok done) :
    Paired done.messages := by
  obtain ⟨job, outcome, overall⟩ := t
  cases outcome with
  | error e => cases made
  | ok o =>
    cases made
    by_cases solved : o.solved = true
    · have both : (job.report o overall).messages = [.foundSolution
          ⟨o.seed, o.flips, o.solve.micros, o.numVars, o.numClauses, job.path⟩,
          .doneProcessing (job.report o overall).record] := by
        simp [Completed.messages, Job.report, solved]
      rw [both]
      exact paired_pair solved ⟨rfl, rfl, rfl, rfl, rfl⟩
    · have alone : (job.report o overall).messages =
          [.doneProcessing (job.report o overall).record] := by
        simp [Completed.messages, Job.report, solved]
      rw [alone]
      refine paired_of_unsolved (fun r member => ?_) (by simp)
      simp only [List.mem_singleton, WorkerMessage.doneProcessing.injEq] at member
      rw [member]
      simpa [Job.report] using solved

namespace Bench

variable {ν : Type} {sender : Sender WorkerMessage ν} {b b' : Bench ν} {e : BenchEvent}

/-- Solutions come in pairs with their trials, and goodbye comes last. -/
structure Courteous (b : Bench ν) : Prop where
  paired : b.coordinator.stage.isDoomed = false → Paired b.sent
  silent : b.coordinator.stage.isSilent = true → .disconnect ∉ b.sent
  parted : b.coordinator.stage.isParted = true →
    ∃ said, b.sent = said ++ [.disconnect] ∧ .disconnect ∉ said

/-- A courteous worker stays courteous if it says messages in pairs, no goodbye, and nothing after
one. -/
theorem Courteous.speak (courteous : b.Courteous) {ms : List WorkerMessage}
    (sent : b'.sent = b.sent ++ ms) (mute : .disconnect ∉ ms)
    (sound : b'.coordinator.stage.isDoomed = false →
      b.coordinator.stage.isDoomed = false ∧ Paired ms)
    (silent : b'.coordinator.stage.isSilent = true → b.coordinator.stage.isSilent = true)
    (parted : b'.coordinator.stage.isParted = true →
      b.coordinator.stage.isParted = true ∧ ms = []) : b'.Courteous := by
  refine ⟨fun goes => ?_, fun quiet => ?_, fun leaves => ?_⟩
  · rw [sent]
    exact (courteous.paired (sound goes).1).append (sound goes).2
  · rw [sent, List.mem_append, not_or]
    exact ⟨courteous.silent (silent quiet), mute⟩
  · obtain ⟨left, rfl⟩ := parted leaves
    rw [sent, List.append_nil]
    exact courteous.parted left

/-- Nothing is said, and the stage promises no more. -/
theorem Courteous.still (courteous : b.Courteous) (sent : b'.sent = b.sent)
    (stage : b'.coordinator.stage = b.coordinator.stage) : b'.Courteous := by
  have mute : b'.sent = b.sent ++ [] := by rw [sent, List.append_nil]
  refine courteous.speak mute nofun ?_ ?_ ?_
  · rw [stage]
    exact fun goes => ⟨goes, paired_nil⟩
  · rw [stage]
    exact id
  · rw [stage]
    exact fun left => ⟨left, rfl⟩

/-- While the coordinator works it only has to announce its solutions. -/
theorem Courteous.work (courteous : b.Courteous) {ms : List WorkerMessage}
    (working : b.coordinator.stage.isWorking = true)
    (goes : b'.coordinator.stage.isWorking = true) (sent : b'.sent = b.sent ++ ms)
    (mute : .disconnect ∉ ms) (paired : Paired ms) : b'.Courteous := by
  refine courteous.speak sent mute ?_ ?_ fun left => ?_
  · exact fun _ => ⟨Stage.sound_of_isWorking working, paired⟩
  · exact fun _ => Stage.isSilent_of_isWorking working
  · have stopped := Stage.isWorking_of_isLast (Stage.isLast_of_isParted left)
    exact absurd (stopped.symm.trans goes) Bool.false_ne_true

/-- A courteous worker stays courteous when the coordinator goes on by itself. -/
theorem Courteous.proceed (courteous : b.Courteous) (kept : b.Kept) {n : ν}
    {ms : List WorkerMessage} {c : Coordinator} (proceeds : b.coordinator.Proceeds sender ms c) :
    Courteous ⟨c, n, b.sent ++ ms, b.ledger.drop b.coordinator c⟩ := by
  cases proceeds with
  | rest => exact courteous.still (List.append_nil _) rfl
  | shift turn goes =>
    exact courteous.work (Stage.isWorking_of_inRound turn) (Stage.isWorking_of_inRound goes) rfl
      nofun paired_nil
  | @give done rest stage first stays =>
    have sound : b.coordinator.stage.isDoomed = false := by
      rcases stays with ⟨turn, -⟩ | ⟨flush, -⟩
      · exact Stage.sound_of_isWorking (Stage.isWorking_of_inRound turn)
      · rw [flush]
        rfl
    -- What is returned came from a trial, which makes the solution that of the record.
    have paired : Paired done.messages := by
      obtain ⟨returned, ended, -⟩ := (kept.reported sound).results
      have member : .ok done ∈ b.ledger.ended.map Ended.result := by simp [ended, first]
      obtain ⟨t, -, made⟩ := List.mem_map.mp member
      exact t.paired made
    have mute := done.disconnect_not_mem
    rcases stays with ⟨turn, goes⟩ | ⟨flush, rfl⟩
    · exact courteous.work (Stage.isWorking_of_inRound turn) (Stage.isWorking_of_inRound goes) rfl
        mute paired
    · refine courteous.speak rfl mute (fun _ => ⟨sound, paired⟩) (fun _ => ?_) nofun
      rw [flush]
      rfl
  | ask turn =>
    refine courteous.work (Stage.isWorking_of_inRound turn) rfl rfl (by simp) ?_
    exact paired_of_unsolved (by simp) (by simp)
  | quit turn left cause announcing =>
    have silent := Stage.isSilent_of_isWorking (Stage.isWorking_of_inRound turn)
    exact courteous.speak rfl announcing.disconnect_not_mem nofun (fun _ => silent) nofun
  | drain stops quiet =>
    refine courteous.speak rfl nofun (fun _ => ⟨?_, paired_nil⟩) (fun _ => ?_) nofun
    · rw [stops]
      rfl
    · rw [stops]
      rfl
  | part last none =>
    have paired := courteous.paired (by rw [last]; rfl)
    have silent := courteous.silent (by rw [last]; rfl)
    have goodbye : Paired [.disconnect] := paired_of_unsolved (by simp) (by simp)
    exact ⟨fun _ => paired.append goodbye, nofun, fun _ => ⟨b.sent, rfl, silent⟩⟩
  -- Of a worker that fails nothing is promised.
  | fail last left cause announcing => exact ⟨nofun, nofun, nofun⟩
  | abort stops parting => exact ⟨nofun, nofun, nofun⟩

/-- No event breaks it. -/
theorem Courteous.move (courteous : b.Courteous) (kept : b.Kept) (move : b.Move sender e b') :
    b'.Courteous := by
  cases move with
  | rest => exact courteous
  | start | finish | die => exact courteous.still rfl rfl
  | wait stays =>
    rcases stays with ⟨turn, goes⟩ | rfl
    · exact courteous.work (Stage.isWorking_of_inRound turn) (Stage.isWorking_of_inRound goes)
        (List.append_nil _).symm List.not_mem_nil paired_nil
    · exact courteous.still rfl rfl
  | proceed proceeds => exact courteous.proceed kept proceeds
  | take working heeds =>
    have paired := courteous.paired (Stage.sound_of_isWorking working)
    have silent := courteous.silent (Stage.isSilent_of_isWorking working)
    cases heeds with
    | heed _ goes =>
      exact courteous.work working goes (List.append_nil _).symm List.not_mem_nil paired_nil
    | halt =>
      exact ⟨fun _ => paired, fun _ => silent, fun parted => absurd parted Bool.false_ne_true⟩
    | ignore parted =>
      cases stage : b.coordinator.stage <;> simp_all [Stage.isFarewell, Stage.isWorking]
  | strand working broken =>
    exact ⟨fun sound => absurd sound.symm Bool.false_ne_true,
      fun _ => courteous.silent (Stage.isSilent_of_isWorking working),
      fun parted => absurd parted Bool.false_ne_true⟩
  | close parted =>
    have paired := courteous.paired (by rw [parted]; rfl)
    have left := courteous.parted (by rw [parted]; rfl)
    exact ⟨fun _ => paired, fun silent => absurd silent Bool.false_ne_true, fun _ => left⟩

theorem courteous_fresh {settings : CoordinatorSettings} {c : Coordinator}
    (made : Coordinator.start settings = .ok c) (n : ν) : (fresh c n).Courteous := by
  unfold Coordinator.start at made
  split at made
  · cases made
  · cases made
    exact ⟨fun _ => paired_nil, fun _ => List.not_mem_nil, nofun⟩

/-- A worker is courteous after any events. -/
theorem courteous_run {settings : CoordinatorSettings} {c : Coordinator}
    (made : Coordinator.start settings = .ok c) (sender : Sender WorkerMessage ν) (n : ν)
    (events : List BenchEvent) : ((fresh c n).run sender events).Courteous := by
  have both : ((fresh c n).run sender events).Kept ∧ ((fresh c n).run sender events).Courteous := by
    refine run_keeps (P := fun b => b.Kept ∧ b.Courteous) events ?_
      ⟨kept_fresh made n, courteous_fresh made n⟩
    rintro b b' e - ⟨kept, courteous⟩ move
    exact ⟨kept.move move, courteous.move kept move⟩
  exact both.2

end Bench

/-! ### Conversations that end well -/

/-- The shape of a conversation that ends well. -/
structure Conversation (threads : Nat) (t : List Exchange) : Prop where
  disciplined : Disciplined threads t
  paired : Paired (saidIn t)
  goodbye : ∃ said, saidIn t = said ++ [.disconnect] ∧ .disconnect ∉ said

namespace Bench

variable {ν : Type}

/-- Whatever the server sends, and in whatever order trials end: a worker that ends well asked only
for what it was entitled to, announced each solution right before its trial, and said goodbye once,
at last. It does nothing else than if nobody wrote down what is said. -/
theorem conversation_of_ok {settings : CoordinatorSettings} {c : Coordinator}
    (made : Coordinator.start settings = .ok c) (sender : Sender WorkerMessage ν) (n : ν)
    (events : List BenchEvent) {w : WorkerSummary}
    (well : ((fresh c n).run sender events).coordinator.stage = .finished (.ok w)) :
    runAlone sender c n events = (((fresh c n).run sender events).coordinator,
        ((fresh c n).run sender events).connection) ∧
      saidIn ((fresh c n).transcript sender events) = ((fresh c n).run sender events).sent ∧
      Conversation settings.threads ((fresh c n).transcript sender events) := by
  have transcribed := (transcribed_fresh made n).run (kept_fresh made n) sender events
  have courteous := courteous_run made sender n events
  have paired := courteous.paired (by rw [well]; rfl)
  have left := courteous.parted (by rw [well]; rfl)
  rw [← transcribed.said] at paired left
  exact ⟨run_alone sender (fresh c n) events, transcribed.said, transcribed.disciplined, paired,
    left⟩

/-- Of three granted trials the first finds a solution, the second takes the only thread down, and
the third is dropped. -/
theorem conversation_of_ok_three :
    let three : Batch := ⟨⟨3, 0, "a"⟩, 3, 7⟩
    let job : Job := ⟨7, "a", 1000⟩
    let solved : Outcome := ⟨true, 9, 10, .zero, .zero, 1, 1⟩
    let events := BenchEvent.opening three ++
      [.acts (.trialEnded job (.ok solved) .zero), .acts .proceed, .acts .trialStarted,
        .acts (.trialDied job)] ++ BenchEvent.ending ++ BenchEvent.parting
    ∃ c, Coordinator.start ⟨1, 1000, 0⟩ = .ok c ∧
      ((fresh c []).run Sender.log events).coordinator.stage = .finished (.ok ⟨1, 1, 1, 1⟩) ∧
        Conversation 1 ((fresh c []).transcript Sender.log events) := by
  dsimp only
  have made : Coordinator.start ⟨1, 1000, 0⟩ = .ok _ := rfl
  refine ⟨_, made, rfl, ?_⟩
  exact (conversation_of_ok made Sender.log [] _ rfl).2.2

end Bench

end TrialFarm
