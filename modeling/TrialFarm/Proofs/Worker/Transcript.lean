import TrialFarm.Proofs.Worker.Accounting

/-!
# The transcript of a worker

What a worker has heard and said, in one list. From it alone one can tell what the worker may ask
for: it was activated and not told to stop, its last request was answered, and it asks for as many
trials as its threads are short of.

## Main definitions

* `Exchange`, `Bench.transcript`: what was heard and said.
* `Entitled`, `Disciplined`: a request is in order, all of them are.
* `Bench.Transcribed`: the transcript tells where the worker stands.

## Main statements

* `Bench.Transcribed.step`, `Bench.Transcribed.run`: it does so all the time.
-/

namespace TrialFarm

open Wire

/-- A message as the worker sees it. -/
inductive Exchange where
  | heard (m : ServerMessage)
  | said (m : WorkerMessage)

namespace Exchange

/-- The message, if the worker receives it. -/
def heard? : Exchange → Option ServerMessage
  | heard m => some m
  | said _ => none

/-- The message, if the worker sends it. -/
def said? : Exchange → Option WorkerMessage
  | heard _ => none
  | said m => some m

/-- The worker asks for trials. -/
def isRequest : Exchange → Bool
  | heard _ => false
  | said m => m.isRequest

end Exchange

/-- All messages that the worker has sent. -/
def saidIn (t : List Exchange) : List WorkerMessage := t.filterMap Exchange.said?

/-- All messages that the worker has received. -/
def heardIn (t : List Exchange) : List ServerMessage := t.filterMap Exchange.heard?

@[simp] theorem saidIn_append (t u : List Exchange) : saidIn (t ++ u) = saidIn t ++ saidIn u :=
  List.filterMap_append

@[simp] theorem heardIn_append (t u : List Exchange) : heardIn (t ++ u) = heardIn t ++ heardIn u :=
  List.filterMap_append

@[simp] theorem saidIn_said (ms : List WorkerMessage) : saidIn (ms.map .said) = ms := by
  simp [saidIn, List.filterMap_map, Function.comp_def, Exchange.said?]

@[simp] theorem heardIn_said (ms : List WorkerMessage) : heardIn (ms.map .said) = [] := by
  simp [heardIn, List.filterMap_map, Function.comp_def, Exchange.heard?]

/-- Trials that were granted and not yet returned. -/
def openTrials (t : List Exchange) : Nat := granted (heardIn t) - reports (saidIn t)

/-- Every request was followed by a grant. -/
def Answered (t : List Exchange) : Prop :=
  ∀ before k after, t = before ++ .said (.getInstances k) :: after →
    ∃ bs, .heard (.sendInstances bs) ∈ after

/-- A worker with so many threads may ask for so many trials at this point. -/
structure Entitled (threads : Nat) (before : List Exchange) (k : UInt32) : Prop where
  activated : .heard .activate ∈ before
  untold : .heard .terminate ∉ before
  answered : Answered before
  counted : reports (saidIn before) ≤ granted (heardIn before)
  asked : k = UInt32.ofNat (threads - openTrials before)
  short : 1 ≤ threads - openTrials before ∧ threads - openTrials before ≤ threads
  exact : threads < UInt32.size → k.toNat = threads - openTrials before

/-- Every request is in order. -/
def Disciplined (threads : Nat) (t : List Exchange) : Prop :=
  ∀ before k after, t = before ++ .said (.getInstances k) :: after → Entitled threads before k

/-- An element of an appended list is in one of the parts. -/
theorem append_eq_cut {α : Type} {t u before after : List α} {x : α}
    (cut : t ++ u = before ++ x :: after) :
    (∃ rest, t = before ++ x :: rest ∧ after = rest ++ u) ∨
      ∃ front, before = t ++ front ∧ u = front ++ x :: after := by
  rcases List.append_eq_append_iff.mp cut with ⟨front, left, right⟩ | ⟨back, left, right⟩
  · exact Or.inr ⟨front, left, right⟩
  · cases back with
    | nil => exact Or.inr ⟨[], by simpa using left.symm, right.symm⟩
    | cons y rest =>
      cases right
      exact Or.inl ⟨rest, left, rfl⟩

section Requests

variable {threads : Nat} {t u : List Exchange}

/-- A disciplined transcript stays so while nothing is asked for. -/
theorem Disciplined.append (disciplined : Disciplined threads t)
    (quiet : ∀ x ∈ u, x.isRequest = false) : Disciplined threads (t ++ u) := by
  intro before k after cut
  rcases append_eq_cut cut with ⟨rest, left, -⟩ | ⟨front, -, right⟩
  · exact disciplined before k rest left
  · have member : .said (.getInstances k) ∈ u := by simp [right]
    cases quiet _ member

/-- A disciplined transcript stays so with a request that the worker is entitled to. -/
theorem Disciplined.ask (disciplined : Disciplined threads t) {k : UInt32}
    (entitled : Entitled threads t k) :
    Disciplined threads (t ++ [.said (.getInstances k)]) := by
  intro before k' after cut
  rcases append_eq_cut cut with ⟨rest, left, -⟩ | ⟨front, rfl, right⟩
  · exact disciplined before k' rest left
  · cases front with
    | nil =>
      cases right
      simpa using entitled
    | cons x front => simp at right

/-- Answered requests stay answered while nothing is asked for. -/
theorem Answered.append (answered : Answered t) (quiet : ∀ x ∈ u, x.isRequest = false) :
    Answered (t ++ u) := by
  intro before k after cut
  rcases append_eq_cut cut with ⟨rest, left, rfl⟩ | ⟨front, -, right⟩
  · obtain ⟨bs, member⟩ := answered before k rest left
    exact ⟨bs, List.mem_append_left _ member⟩
  · have member : .said (.getInstances k) ∈ u := by simp [right]
    cases quiet _ member

/-- A grant answers everything that was asked before. -/
theorem answered_grant (t : List Exchange) (bs : List Batch) :
    Answered (t ++ [.heard (.sendInstances bs)]) := by
  intro before k after cut
  rcases append_eq_cut cut with ⟨rest, -, rfl⟩ | ⟨front, -, right⟩
  · exact ⟨bs, by simp⟩
  · have member : .said (.getInstances k) ∈ [Exchange.heard (.sendInstances bs)] := by simp [right]
    simp at member

end Requests

/-! ### Where a worker stands -/

namespace Bench

variable {ν : Type} {sender : Sender WorkerMessage ν} {b b' : Bench ν} {e : BenchEvent}
  {threads : Nat} {t : List Exchange}

/-- What is heard and said while an event takes place. -/
def exchanged (sender : Sender WorkerMessage ν) (b : Bench ν) (e : BenchEvent) : List Exchange :=
  (e.heard b.coordinator).toList.map .heard ++
    ((b.step sender e).sent.drop b.sent.length).map .said

/-- What is heard and said during a run. -/
def transcript (sender : Sender WorkerMessage ν) : Bench ν → List BenchEvent → List Exchange
  | _, [] => []
  | b, e :: events => b.exchanged sender e ++ transcript sender (b.step sender e) events

/-- The transcript tells where the worker stands. -/
structure Transcribed (threads : Nat) (b : Bench ν) (t : List Exchange) : Prop where
  said : saidIn t = b.sent
  settings : b.coordinator.settings.threads = threads
  disciplined : Disciplined threads t
  active : b.coordinator.stage.isActive = true → .heard .activate ∈ t
  told : b.coordinator.stage.isWorking = true →
    (b.coordinator.terminating = true ↔ .heard .terminate ∈ t)
  free : b.coordinator.stage.isWorking = true → b.coordinator.stage.isAsked = false →
    b.coordinator.terminating = false
  answered : b.coordinator.stage.isWorking = true → b.coordinator.stage.isAsked = false → Answered t
  accepted : b.coordinator.stage.isWorking = true → b.coordinator.terminating = false →
    b.ledger.accepted.length = granted (heardIn t)

/-- The standing of a worker that goes on working is the same, but it may have got its turn. -/
structure Stays (b b' : Bench ν) : Prop where
  working : b.coordinator.stage.isWorking = true
  asked : b'.coordinator.stage.isAsked = b.coordinator.stage.isAsked
  active : b'.coordinator.stage.isActive = true → b.coordinator.stage.isActive = true
  terminating : b'.coordinator.terminating = b.coordinator.terminating
  accepted : b'.ledger.accepted = b.ledger.accepted

/-- Of a worker that does not work there is little to tell. -/
theorem transcribed_of_stopped (said : saidIn t = b.sent)
    (settings : b.coordinator.settings.threads = threads) (disciplined : Disciplined threads t)
    (stopped : b.coordinator.stage.isWorking = false) : Transcribed threads b t := by
  have never : ¬b.coordinator.stage.isWorking = true := Bool.eq_false_iff.mp stopped
  exact ⟨said, settings, disciplined,
    fun active => absurd (Stage.isWorking_of_isActive active) never,
    fun works => absurd works never, fun works => absurd works never,
    fun works => absurd works never, fun works => absurd works never⟩

/-- The worker says something, but it does not ask for trials. -/
theorem Transcribed.speak (transcribed : Transcribed threads b t) {ms : List WorkerMessage}
    (quiet : ∀ m ∈ ms, m.isRequest = false) (sent : b'.sent = b.sent ++ ms)
    (settings : b'.coordinator.settings = b.coordinator.settings)
    (stays : b'.coordinator.stage.isWorking = true → b.Stays b') :
    Transcribed threads b' (t ++ ms.map .said) := by
  have mute : ∀ x ∈ ms.map Exchange.said, x.isRequest = false := by
    simpa [Exchange.isRequest] using quiet
  refine ⟨?_, ?_, transcribed.disciplined.append mute, ?_, ?_, ?_, ?_, ?_⟩
  · simp [transcribed.said, sent]
  · rw [settings]
    exact transcribed.settings
  · intro active
    have before := (stays (Stage.isWorking_of_isActive active)).active active
    exact List.mem_append_left _ (transcribed.active before)
  · intro works
    rw [(stays works).terminating, transcribed.told (stays works).working]
    simp
  · intro works unasked
    rw [(stays works).terminating]
    exact transcribed.free (stays works).working ((stays works).asked ▸ unasked)
  · intro works unasked
    exact (transcribed.answered (stays works).working ((stays works).asked ▸ unasked)).append mute
  · intro works untold
    rw [(stays works).accepted, transcribed.accepted (stays works).working
      ((stays works).terminating ▸ untold)]
    simp

/-- A worker that does not work any more does not ask for trials. -/
theorem Transcribed.leave (transcribed : Transcribed threads b t) {ms : List WorkerMessage}
    (quiet : ∀ m ∈ ms, m.isRequest = false) (sent : b'.sent = b.sent ++ ms)
    (settings : b'.coordinator.settings = b.coordinator.settings)
    (stopped : b'.coordinator.stage.isWorking = false) :
    Transcribed threads b' (t ++ ms.map .said) :=
  transcribed.speak quiet sent settings fun works =>
    absurd (stopped.symm.trans works) Bool.false_ne_true

/-- The trials that a worker in its turn counts as assigned are those that are open. -/
theorem Transcribed.entitled (transcribed : Transcribed threads b t) (kept : b.Kept)
    (turn : b.coordinator.stage.inRound = true) (short : 0 < b.coordinator.shortfall) :
    Entitled threads t (UInt32.ofNat b.coordinator.shortfall) := by
  have working := Stage.isWorking_of_inRound turn
  have unasked := Stage.unasked_of_inRound turn
  have untold := transcribed.free working unasked
  have assigned := (kept.reported (Stage.sound_of_isWorking working)).assigned working
  rw [transcribed.accepted working untold, ← transcribed.said] at assigned
  have missing : b.coordinator.shortfall = threads - openTrials t := by
    rw [Coordinator.shortfall, transcribed.settings, openTrials]
    omega
  rw [missing] at short ⊢
  refine ⟨transcribed.active (Stage.isActive_of_inRound turn), ?_,
    transcribed.answered working unasked, by omega, rfl, ⟨short, Nat.sub_le ..⟩, fun few => ?_⟩
  · rw [← transcribed.told working, untold]
    exact Bool.false_ne_true
  · rw [UInt32.toNat_ofNat']
    exact Nat.mod_eq_of_lt ((Nat.sub_le ..).trans_lt few)

theorem Transcribed.proceed (transcribed : Transcribed threads b t) (kept : b.Kept)
    {n : ν} {ms : List WorkerMessage} {c : Coordinator}
    (proceeds : b.coordinator.Proceeds sender ms c) :
    Transcribed threads ⟨c, n, b.sent ++ ms, b.ledger.drop b.coordinator c⟩
      (t ++ ms.map .said) := by
  have dropped := b.ledger.accepted_drop b.coordinator
  cases proceeds with
  | rest =>
    exact transcribed.speak (by simp) rfl rfl fun works => ⟨works, rfl, id, rfl, dropped _⟩
  | shift turn goes =>
    refine transcribed.speak (by simp) rfl rfl fun _ => ?_
    exact ⟨Stage.isWorking_of_inRound turn,
      (Stage.unasked_of_inRound goes).trans (Stage.unasked_of_inRound turn).symm,
      fun _ => Stage.isActive_of_inRound turn, rfl, dropped _⟩
  | @give done rest stage first stays =>
    refine transcribed.speak done.unasking rfl rfl fun works => ?_
    rcases stays with ⟨turn, goes⟩ | ⟨-, rfl⟩
    · exact ⟨Stage.isWorking_of_inRound turn,
        (Stage.unasked_of_inRound goes).trans (Stage.unasked_of_inRound turn).symm,
        fun _ => Stage.isActive_of_inRound turn, rfl, dropped _⟩
    · cases works
  | ask turn short =>
    have entitled := transcribed.entitled kept turn short
    have working := Stage.isWorking_of_inRound turn
    refine ⟨by rw [saidIn_append, saidIn_said, transcribed.said], transcribed.settings,
      transcribed.disciplined.ask entitled,
      fun _ => ?_, fun _ => ?_, fun _ asked => ?_, fun _ asked => ?_, fun _ untold => ?_⟩
    · exact List.mem_append_left _ entitled.activated
    · simpa using transcribed.told working
    · cases asked
    · cases asked
    · rw [dropped, transcribed.accepted working untold, heardIn_append, heardIn_said,
        List.append_nil]
  | quit turn left cause announcing => exact transcribed.leave announcing.unasking rfl rfl rfl
  | drain stops quiet => exact transcribed.leave (by simp) rfl rfl rfl
  | part last none => exact transcribed.leave (by simp [WorkerMessage.isRequest]) rfl rfl rfl
  | fail last left cause announcing => exact transcribed.leave announcing.unasking rfl rfl rfl
  | abort stops parting =>
    refine transcribed.leave ?_ rfl rfl rfl
    rcases parting with rfl | ⟨rfl, -⟩
    · simp [WorkerMessage.isRequest]
    · simp

theorem Transcribed.move (transcribed : Transcribed threads b t) (kept : b.Kept)
    (unheard : e.heard b.coordinator = none) (move : b.Move sender e b') :
    ∃ ms, b'.sent = b.sent ++ ms ∧ Transcribed threads b' (t ++ ms.map .said) := by
  cases move with
  | rest | start | finish | die =>
    refine ⟨[], by simp, transcribed.speak (by simp) (by simp) rfl fun works => ?_⟩
    exact ⟨works, rfl, id, rfl, rfl⟩
  | wait stays =>
    refine ⟨[], by simp, transcribed.speak (by simp) (by simp) rfl fun works => ?_⟩
    rcases stays with ⟨turn, goes⟩ | rfl
    · exact ⟨Stage.isWorking_of_inRound turn,
        (Stage.unasked_of_inRound goes).trans (Stage.unasked_of_inRound turn).symm,
        fun _ => Stage.isActive_of_inRound turn, rfl, rfl⟩
    · exact ⟨works, rfl, id, rfl, rfl⟩
  | @proceed n ms c proceeds => exact ⟨ms, rfl, transcribed.proceed kept proceeds⟩
  | take working heeds heard => cases unheard.symm.trans heard
  | strand working broken => exact ⟨[], by simp, transcribed.leave (by simp) (by simp) rfl rfl⟩
  | close parted => exact ⟨[], by simp, transcribed.leave (by simp) (by simp) rfl rfl⟩

/-- A worker that is to stop drops a grant, all others take it. -/
theorem Transcribed.take (transcribed : Transcribed threads b t) {m : ServerMessage}
    {c : Coordinator} (working : b.coordinator.stage.isWorking = true)
    (heeds : b.coordinator.Heeds m c) :
    Transcribed threads
      { b with
        coordinator := c
        ledger := (b.ledger.grant b.coordinator m).drop b.coordinator c } (t ++ [.heard m]) := by
  have mute : ∀ x ∈ [Exchange.heard m], x.isRequest = false := by simp [Exchange.isRequest]
  have said : saidIn (t ++ [.heard m]) = b.sent := by
    rw [saidIn_append, transcribed.said]
    exact List.append_nil _
  obtain ⟨_, _, _, obeyed, -⟩ := b.coordinator.obey_spec m
  have settings : (b.coordinator.obey m).settings.threads = threads := by
    rw [obeyed]
    exact transcribed.settings
  have terminating : (b.coordinator.obey m).terminating =
      (b.coordinator.terminating || m.isTerminate) := by rw [obeyed]
  cases heeds with
  | @heed stage _ _ goes asked told roused =>
    refine ⟨said, settings, transcribed.disciplined.append mute, fun active => ?_, fun _ => ?_,
      fun _ unasked => ?_, fun _ unasked => ?_, fun _ untold => ?_⟩
    · rcases roused active with before | rfl
      · exact List.mem_append_left _ (transcribed.active before)
      · simp
    · change (b.coordinator.obey m).terminating = true ↔ _
      rw [terminating, Bool.or_eq_true, transcribed.told working]
      cases m <;> simp [ServerMessage.isTerminate]
    · change (b.coordinator.obey m).terminating = false
      rw [Bool.eq_false_iff]
      intro stops
      rcases told stops with asks | ⟨before, free⟩
      · exact absurd (unasked.symm.trans asks) Bool.false_ne_true
      · exact absurd ((transcribed.free working free).symm.trans before) Bool.false_ne_true
    · change stage.isAsked = false at unasked
      rw [unasked] at asked
      cases m with
      | sendInstances bs => exact answered_grant t bs
      | activate | terminate =>
        have free : b.coordinator.stage.isAsked = false := by
          simpa [ServerMessage.isGrant] using asked.symm
        exact (transcribed.answered working free).append mute
    · -- Untold, the worker takes all that is granted.
      change (b.coordinator.obey m).terminating = false at untold
      have before : b.coordinator.terminating = false := by simp_all
      have counted := b.coordinator.length_jobsOf m.batches
      rw [JobLedger.accepted_drop, JobLedger.grant, if_neg (by simp [before]), List.length_append,
        counted, transcribed.accepted working before, heardIn_append, granted_append]
      rfl
  | halt =>
    exact transcribed_of_stopped said settings (transcribed.disciplined.append mute) rfl
  | ignore parted =>
    cases stage : b.coordinator.stage <;> simp_all [Stage.isFarewell, Stage.isWorking]

/-- Any event writes down what it has to. -/
theorem Transcribed.step (transcribed : Transcribed threads b t) (kept : b.Kept)
    (sender : Sender WorkerMessage ν) (e : BenchEvent) :
    Transcribed threads (b.step sender e) (t ++ b.exchanged sender e) := by
  unfold exchanged
  cases hears : e.heard b.coordinator with
  | none =>
    obtain ⟨ms, sent, next⟩ := transcribed.move kept hears (b.step_move sender e)
    rw [sent, List.drop_left]
    exact next
  | some m =>
    rcases step_heard hears with ⟨working, c, heeds, taken⟩ | ⟨parted, ignored⟩
    · rw [taken, List.drop_length]
      exact transcribed.take working heeds
    · -- After goodbye nothing matters.
      rw [ignored, List.drop_length]
      have ended : b.coordinator.stage.isWorking = false := by
        cases stage : b.coordinator.stage <;> simp_all [Stage.isFarewell, Stage.isWorking]
      refine transcribed_of_stopped ?_ transcribed.settings
        (transcribed.disciplined.append ?_) ended
      · rw [saidIn_append, transcribed.said]
        exact List.append_nil _
      · simp [Exchange.isRequest]

/-- The transcript keeps up with any events. -/
theorem Transcribed.run (transcribed : Transcribed threads b t) (kept : b.Kept)
    (sender : Sender WorkerMessage ν) (events : List BenchEvent) :
    Transcribed threads (b.run sender events) (t ++ b.transcript sender events) := by
  induction events generalizing b t with
  | nil => simpa [transcript, Bench.run] using transcribed
  | cons e events ih =>
    rw [transcript, ← List.append_assoc]
    exact ih (transcribed.step kept sender e) (kept.move (b.step_move sender e))

theorem transcribed_fresh {settings : CoordinatorSettings} {c : Coordinator}
    (made : Coordinator.start settings = .ok c) (n : ν) :
    Transcribed settings.threads (fresh c n) [] := by
  have unasked : Answered [] := by
    intro before k after cut
    simp at cut
  have quiet : Disciplined settings.threads [] := by
    intro before k after cut
    simp at cut
  unfold Coordinator.start at made
  split at made
  · cases made
  · cases made
    exact ⟨rfl, rfl, quiet, nofun, fun _ => ⟨nofun, nofun⟩, fun _ _ => rfl, fun _ _ => unasked,
      fun _ _ => rfl⟩

end Bench

end TrialFarm
