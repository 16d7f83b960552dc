import TrialFarm.Proofs.Server.Runs

/-!
# What is said to a worker

A worker is told at most once that there is work and at most once to stop, and in this order. Every
request is answered, with nothing once grants have ended. Closing the connection is the last that
happens to it. Which actions are not allowed any more can be told from those that were asked for
before, so all of this is one statement on pairs of actions.

## Main definitions

* `Action.Bars`: after the first action the second is not allowed.
* `ServerState.Spoken`: the actions so far are in order, and they agree with the roster.
* `ServerState.Warned`: once workers were told to stop, all that are on the roster were told.

## Main statements

* `ServerState.Spoken.say`: which actions may follow.
* `ServerState.Spoken.apply`, `ServerState.Warned.apply`: every event keeps the order.
* `messages_disciplined`: what is said to a worker in a run.
-/

namespace TrialFarm

namespace Action

/-- The worker that an action is about. -/
def worker? : Action → Option WorkerId
  | toWorker id _ | closeWorker id => some id
  | toManager _ => none

/-- After the action nothing is granted any more. -/
def EndsGrants : Action → Prop
  | toManager (.foundSolution _) | toWorker _ .terminate => True
  | _ => False

/-- After the first action the second is not allowed. -/
def Bars (a : Action) : Action → Prop
  | toWorker id .activate =>
    a = closeWorker id ∨ a = toWorker id .activate ∨ a = toWorker id .terminate
  | toWorker id .terminate => a = closeWorker id ∨ a = toWorker id .terminate
  | toWorker id (.sendInstances batches) => a = closeWorker id ∨ a.EndsGrants ∧ batches ≠ []
  | closeWorker id => a = closeWorker id
  | toManager _ => False

/-- The action answers a request of a worker. -/
def isGrantTo (id : WorkerId) : Action → Bool
  | toWorker other (.sendInstances _) => other = id
  | _ => false

/-- Actions are in order: none comes after one that bars it. -/
def InOrder (actions : List Action) : Prop := actions.Pairwise fun a b => ¬a.Bars b

variable {a b : Action} {id : WorkerId} {actions said : List Action}

/-- Closing a connection bars everything else that is for its worker. -/
theorem bars_of_close (about : b.worker? = some id) : (closeWorker id).Bars b := by
  cases b with
  | toManager m => cases about
  | closeWorker other =>
    obtain rfl := Option.some.inj about
    rfl
  | toWorker other m =>
    obtain rfl := Option.some.inj about
    cases m with
    | activate | terminate | sendInstances => exact Or.inl rfl

/-- In order, no action bars a later one. -/
theorem InOrder.not_bars (order : InOrder actions) (sub : [a, b].Sublist actions) : ¬a.Bars b :=
  List.pairwise_pair.mp (order.sublist sub)

/-- In order, an action that bars itself comes at most once. -/
theorem InOrder.count_le_one (order : InOrder actions) (self : a.Bars a) : actions.count a ≤ 1 := by
  by_contra many
  have twice : (List.replicate 2 a).Sublist actions :=
    List.replicate_sublist_iff.mpr (by omega)
  exact order.not_bars twice self

end Action

/-- The event is a request of the worker. -/
def StateEvent.isRequestOf (id : WorkerId) : StateEvent → Bool
  | said other (.getInstances _) => other = id
  | _ => false

namespace ServerState

open TrialFarm.Action

/-- The actions so far are in order, and they agree with the roster and what was noted. -/
structure Spoken (s : ServerState) : Prop where
  numbered : s.roster.Numbered
  order : InOrder s.outbound
  known : ∀ a ∈ s.outbound, ∀ id, a.worker? = some id → id < s.roster.nextId
  closed : ∀ id, .closeWorker id ∈ s.outbound ↔ id < s.roster.nextId ∧ id ∉ s.roster.ids
  active : ∀ id, .toWorker id .activate ∈ s.outbound →
    ∀ w, (id, w) ∈ s.roster.workers → w.activated = true
  stopped : ∀ id, .toWorker id .terminate ∈ s.outbound → s.workersTerminated = true
  solved : ∀ solution, .toManager (.foundSolution solution) ∈ s.outbound → s.solutionFound = true

variable {s s' s₁ : ServerState} {e : StateEvent} {id : WorkerId} {events : List StateEvent}

theorem Spoken.start (c : ServerConfig) : (start c).Spoken where
  numbered := Roster.Numbered.empty
  order := List.Pairwise.nil
  known _ member := absurd member List.not_mem_nil
  closed id := by simp [ServerState.start, Roster.empty, Roster.ids]
  active _ member := absurd member List.not_mem_nil
  stopped _ member := absurd member List.not_mem_nil
  solved _ member := absurd member List.not_mem_nil

/-- The connection of a worker on the roster was not closed. -/
theorem Spoken.not_closed (spoken : s.Spoken) (present : id ∈ s.roster.ids) :
    .closeWorker id ∉ s.outbound :=
  fun closed => ((spoken.closed id).mp closed).2 present

/-- Nothing of what is noted is taken back, and the roster has the same numbers. -/
theorem Spoken.mono (spoken : s.Spoken) (ids : s'.roster.ids = s.roster.ids)
    (nextId : s'.roster.nextId = s.roster.nextId)
    (active : ∀ entry ∈ s'.roster.workers, entry.2.activated = false →
      ∃ old ∈ s.roster.workers, old.1 = entry.1 ∧ old.2.activated = false)
    (stopped : s.workersTerminated = true → s'.workersTerminated = true)
    (solved : s.solutionFound = true → s'.solutionFound = true)
    (outbound : s'.outbound = s.outbound) : s'.Spoken where
  numbered := spoken.numbered.congr ids nextId
  order := outbound ▸ spoken.order
  known := by
    rw [outbound, nextId]
    exact spoken.known
  closed := by
    rw [outbound, nextId, ids]
    exact spoken.closed
  active id said w member := by
    rw [outbound] at said
    by_contra asleep
    obtain ⟨⟨old, v⟩, inside, same, sleeps⟩ := active _ member (by simpa using asleep)
    obtain rfl : old = id := same
    have awake := spoken.active old said v inside
    rw [awake] at sleeps
    cases sleeps
  stopped id said := stopped (spoken.stopped id (outbound ▸ said))
  solved solution said := solved (spoken.solved solution (outbound ▸ said))

/-- More is noted, and the roster is the same. -/
theorem Spoken.note (spoken : s.Spoken) (roster : s'.roster = s.roster)
    (stopped : s.workersTerminated = true → s'.workersTerminated = true)
    (solved : s.solutionFound = true → s'.solutionFound = true)
    (outbound : s'.outbound = s.outbound) : s'.Spoken := by
  refine spoken.mono (by rw [roster]) (by rw [roster]) ?_ stopped solved outbound
  intro entry member asleep
  rw [roster] at member
  exact ⟨entry, member, rfl, asleep⟩

/-- What may follow: actions that nothing bars, about workers that joined, and of which those that
are noted are noted already. -/
theorem Spoken.say {new : List Action} (spoken : s.Spoken) (order : InOrder new)
    (allowed : ∀ b ∈ new, ∀ a ∈ s.outbound, ¬a.Bars b)
    (known : ∀ b ∈ new, ∀ id, b.worker? = some id → id < s.roster.nextId)
    (active : ∀ id, .toWorker id .activate ∈ new →
      ∀ w, (id, w) ∈ s.roster.workers → w.activated = true)
    (stopped : ∀ id, .toWorker id .terminate ∈ new → s.workersTerminated = true)
    (solved : ∀ solution, .toManager (.foundSolution solution) ∈ new → s.solutionFound = true)
    (stays : ∀ id, .closeWorker id ∉ new) : (s.push new).Spoken where
  numbered := spoken.numbered
  order := List.pairwise_append.mpr ⟨spoken.order, order, fun a old b => (allowed b · a old)⟩
  known a member id about := by
    rcases List.mem_append.mp member with old | new
    · exact spoken.known a old id about
    · exact known a new id about
  closed id := by
    show .closeWorker id ∈ s.outbound ++ new ↔ _
    rw [List.mem_append, or_iff_left (stays id)]
    exact spoken.closed id
  active id member := by
    rcases List.mem_append.mp member with old | new
    · exact spoken.active id old
    · exact active id new
  stopped id member := by
    rcases List.mem_append.mp member with old | new
    · exact spoken.stopped id old
    · exact stopped id new
  solved solution member := by
    rcases List.mem_append.mp member with old | new
    · exact spoken.solved solution old
    · exact solved solution new

/-- Messages to the manager are always allowed. -/
theorem Spoken.report (spoken : s.Spoken) (ms : List ReportMessage)
    (solved : ∀ solution, .foundSolution solution ∈ ms → s.solutionFound = true) :
    (s.push (ms.map .toManager)).Spoken := by
  have toManager : ∀ b ∈ ms.map Action.toManager, ∃ m ∈ ms, b = .toManager m := by
    intro b member
    obtain ⟨m, inside, rfl⟩ := List.mem_map.mp member
    exact ⟨m, inside, rfl⟩
  refine spoken.say ?_ ?_ ?_ ?_ ?_ ?_ ?_
  · exact List.pairwise_map.mpr (List.pairwise_of_forall fun _ _ => id)
  · intro b member a _
    obtain ⟨m, -, rfl⟩ := toManager b member
    exact id
  · intro b member id about
    obtain ⟨m, -, rfl⟩ := toManager b member
    cases about
  · intro id member
    obtain ⟨m, -, same⟩ := toManager _ member
    cases same
  · intro id member
    obtain ⟨m, -, same⟩ := toManager _ member
    cases same
  · intro solution member
    obtain ⟨m, inside, same⟩ := toManager _ member
    obtain rfl := Action.toManager.inj same
    exact solved solution inside
  · intro id member
    obtain ⟨m, -, same⟩ := toManager _ member
    cases same

/-! ### What follows an event -/

/-- Who was not told yet may be told that there is work, as long as nobody is told to stop. -/
theorem Spoken.wakeIdle (spoken : s.Spoken) : s.wakeIdle.Spoken := by
  by_cases awake : s.Awake
  swap
  · rwa [wakeIdle_of_not_awake awake]
  rw [wakeIdle_of_awake awake]
  have untold : s.workersTerminated = false := by
    have open' := awake.open'
    simp only [dispatchSuspended, Bool.or_eq_false_iff] at open'
    exact open'.2
  have marked : ServerState.Spoken { s with roster := s.roster.allActive } := by
    refine spoken.mono (Roster.ids_allActive _) rfl ?_ id id rfl
    rintro entry member asleep
    obtain ⟨old, -, rfl⟩ := List.mem_map.mp member
    cases asleep
  refine marked.say ?_ ?_ ?_ ?_ ?_ ?_ ?_
  · -- Each is told once, since their numbers differ.
    refine List.pairwise_map.mpr ?_
    have distinct : s.roster.inactive.Nodup :=
      (List.filter_sublist.map Prod.fst).nodup spoken.numbered.distinct
    exact distinct.imp fun apart => by simp [Bars, apart]
  · intro b member a said
    obtain ⟨id, sleeps, rfl⟩ := List.mem_map.mp member
    obtain ⟨w, inside, asleep⟩ := Roster.mem_inactive.mp sleeps
    rintro (rfl | rfl | rfl)
    · exact spoken.not_closed (List.mem_map_of_mem inside) said
    · have awake := spoken.active id said w inside
      rw [asleep] at awake
      cases awake
    · rw [spoken.stopped id said] at untold
      cases untold
  · intro b member id about
    obtain ⟨other, sleeps, rfl⟩ := List.mem_map.mp member
    obtain rfl := Option.some.inj about
    obtain ⟨w, inside, -⟩ := Roster.mem_inactive.mp sleeps
    exact spoken.numbered.given _ (List.mem_map_of_mem inside)
  · intro id _ w member
    obtain ⟨old, -, same⟩ := List.mem_map.mp member
    rw [← (Prod.mk.inj same).2]
  · simp
  · simp
  · simp

/-- Everyone on the roster may be told to stop, once. -/
theorem Spoken.terminateWorkers (spoken : s.Spoken) : s.terminateWorkers.Spoken := by
  unfold ServerState.terminateWorkers
  split
  · exact spoken
  next untold =>
  have noted : ServerState.Spoken { s with workersTerminated := true } :=
    spoken.note rfl (fun _ => rfl) id rfl
  refine noted.say ?_ ?_ ?_ ?_ ?_ ?_ ?_
  · refine List.pairwise_map.mpr ?_
    exact spoken.numbered.distinct.imp fun apart => by simp [Bars, apart]
  · intro b member a said
    obtain ⟨id, present, rfl⟩ := List.mem_map.mp member
    rintro (rfl | rfl)
    · exact spoken.not_closed present said
    · exact untold (spoken.stopped id said)
  · intro b member id about
    obtain ⟨other, present, rfl⟩ := List.mem_map.mp member
    obtain rfl := Option.some.inj about
    exact spoken.numbered.given _ present
  · simp
  · exact fun _ _ => rfl
  · simp
  · simp

/-- The phase, and whether statistics were sent, are of no concern here. -/
theorem Spoken.setPhase (spoken : s.Spoken) (phase : Phase) :
    ServerState.Spoken { s with phase := phase } :=
  spoken.note rfl id id rfl

theorem Spoken.sendStatistics (spoken : s.Spoken) : s.sendStatistics.Spoken := by
  unfold ServerState.sendStatistics
  split
  · exact spoken
  · have noted : ServerState.Spoken { s with statisticsSent := true } :=
      spoken.note rfl id id rfl
    have reported := noted.report
      ((s.scheduler.report s.shortStatistics).map fun r => .sendStatistics r.1 r.2) (by simp)
    rw [List.map_map] at reported
    exact reported

/-- What follows an event is said in order. -/
theorem Spoken.sequel (spoken : s.Spoken)
    (solved : ∀ id solution, e = .said id (.foundSolution solution) → s.solutionFound = true) :
    (s.sequel e).Spoken := by
  refine sequel_induction (motive := Spoken) spoken ?_ ?_ ?_ ?_ ?_
  · exact fun id solution found =>
      spoken.report [.foundSolution solution] fun _ _ => solved id solution found
  · exact fun s spoken => spoken.wakeIdle
  · exact fun s spoken => spoken.terminateWorkers
  · intro s spoken
    unfold drainIfDue
    split
    · exact spoken.sendStatistics.terminateWorkers.setPhase _
    · exact spoken
  · intro s spoken
    unfold stopIfEmpty
    split
    · exact spoken.setPhase _
    · exact spoken

/-! ### The effect of an event -/

/-- A worker that joins is new, so nothing was said to it. -/
theorem Spoken.greet (spoken : s.Spoken) (left : s.roster.nextId.toNat + 1 < 2 ^ 64) :
    s.greet.Spoken := by
  have next := Roster.nextId_join_toNat left
  have unknown : ∀ a ∈ s.outbound, a.worker? ≠ some s.roster.nextId := by
    intro a member about
    exact UInt64.lt_irrefl _ (spoken.known a member _ about)
  have joined : ServerState.Spoken { s with roster := s.roster.join.2 } := by
    refine ⟨spoken.numbered.join left, spoken.order, ?_, ?_, ?_, spoken.stopped, spoken.solved⟩
    · intro a member id about
      have before := UInt64.lt_iff_toNat_lt.mp (spoken.known a member id about)
      rw [UInt64.lt_iff_toNat_lt, next]
      omega
    · intro id
      rw [spoken.closed, Roster.mem_ids_join, UInt64.lt_iff_toNat_lt, UInt64.lt_iff_toNat_lt, next,
        ← UInt64.toNat_inj]
      -- The number of the new worker is the only one that is known now and was not before.
      have given : id ∈ s.roster.ids → id.toNat < s.roster.nextId.toNat := fun present =>
        UInt64.lt_iff_toNat_lt.mp (spoken.numbered.given id present)
      grind
    · intro id said w member
      rcases List.mem_append.mp member with inside | last
      · exact spoken.active id said w inside
      · obtain ⟨rfl, -⟩ := Prod.mk.inj (List.mem_singleton.mp last)
        exact absurd rfl (unknown _ said)
  unfold ServerState.greet
  split
  · next told =>
    refine joined.say (List.pairwise_singleton _ _) ?_ ?_ ?_ ?_ ?_ ?_
    · intro b member a said
      rw [List.mem_singleton.mp member]
      rintro (rfl | rfl)
      · exact unknown _ said rfl
      · exact unknown _ said rfl
    · intro b member id about
      rw [List.mem_singleton.mp member] at about
      obtain rfl := Option.some.inj about
      rw [UInt64.lt_iff_toNat_lt]
      change _ < s.roster.join.2.nextId.toNat
      omega
    · simp
    · exact fun _ _ => told
    · simp
    · simp
  · rw [List.append_nil]
    exact joined

/-- A worker that asks is answered, with nothing if grants have ended. -/
theorem Spoken.grant {requested : UInt32} (spoken : s.Spoken)
    (done : s.grant id requested = (s₁, .ok ())) : s₁.Spoken := by
  obtain ⟨w, w', found, entered, rfl⟩ := grant_eq_ok done
  have present := Roster.mem_ids_of_find? found
  have spoken' : ServerState.Spoken { s with
      scheduler := (s.handOut requested).2
      roster := s.roster.modify id fun _ => w' } := by
    refine spoken.mono Roster.ids_modify rfl ?_ (fun told => told) (fun found => found) rfl
    intro entry member asleep
    rcases Roster.mem_modify member with inside | ⟨v, -, rfl⟩
    · exact ⟨entry, inside, rfl, asleep⟩
    · exact ⟨_, Roster.mem_of_find? found, rfl,
        (Worker.grantAll_activated entered).symm.trans asleep⟩
  refine spoken'.say (List.pairwise_singleton _ _) ?_ ?_ ?_ ?_ ?_ ?_
  · intro b member a said
    rw [List.mem_singleton.mp member]
    rintro (rfl | ⟨ends, some⟩)
    · exact spoken.not_closed present said
    · -- Whatever ends grants was noted, and then nothing is handed out.
      have suspended : s.dispatchSuspended = true := by
        unfold dispatchSuspended
        cases a with
        | closeWorker => exact ends.elim
        | toManager m =>
          cases m with
          | foundSolution solution => simp [spoken.solved solution said]
          | sendStatistics | disconnect => exact ends.elim
        | toWorker other m =>
          cases m with
          | terminate => simp [spoken.stopped other said]
          | activate | sendInstances => exact ends.elim
      unfold handOut at some
      rw [if_pos suspended] at some
      exact some rfl
  · intro b member other about
    rw [List.mem_singleton.mp member] at about
    obtain rfl := Option.some.inj about
    exact spoken.numbered.given _ present
  · simp
  · simp
  · simp
  · simp

/-- A worker leaves, and its connection is closed. -/
theorem Spoken.leave {scheduler : Scheduler} (spoken : s.Spoken) (present : id ∈ s.roster.ids) :
    ({ s with roster := s.roster.remove id, scheduler := scheduler }.push
      [.closeWorker id]).Spoken where
  numbered := spoken.numbered.remove
  order := by
    refine List.pairwise_append.mpr ⟨spoken.order, List.pairwise_singleton _ _, ?_⟩
    intro a said b last
    rw [List.mem_singleton.mp last]
    rintro rfl
    exact spoken.not_closed present said
  known a member other about := by
    rcases List.mem_append.mp member with old | last
    · exact spoken.known a old other about
    · rw [List.mem_singleton.mp last] at about
      obtain rfl := Option.some.inj about
      exact spoken.numbered.given _ present
  closed other := by
    change .closeWorker other ∈ s.outbound ++ [.closeWorker id] ↔
      other < s.roster.nextId ∧ other ∉ (s.roster.remove id).ids
    rw [List.mem_append, spoken.closed, List.mem_singleton, Action.closeWorker.injEq,
      Roster.mem_ids_remove]
    have given := spoken.numbered.given id present
    by_cases same : other = id
    · simp [same, given]
    · simp [same]
  active other member w inside := by
    rcases List.mem_append.mp member with old | last
    · exact spoken.active other old w (Roster.mem_remove.mp inside).1
    · cases List.mem_singleton.mp last
  stopped other member := by
    rcases List.mem_append.mp member with old | last
    · exact spoken.stopped other old
    · cases List.mem_singleton.mp last
  solved solution member := by
    rcases List.mem_append.mp member with old | last
    · exact spoken.solved solution old
    · cases List.mem_singleton.mp last

/-- The effect of an event is said in order. -/
theorem Core.spoken (core : s.Core e s₁) (spoken : s.Spoken)
    (left : e.isJoin = true → s.roster.nextId.toNat + 1 < 2 ^ 64) : s₁.Spoken := by
  cases core with
  | join => exact spoken.greet (left rfl)
  | grant done => exact spoken.grant done
  | complete done =>
    obtain ⟨w, w', scheduler, found, settled, -, rfl⟩ := complete_eq_ok done
    refine spoken.mono Roster.ids_modify rfl ?_ id id rfl
    intro entry member asleep
    rcases Roster.mem_modify member with inside | ⟨v, -, rfl⟩
    · exact ⟨entry, inside, rfl, asleep⟩
    · obtain ⟨m, -, -, rfl⟩ := Worker.settle_eq_ok settled
      exact ⟨_, Roster.mem_of_find? found, rfl, asleep⟩
  | leave found removed | lose found removed =>
    obtain ⟨scheduler, -, rfl⟩ := removeWorker_eq_ok found removed
    exact spoken.leave (Roster.mem_ids_of_find? found)
  | solve found => exact spoken.note rfl id (fun _ => rfl) rfl
  | submit | terminate => exact spoken.note rfl id id rfl
  | refuse | ignore | miss => exact spoken

/-- An event that does not fail keeps the order of what is said. -/
theorem Spoken.apply (spoken : s.Spoken) (done : s.apply e = (s', .ok ()))
    (left : e.isJoin = true → s.roster.nextId.toNat + 1 < 2 ^ 64) : s'.Spoken := by
  rcases apply_cases done with ⟨-, rfl⟩ | ⟨heard, s₁, core, rfl⟩
  · exact spoken
  · refine (core.spoken spoken left).sequel ?_
    rintro id solution rfl
    cases core with
    | solve => rfl
    | ignore gone => exact absurd (.said gone) heard

/-- So does a run. -/
theorem Spoken.run (spoken : s.Spoken) (ran : s.run events = some s')
    (left : s.roster.nextId.toNat + events.countP StateEvent.isJoin < 2 ^ 64) : s'.Spoken := by
  induction events generalizing s with
  | nil => exact Option.some.inj ran ▸ spoken
  | cons e events ih =>
    obtain ⟨s₁, done, ran⟩ := run_cons_eq_some.mp ran
    rw [List.countP_cons] at left
    have room : e.isJoin = true → s.roster.nextId.toNat + 1 < 2 ^ 64 := fun joined => by
      rw [if_pos joined] at left
      omega
    exact ih (spoken.apply done room) ran (by rw [apply_nextId done room]; omega)

/-! ### Everyone is told to stop -/

/-- Once workers were told to stop, all that are on the roster were told. -/
def Warned (s : ServerState) : Prop :=
  s.workersTerminated = true → ∀ id ∈ s.roster.ids, .toWorker id .terminate ∈ s.outbound

/-- A worker after the effect of an event was on the roster before, or it has just joined. -/
theorem Core.mem_ids (core : s.Core e s₁) (present : id ∈ s₁.roster.ids) :
    id ∈ s.roster.ids ∨ e = .joined ∧ id = s.roster.nextId := by
  cases core with
  | join =>
    exact (Roster.mem_ids_join.mp present).imp_right fun last => ⟨rfl, last⟩
  | grant done =>
    obtain ⟨w, w', -, -, rfl⟩ := grant_eq_ok done
    exact Or.inl (Roster.ids_modify ▸ present)
  | complete done =>
    obtain ⟨w, w', scheduler, -, -, -, rfl⟩ := complete_eq_ok done
    exact Or.inl (Roster.ids_modify ▸ present)
  | leave found removed | lose found removed =>
    obtain ⟨scheduler, -, rfl⟩ := removeWorker_eq_ok found removed
    exact Or.inl (Roster.mem_ids_remove.mp present).1
  | submit | refuse | terminate | solve | ignore | miss => exact Or.inl present

/-- The effect of an event leaves nobody on the roster unwarned. -/
theorem Core.warned (core : s.Core e s₁) (warned : s.Warned) : s₁.Warned := by
  intro told id present
  rw [core.workersTerminated] at told
  rw [core.outbound]
  rcases core.mem_ids present with before | ⟨rfl, rfl⟩
  · exact List.mem_append_left _ (warned told id before)
  · exact List.mem_append_right _ (by simp [answers, told])

/-- No event that does not fail leaves anybody unwarned. -/
theorem Warned.apply (warned : s.Warned) (done : s.apply e = (s', .ok ())) : s'.Warned := by
  obtain ⟨s₁, core, said⟩ := apply_eq_ok done
  obtain ⟨extra, out, -, all⟩ := said.outbound
  intro told id present
  rw [out]
  rw [said.roster.ids] at present
  rcases all told with before | now
  · exact List.mem_append_left _ (core.warned warned before id present)
  · exact List.mem_append_right _ (now id present)

theorem Warned.start (c : ServerConfig) : (start c).Warned := fun told => nomatch told

theorem Warned.run (warned : s.Warned) (ran : s.run events = some s') : s'.Warned :=
  run_induction (motive := Warned) (fun _ _ _ warned done => warned.apply done) warned ran

/-! ### Answers -/

/-- No announcement is a grant. -/
theorem not_grant_of_announcement {a : Action} (plain : a.IsAnnouncement) :
    a.isGrantTo id = false := by
  cases a with
  | toManager | closeWorker => rfl
  | toWorker other m =>
    cases m with
    | activate | terminate => rfl
    | sendInstances => exact plain.elim

/-- Only a request is answered by a grant, and only if the worker is on the roster. -/
theorem answers_grants (s : ServerState) (e : StateEvent) (id : WorkerId) :
    (s.answers e).countP (Action.isGrantTo id) =
      if e.isRequestOf id && s.roster.contains id then 1 else 0 := by
  -- What is no grant is not counted, however the test on the way turns out.
  have none (test : Bool) (a : Action) (plain : a.isGrantTo id = false) :
      (if test then [a] else []).countP (Action.isGrantTo id) = 0 := by
    cases test with
    | false => rfl
    | true => simp [plain]
  cases e with
  | joined => exact none _ _ rfl
  | submitted | terminated => rfl
  | lost other => exact none _ _ rfl
  | said other m =>
    cases m with
    | foundSolution | doneProcessing => rfl
    | disconnect => exact none _ _ rfl
    | getInstances requested =>
      by_cases same : other = id
      · subst same
        cases there : s.roster.contains other with
        | true => simp [answers, there, StateEvent.isRequestOf, Action.isGrantTo]
        | false => simp [answers, there]
      · rw [show StateEvent.isRequestOf id (.said other (.getInstances requested)) = false by
          simp [StateEvent.isRequestOf, same]]
        exact none _ _ (by simp [Action.isGrantTo, same])

/-- While grants are suspended, a request is answered with nothing. -/
theorem answers_suspended {batches : List Batch} (suspended : s.dispatchSuspended = true)
    (granted : .toWorker id (.sendInstances batches) ∈ s.answers e) : batches = [] := by
  obtain ⟨requested, -, -, rfl⟩ := grant_mem_answers granted
  unfold handOut
  rw [if_pos suspended]

/-- A request of a worker on the roster is answered by one grant, and nothing else is. The grant is
empty while grants are suspended. -/
theorem apply_grants (done : s.apply e = (s', .ok ())) (id : WorkerId) :
    ∃ new, s'.outbound = s.outbound ++ new ∧
      new.countP (Action.isGrantTo id) =
        (if e.isRequestOf id && s.roster.contains id then 1 else 0) ∧
      (s.dispatchSuspended = true →
        ∀ batches, .toWorker id (.sendInstances batches) ∈ new → batches = []) := by
  obtain ⟨extra, out, plain⟩ := apply_outbound done
  refine ⟨_, out, ?_, fun suspended batches granted => ?_⟩
  · have none : extra.countP (Action.isGrantTo id) = 0 := by
      refine List.countP_eq_zero.mpr fun a member => ?_
      rw [not_grant_of_announcement (plain a member)]
      exact Bool.false_ne_true
    rw [List.countP_append, none, answers_grants, Nat.add_zero]
  · rcases List.mem_append.mp granted with answer | late
    · exact answers_suspended suspended answer
    · exact (plain _ late).elim

/-- The actions about a worker so far, in order. -/
def saidTo (s : ServerState) (id : WorkerId) : List Action :=
  s.outbound.filter fun a => a.worker? = some id

/-- What is said to a worker are the actions that concern it. -/
theorem mem_saidTo {a : Action} : a ∈ s.saidTo id ↔ a ∈ s.outbound ∧ a.worker? = some id := by
  simp [saidTo]

/-- What is said to one worker is in order too. -/
theorem Spoken.saidTo (spoken : s.Spoken) (id : WorkerId) : InOrder (s.saidTo id) :=
  List.Pairwise.filter _ spoken.order

end ServerState

open ServerState in
/-- What is said to a worker in a run without failures, as long as numbers for workers do not run
out. It is told at most once that there is work and at most once to stop, in this order. Each
request that it makes while it is on the roster is answered by one grant, and nothing else is; the
grant is empty once a solution was found or workers were told to stop. Its connection is closed once
it has left, and never otherwise, and that is the last that happens to it. Nothing is said to
workers that never joined. Once workers were told to stop, each one on the roster was told once. -/
theorem messages_disciplined (c : ServerConfig) (events : List StateEvent) (s : ServerState)
    (ran : (ServerState.start c).run events = some s)
    (numbered : events.countP StateEvent.isJoin < 2 ^ 64) (id : WorkerId) :
    (s.saidTo id).count (.toWorker id .activate) ≤ 1 ∧
    (s.saidTo id).count (.toWorker id .terminate) ≤ 1 ∧
    ¬[.toWorker id .terminate, .toWorker id .activate].Sublist (s.saidTo id) ∧
    (∀ before e after, events = before ++ e :: after →
      ∃ b d new, (ServerState.start c).run before = some b ∧ b.apply e = (d, .ok ()) ∧
        d.outbound = b.outbound ++ new ∧
        new.countP (Action.isGrantTo id) =
          (if e.isRequestOf id && b.roster.contains id then 1 else 0) ∧
        (b.solutionFound = true ∨ b.workersTerminated = true →
          ∀ batches, .toWorker id (.sendInstances batches) ∈ new → batches = [])) ∧
    (∀ a batches, a.EndsGrants →
      [a, .toWorker id (.sendInstances batches)].Sublist s.outbound → batches = []) ∧
    (s.saidTo id).count (.closeWorker id) =
      (if id ∈ (ServerState.start c).enrolled events ∧ id ∉ s.roster.ids then 1 else 0) ∧
    (∀ a, ¬[.closeWorker id, a].Sublist (s.saidTo id)) ∧
    (id ∉ (ServerState.start c).enrolled events → s.saidTo id = []) ∧
    (s.workersTerminated = true → id ∈ s.roster.ids →
      (s.saidTo id).count (.toWorker id .terminate) = 1) := by
  have left : (ServerState.start c).roster.nextId.toNat + events.countP StateEvent.isJoin <
      2 ^ 64 := by
    change 0 + _ < _
    omega
  have spoken := (Spoken.start c).run ran left
  have warned := (Warned.start c).run ran
  have order := spoken.saidTo id
  have joined : id ∈ (ServerState.start c).enrolled events ↔ id < s.roster.nextId := by
    rw [mem_enrolled ran left]
    exact and_iff_right (UInt64.le_iff_toNat_le.mpr (Nat.zero_le _))
  have stopped : (s.saidTo id).count (.toWorker id .terminate) ≤ 1 :=
    order.count_le_one (Or.inr rfl)
  refine ⟨order.count_le_one (Or.inr (Or.inl rfl)), stopped,
    fun sub => order.not_bars sub (Or.inr (Or.inr rfl)), ?_, ?_, ?_, ?_, ?_, ?_⟩
  · rintro before e after rfl
    obtain ⟨b, d, early, done, -⟩ := run_split ran
    obtain ⟨new, out, grants, empty⟩ := apply_grants done id
    refine ⟨b, d, new, early, done, out, grants, fun ended => empty ?_⟩
    simpa [dispatchSuspended] using ended
  · intro a batches ends sub
    by_contra some
    exact spoken.order.not_bars sub (Or.inr ⟨ends, some⟩)
  · have once : (s.saidTo id).count (.closeWorker id) ≤ 1 := order.count_le_one rfl
    have closed : .closeWorker id ∈ s.saidTo id ↔
        id ∈ (ServerState.start c).enrolled events ∧ id ∉ s.roster.ids := by
      rw [mem_saidTo, spoken.closed, joined]
      exact and_iff_left rfl
    split
    · next gone =>
      have some := List.count_pos_iff.mpr (closed.mpr gone)
      omega
    · next stays => exact List.count_eq_zero.mpr fun member => stays (closed.mp member)
  · intro a sub
    have last : a ∈ s.saidTo id := sub.subset (by simp)
    exact order.not_bars sub (Action.bars_of_close (mem_saidTo.mp last).2)
  · intro never
    refine List.filter_eq_nil_iff.mpr fun a member about => ?_
    exact never (joined.mpr (spoken.known a member id (by simpa using about)))
  · intro told present
    have some := List.count_pos_iff.mpr (mem_saidTo.mpr ⟨warned told id present, rfl⟩)
    omega

/-- A worker finds a solution, asks for more all the same, and says goodbye. -/
def askedTwice : List StateEvent :=
  [.joined, .submitted ⟨4, 10, "a.cnf"⟩, .said 0 (.getInstances 2),
    .said 0 (.foundSolution default), .said 0 (.getInstances 2), .said 0 .disconnect]

/-- In that run the second request is answered with nothing, and the connection is closed once. -/
theorem messages_disciplined_askedTwice :
    askedTwice.countP StateEvent.isJoin < 2 ^ 64 ∧
    ∃ s, (ServerState.start ServerConfig.standard).run askedTwice = some s ∧
      s.saidTo 0 = [.toWorker 0 .activate,
        .toWorker 0 (.sendInstances [⟨⟨4, 10, "a.cnf"⟩, 2, 0⟩]), .toWorker 0 .terminate,
        .toWorker 0 (.sendInstances []), .closeWorker 0] ∧
      (s.saidTo 0).count (.closeWorker 0) = 1 ∧ s.saidTo 1 = [] := by
  have few : askedTwice.countP StateEvent.isJoin < 2 ^ 64 := by decide
  obtain ⟨s, ran, said, gone⟩ : ∃ s,
      (ServerState.start ServerConfig.standard).run askedTwice = some s ∧
      s.saidTo 0 = [.toWorker 0 .activate,
        .toWorker 0 (.sendInstances [⟨⟨4, 10, "a.cnf"⟩, 2, 0⟩]), .toWorker 0 .terminate,
        .toWorker 0 (.sendInstances []), .closeWorker 0] ∧ s.roster.ids = [] :=
    ⟨_, rfl, by decide, by decide⟩
  obtain ⟨-, -, -, -, -, closed, -, -, -⟩ :=
    messages_disciplined ServerConfig.standard askedTwice s ran few 0
  obtain ⟨-, -, -, -, -, -, -, unknown, -⟩ :=
    messages_disciplined ServerConfig.standard askedTwice s ran few 1
  refine ⟨few, s, ran, said, ?_, unknown (by decide)⟩
  rw [closed, gone]
  decide

end TrialFarm
