import TrialFarm.Proofs.Server.Counters
import TrialFarm.Proofs.Server.Refusals

/-!
# Workers that leave

What a worker holds when it leaves, with a farewell or without, goes back to the scheduler task by
task. The counts of a run are right, so none of these releases is refused: a departure never ends
the run, and nothing but counts and the queue is changed by it.

## Main definitions

* `Scheduler.Returned`: a scheduler after trials were given back.

## Main statements

* `Scheduler.returned_of_release`, `ServerState.returned_of_releaseAll`: what one release and all
  releases of a worker do.
* `departure_gives_back`: every departure in every run succeeds and gives everything back.
-/

namespace TrialFarm

open Scheduler

namespace Scheduler

/-- The later scheduler differs from the earlier one by trials that were given back. The counts are
lower by them, and tasks that had some may have joined the queue at its end. -/
structure Returned (s s' : Scheduler) (h : Holdings) : Prop where
  policy : s'.policy = s.policy
  size : s'.tasks.size = s.tasks.size
  tasks : ∀ id t, s.task? id = some t → ∃ t', s'.task? id = some t' ∧ t'.file = t.file ∧
    t'.statistics = t.statistics ∧ t'.shapeKnown = t.shapeKnown ∧
    t'.inFlight.toNat + h.held id = t.inFlight.toNat
  inFlight : s'.inFlight.toNat + h.load = s.inFlight.toNat
  queue : ∃ back, s'.queue = s.queue ++ back ∧ ∀ id ∈ back, 0 < h.held id

variable {s s' s₁ : Scheduler} {id : TaskId} {count : UInt32} {t t' : Task}

theorem Returned.nothing (s : Scheduler) : s.Returned s [] where
  policy := rfl
  size := rfl
  tasks _ t found := ⟨t, found, rfl, rfl, rfl, rfl⟩
  inFlight := rfl
  queue := ⟨[], (List.append_nil _).symm, nofun⟩

/-- A release lowers the counts of one task and of all, and may put the task back in the queue. -/
theorem returned_of_release (pos : 0 < count) (done : s.release id count = .ok s') :
    s.Returned s' [(id, count)] := by
  obtain ⟨policy, size⟩ := release_frame done
  refine ⟨policy, size, fun other t found => ?_, ?_, ?_⟩
  · obtain ⟨t', found', file, statistics, shape⟩ := release_task? done found
    have out := outOf_release done other
    rw [outOf_of_some found, outOf_of_some found'] at out
    exact ⟨t', found', file, statistics, shape, by
      rw [Holdings.held_cons, Holdings.held_nil]
      exact out⟩
  · obtain ⟨t₀, found₀, -, there, rfl⟩ := release_eq_ok_iff.mp done
    rw [putBack_eq found₀, Holdings.load_cons, Holdings.load_nil]
    have enough := UInt64.le_iff_toNat_le.mp there
    rw [UInt32.toNat_toUInt64] at enough
    dsimp only
    rw [UInt64.toNat_sub_of_le _ _ there, UInt32.toNat_toUInt64]
    omega
  · obtain ⟨t₀, found₀, -, -, rfl⟩ := release_eq_ok_iff.mp done
    rw [putBack_eq found₀]
    dsimp only
    split
    · refine ⟨[id], rfl, fun other member => ?_⟩
      rw [List.mem_singleton.mp member, Holdings.held_cons, if_pos rfl]
      exact UInt32.lt_iff_toNat_lt.mp pos
    · exact ⟨[], (List.append_nil _).symm, nofun⟩

/-- What is given back one after the other is given back in all. -/
theorem Returned.cons {rest : Holdings} (first : s.Returned s₁ [(id, count)])
    (second : s₁.Returned s' rest) (last : rest.held id = 0) :
    s.Returned s' ((id, count) :: rest) where
  policy := second.policy.trans first.policy
  size := second.size.trans first.size
  tasks other t found := by
    obtain ⟨t₁, found₁, file₁, statistics₁, shape₁, out₁⟩ := first.tasks other t found
    obtain ⟨t₂, found₂, file₂, statistics₂, shape₂, out₂⟩ := second.tasks other t₁ found₁
    refine ⟨t₂, found₂, file₂.trans file₁, statistics₂.trans statistics₁, shape₂.trans shape₁, ?_⟩
    rw [Holdings.held_cons] at out₁ ⊢
    split
    · next same =>
      rw [if_pos same] at out₁
      rw [same, last] at out₂
      omega
    · next apart =>
      rw [if_neg apart, Holdings.held_nil] at out₁
      omega
  inFlight := by
    have one := first.inFlight
    have all := second.inFlight
    rw [Holdings.load_cons, Holdings.load_nil] at one
    rw [Holdings.load_cons]
    omega
  queue := by
    obtain ⟨back₁, queue₁, held₁⟩ := first.queue
    obtain ⟨back₂, queue₂, held₂⟩ := second.queue
    refine ⟨back₁ ++ back₂, by rw [queue₂, queue₁, List.append_assoc], fun other member => ?_⟩
    rw [Holdings.held_cons]
    rcases List.mem_append.mp member with inside | inside
    · have some := held₁ other inside
      rw [Holdings.held_cons] at some
      split
      · next same => rwa [if_pos same] at some
      · next apart =>
        rw [if_neg apart] at some
        exact absurd some (Nat.lt_irrefl 0)
    · have some := held₂ other inside
      split
      · next same =>
        rw [same, last] at some
        exact absurd some (Nat.lt_irrefl 0)
      · exact some

end Scheduler

namespace ServerState

/-- All releases of a worker together give back what it holds. -/
theorem returned_of_releaseAll {s s' : Scheduler} {h : Holdings} (kept : h.Kept)
    (done : releaseAll s h = (s', .ok ())) : s.Returned s' h := by
  induction h generalizing s with
  | nil =>
    obtain rfl := (Prod.mk.inj done).1
    exact Returned.nothing s
  | cons entry rest ih =>
    obtain ⟨task, count⟩ := entry
    unfold releaseAll at done
    split at done
    · cases (Prod.mk.inj done).2
    · next s₁ released =>
      exact (returned_of_release kept.head_pos released).cons (ih kept.tail done)
        (Holdings.held_eq_zero_of_before kept.head_lt)

/-- In balance a worker can leave: all that it holds is given back, and quota and queue stay in
accord. -/
theorem Balanced.returned {s : ServerState} {id : WorkerId} {w : Worker} (balanced : s.Balanced)
    (quota : Quota s.scheduler.tasks s.scheduler.queue) (found : s.roster.find? id = some w) :
    ∃ s₁, s.removeWorker id = (s₁, .ok ()) ∧ s₁.roster = s.roster.remove id ∧
      s.scheduler.Returned s₁.scheduler w.outstanding ∧
      Quota s₁.scheduler.tasks s₁.scheduler.queue := by
  obtain ⟨scheduler, removed, -⟩ := balanced.removeWorker found
  obtain ⟨_, released, same⟩ := removeWorker_eq_ok found removed
  obtain rfl := congrArg ServerState.scheduler same
  have kept := balanced.roster.holdings _ (Roster.mem_of_find? found)
  have after := releaseAll_induction (motive := fun s => Quota s.tasks s.queue)
    (fun _ _ _ _ quota done => quota.release done) w.outstanding s.scheduler quota
  rw [released] at after
  exact ⟨_, removed, rfl, returned_of_releaseAll kept released, after⟩

end ServerState

/-- A task with a bound of which trials were given back has quota left, so it is in the queue. -/
theorem Scheduler.Returned.queued {s s' : Scheduler} {h : Holdings} (returned : s.Returned s' h)
    (before : Quota s.tasks s.queue) (after : Quota s'.tasks s'.queue) {id : TaskId} {t : Task}
    (found : s.task? id = some t) (bounded : t.file.startConfigs ≠ 0) (some : 0 < h.held id) :
    id ∈ s'.queue := by
  obtain ⟨t', found', file, statistics, -, out⟩ := returned.tasks id t found
  have within := before.within id t found bounded
  refine (after.waiting id t' found' (file ▸ bounded)).mpr ?_
  unfold Task.covered at within ⊢
  rw [file, statistics]
  omega

/-- A worker that is on the roster can always leave, with a farewell or without, and both do the
same: exactly this worker is struck off and the others keep what they hold, the trials it held come
off the counts of their tasks and off the count over all, no file and no results change, and every
file with a bound of which it held trials is in the queue. This holds after all runs in which fewer
than 2^64 workers join, whatever actions were carried out since. -/
theorem departure_gives_back (c : ServerConfig) (events : List StateEvent) (a : Audit)
    (ran : (Audit.start c).run events = some a)
    (numbered : events.countP StateEvent.isJoin < 2 ^ 64)
    (s : ServerState) (carried : s = { a.state with outbound := s.outbound })
    (id : WorkerId) (w : Worker) (found : s.roster.find? id = some w) :
    ∃ s', s.workerLost id = (s', .ok ()) ∧ s.handleWorker id .disconnect = (s', .ok ()) ∧
      s'.roster.ids = s.roster.ids.erase id ∧ id ∉ s'.roster.ids ∧
      (∀ other, other ≠ id → (s'.roster.find? other).map Worker.outstanding =
        (s.roster.find? other).map Worker.outstanding) ∧
      s.scheduler.Returned s'.scheduler w.outstanding ∧
      ∀ task t, s.scheduler.task? task = some t → t.file.startConfigs ≠ 0 →
        0 < w.outstanding.held task → task ∈ s'.scheduler.queue := by
  have balanced : s.Balanced := by
    have counted := ((Audit.Sound.start c).run ran (by omega)).balanced
    rw [carried]
    exact ⟨counted.roster, counted.scheduler, counted.agree⟩
  have quota : Quota s.scheduler.tasks s.scheduler.queue := by
    obtain ⟨calls, scheduler⟩ := Audit.calls_of_run ran
    rw [carried, scheduler]
    exact Quota.empty.calls calls
  have there := Roster.contains_iff.mpr ⟨w, found⟩
  obtain ⟨s₁, removed, left, returned, after⟩ := balanced.returned quota found
  -- Moving on after the departure changes neither the scheduler nor what anyone holds.
  have said := s₁.announces_advance
  have ids := said.roster.ids
  rw [left] at ids
  refine ⟨s₁.advance, ?_, ?_, ?_, ?_, fun other apart => ?_, ?_,
    fun task t found bounded some => ?_⟩
  · unfold ServerState.workerLost
    rw [if_pos there, removed]
    rfl
  · unfold ServerState.handleWorker
    rw [there, removed]
    rfl
  · rw [ids, Roster.ids_remove balanced.roster.numbered]
  · rw [ids, Roster.mem_ids_remove]
    exact fun member => member.2 rfl
  · rw [Roster.find?_outstanding, said.roster.holdings, ← Roster.find?_outstanding, left,
      Roster.find?_remove, if_neg apart]
  · rw [said.scheduler]
    exact returned
  · rw [said.scheduler]
    exact returned.queued quota after found bounded some

/-- After one of its two trials was reported, the only worker is lost. The other trial is put back
in the queue, which was empty. -/
theorem departure_gives_back_firstReport :
    ∃ a w s', (Audit.start ServerConfig.standard).run firstReport = some a ∧
      a.state.roster.find? 0 = some w ∧ w.outstanding = [(0, 1)] ∧ a.state.scheduler.queue = [] ∧
      a.state.workerLost 0 = (s', .ok ()) ∧ s'.roster.ids = [] ∧ 0 ∈ s'.scheduler.queue ∧
      s'.scheduler.inFlight = 0 := by
  have facts : ((Audit.start ServerConfig.standard).run firstReport).map (fun a =>
      (a.state.roster.find? 0, a.state.scheduler.queue, a.state.roster.ids,
        a.state.scheduler.inFlight, (a.state.scheduler.task? 0).map (·.file.startConfigs))) =
      some (some ⟨true, [(0, 1)]⟩, [], [0], 1, some 2) := by
    decide +kernel
  obtain ⟨a, ran, facts⟩ := Option.map_eq_some_iff.mp facts
  simp only [Prod.mk.injEq] at facts
  obtain ⟨found, idle, ids, out, file⟩ := facts
  obtain ⟨t, task, bounded⟩ := Option.map_eq_some_iff.mp file
  obtain ⟨s', lost, -, gone, -, -, returned, queued⟩ :=
    departure_gives_back ServerConfig.standard firstReport a ran (by decide) a.state rfl 0 _ found
  have none := returned.inFlight
  rw [out] at none
  refine ⟨a, _, s', ran, found, rfl, idle, lost, by rw [gone, ids]; rfl,
    queued 0 t task (by rw [bounded]; decide) (by decide), UInt64.toNat_inj.mp ?_⟩
  exact Nat.add_right_cancel none

end TrialFarm
