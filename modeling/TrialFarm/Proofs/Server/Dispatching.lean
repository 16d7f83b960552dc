import TrialFarm.Proofs.Server.Sendable
import TrialFarm.Proofs.Server.Steady

/-!
# What a grant hands out

A grant serves the files at the front of the queue, each with all that is left of its quota, until
all that was asked for is handed out, the queue is empty, or the reply has no room for a batch of
the next file. Only the last file can be served in part, and it is the only one that stays in the
queue.

## Main definitions

* `Task.unclaimed`: what is left of a quota.
* `Scheduler.Walk`: the turns of a walk along the queue.
* `Scheduler.HandsOut`: what a grant hands out, and all that it changes.

## Main statements

* `Scheduler.Quota.walk`: where the queue is in accord with the quotas, no file is passed over.
* `Scheduler.Walk.exact`: what every batch takes.
* `grant_hands_out`: the meaning of a grant, for all schedulers that calls lead to.
-/

namespace TrialFarm

open Wire

/-- Trials of a file with a bound that were neither handed out nor reported. -/
def Task.unclaimed (t : Task) : Nat := t.file.startConfigs.toNat - t.covered

/-- A batch covers what is left of its task. One of a file without a bound always does. -/
def Batch.Covers (b : Batch) (t : Task) : Prop :=
  t.file.startConfigs = 0 ∨ b.instances.toNat = t.unclaimed

/-- A batch takes from its task as much as it can of trials that are asked for. -/
structure Batch.Exact (b : Batch) (t : Task) (asked : Nat) : Prop where
  file : b.file = t.file
  unbounded : t.file.startConfigs = 0 → b.instances.toNat = asked
  bounded : t.file.startConfigs ≠ 0 → b.instances.toNat = min asked t.unclaimed

namespace Scheduler

/-! ### The walk along the queue -/

/-- The turns of a walk along the queue. Each but the last serves the first file with all that is
left of it. -/
inductive Walk : Dispatch → List TaskId → List Batch → Dispatch → List TaskId → Prop
  | stop {d : Dispatch} {queue : List TaskId} (ends : d.Ends queue) : Walk d queue [] d queue
  | cover {d d' : Dispatch} {id : TaskId} {queue queue' : List TaskId} {t : Task} {bs : List Batch}
      (found : d.tasks[id.toNat]? = some t) (enough : t.available d.remaining ≤ d.remaining)
      (rest : Walk (d.serve id t (t.available d.remaining) true) queue bs d' queue') :
      Walk d (id :: queue) (⟨t.file, t.available d.remaining, id⟩ :: bs) d' queue'
  | share {d : Dispatch} {id : TaskId} {queue : List TaskId} {t : Task}
      (found : d.tasks[id.toNat]? = some t) (short : d.remaining < t.available d.remaining) :
      Walk d (id :: queue) [⟨t.file, d.remaining, id⟩] (d.serve id t d.remaining false)
        (id :: queue)

/-- Where the queue is in accord with the quotas, a hand-out that does not run over is a walk: no
file is passed over. -/
theorem Quota.walk {d d' : Dispatch} {queue queue' : List TaskId} (quota : Quota d.tasks queue)
    (walked : Scheduler.dispatch queue d = .ok (d', queue')) : ∃ bs, Walk d queue bs d' queue' := by
  refine dispatch_turns (motive := fun queue d r => Quota d.tasks queue → r = .ok (d', queue') →
    ∃ bs, Walk d queue bs d' queue') ?_ ?_ ?_ ?_ ?_ ?_ queue d quota walked
  · rintro d queue ends - same
    obtain ⟨rfl, rfl⟩ := Prod.mk.inj (Except.ok.inj same)
    exact ⟨[], .stop ends⟩
  · intro d id queue missing quota
    obtain ⟨t, found⟩ := quota.known id (List.mem_cons_self ..)
    rw [missing] at found
    cases found
  · intro d id queue t r asked found nothing _ quota
    exact absurd nothing (quota.available_ne_zero (List.mem_cons_self ..) found asked)
  · intro d id queue t r _ found _ enough _ _ ih quota same
    obtain ⟨bs, rest⟩ := ih (quota.cover found) same
    exact ⟨_, .cover found enough rest⟩
  · rintro d id queue t - found short - - - same
    obtain ⟨rfl, rfl⟩ := Prod.mk.inj (Except.ok.inj same)
    exact ⟨_, .share found short⟩
  · exact fun _ _ _ _ _ _ _ _ _ _ _ => nofun

namespace Walk

variable {d d' : Dispatch} {queue queue' : List TaskId} {bs : List Batch} {id : TaskId} {t : Task}

/-- A walk puts its batches before those that were there, the last one first. -/
theorem batches (walk : Walk d queue bs d' queue') : d'.batches = bs.reverse ++ d.batches := by
  induction walk with
  | stop => rfl
  | cover _ _ _ ih =>
    rw [ih, List.reverse_cons, List.append_assoc]
    rfl
  | share => rfl

/-- What is handed out and what is still asked for make up what was asked for. -/
theorem remaining (walk : Walk d queue bs d' queue') :
    trials bs + d'.remaining.toNat = d.remaining.toNat := by
  induction walk with
  | stop => simp
  | @cover d d' id queue queue' t bs _ enough _ ih =>
    have left : (d.remaining - t.available d.remaining).toNat = _ :=
      UInt32.toNat_sub_of_le _ _ enough
    rw [UInt32.le_iff_toNat_le] at enough
    change _ = (d.remaining - t.available d.remaining).toNat at ih
    rw [trials_cons]
    dsimp only
    omega
  | share => simp [Dispatch.serve]

/-- Why the walk has ended. -/
theorem ends (walk : Walk d queue bs d' queue') : d'.Ends queue' := by
  induction walk with
  | stop ends => exact ends
  | cover _ _ _ ih => exact ih
  | share => exact .spent (UInt32.sub_self _)

/-- The tasks that are served are the first of the queue. All of them leave it but the last one,
which may stay. -/
theorem queue_eq (walk : Walk d queue bs d' queue') :
    ∃ rest, queue = bs.map Batch.taskId ++ rest ∧
      (queue' = rest ∨ ∃ b, bs.getLast? = some b ∧ queue' = b.taskId :: rest) := by
  induction walk with
  | @stop _ queue _ => exact ⟨queue, rfl, .inl rfl⟩
  | @cover d d' id queue queue' t bs _ _ _ ih =>
    obtain ⟨rest, before, after⟩ := ih
    refine ⟨rest, by rw [before]; rfl, after.imp_right fun ⟨b, last, stays⟩ => ⟨b, ?_, stays⟩⟩
    rw [List.getLast?_cons, last]
    rfl
  | @share d id queue t _ _ => exact ⟨queue, rfl, .inr ⟨_, rfl, rfl⟩⟩

/-- What a walk leaves in the queue was in it. -/
theorem mem_of_mem_left (walk : Walk d queue bs d' queue') {other : TaskId}
    (stays : other ∈ queue') : other ∈ queue := by
  obtain ⟨rest, before, rfl | ⟨b, last, rfl⟩⟩ := walk.queue_eq
  · rw [before]
    exact List.mem_append_right _ stays
  · rw [before]
    rcases List.mem_cons.mp stays with rfl | behind
    · exact List.mem_append_left _ (List.mem_map_of_mem (List.mem_of_getLast? last))
    · exact List.mem_append_right _ behind

/-- A walk hands out trials of queued files only. -/
theorem mem_of_batch (walk : Walk d queue bs d' queue') {b : Batch} (member : b ∈ bs) :
    b.taskId ∈ queue := by
  obtain ⟨rest, before, -⟩ := walk.queue_eq
  rw [before]
  exact List.mem_append_left _ (List.mem_map_of_mem member)

/-- Serving a task changes no other one. -/
theorem getElem?_serve {take : UInt32} {covered : Bool} (found : d.tasks[id.toNat]? = some t)
    {other : TaskId} (apart : other ≠ id) :
    (d.serve id t take covered).tasks[other.toNat]? = d.tasks[other.toNat]? :=
  (getElem?_replace found other).trans (if_neg apart)

/-- A task that is not served does not change. -/
theorem others (walk : Walk d queue bs d' queue') {other : TaskId}
    (apart : ∀ b ∈ bs, b.taskId ≠ other) : d'.tasks[other.toNat]? = d.tasks[other.toNat]? := by
  induction walk with
  | stop => rfl
  | cover found _ _ ih =>
    rw [ih fun b later => apart b (List.mem_cons_of_mem _ later)]
    exact getElem?_serve found (apart _ (List.mem_cons_self ..)).symm
  | share found _ => exact getElem?_serve found (apart _ (List.mem_cons_self ..)).symm

/-- What is available of a file with a bound is what is left of it. -/
theorem available_eq (bounded : t.file.startConfigs ≠ 0) (remaining : UInt32) :
    (t.available remaining).toNat = t.unclaimed := by
  rw [Task.available_of_bounded bounded, Task.unclaimed, Task.covered]
  omega

/-- Every batch takes from its task as much as it can of what the batches before it have left. -/
theorem exact (walk : Walk d queue bs d' queue') (distinct : queue.Nodup)
    {earlier later : List Batch} {b : Batch} (here : bs = earlier ++ b :: later) :
    ∃ t, d.tasks[b.taskId.toNat]? = some t ∧ b.Exact t (d.remaining.toNat - trials earlier) ∧
      (later ≠ [] → b.Covers t) := by
  induction walk generalizing earlier with
  | stop => simp at here
  | @cover d d' id queue queue' t bs found enough rest ih =>
    obtain ⟨fresh, distinct⟩ := List.nodup_cons.mp distinct
    cases earlier with
    | nil =>
      obtain ⟨rfl, rfl⟩ := List.cons.inj here
      rw [UInt32.le_iff_toNat_le] at enough
      refine ⟨t, found, ⟨rfl, fun unbounded => ?_, fun bounded => ?_⟩, fun _ => ?_⟩
      · exact congrArg UInt32.toNat (Task.available_of_unbounded unbounded _)
      · change (t.available d.remaining).toNat = _
        rw [available_eq bounded] at enough ⊢
        exact (Nat.min_eq_right enough).symm
      · by_cases unbounded : t.file.startConfigs = 0
        · exact .inl unbounded
        · exact .inr (available_eq unbounded _)
    | cons first earlier =>
      obtain ⟨rfl, split⟩ := List.cons.inj here
      obtain ⟨u, there, takes, covers⟩ := ih distinct split
      have member : b ∈ bs := by simp [split]
      have queued := rest.mem_of_batch member
      rw [getElem?_serve found (ne_of_mem_of_not_mem queued fresh)] at there
      refine ⟨u, there, ?_, covers⟩
      have left : (d.remaining - t.available d.remaining).toNat = _ :=
        UInt32.toNat_sub_of_le _ _ enough
      change b.Exact u ((d.remaining - t.available d.remaining).toNat - trials earlier) at takes
      rwa [left, Nat.sub_sub] at takes
  | @share d id queue t found short =>
    obtain ⟨rfl, rfl, rfl⟩ : earlier = [] ∧ later = [] ∧ b = ⟨t.file, d.remaining, id⟩ := by
      cases earlier with
      | nil => simp_all
      | cons => simp at here
    refine ⟨t, found, ⟨rfl, fun _ => rfl, fun bounded => ?_⟩, fun more => absurd rfl more⟩
    rw [UInt32.lt_iff_toNat_lt, available_eq bounded] at short
    exact (Nat.min_eq_left (Nat.le_of_lt short)).symm

/-- A task that is served leaves the queue if what is left of it is covered. If not, all that was
asked for is handed out. -/
theorem leaves (walk : Walk d queue bs d' queue') (distinct : queue.Nodup) {b : Batch}
    (member : b ∈ bs) (found : d.tasks[b.taskId.toNat]? = some t) :
    (b.taskId ∉ queue' ↔ b.Covers t) ∧ (b.taskId ∈ queue' → d'.remaining = 0) := by
  induction walk with
  | stop => cases member
  | @cover d d' id queue queue' u bs there enough rest ih =>
    obtain ⟨fresh, distinct⟩ := List.nodup_cons.mp distinct
    rcases List.mem_cons.mp member with rfl | later
    · obtain rfl := Option.some.inj (there.symm.trans found)
      have gone := mt rest.mem_of_mem_left fresh
      refine ⟨iff_of_true gone ?_, fun stays => absurd stays gone⟩
      by_cases unbounded : u.file.startConfigs = 0
      · exact .inl unbounded
      · exact .inr (available_eq unbounded _)
    · refine ih distinct later ?_
      rwa [getElem?_serve there (ne_of_mem_of_not_mem (rest.mem_of_batch later) fresh)]
  | @share d id queue u there short =>
    obtain rfl := List.mem_singleton.mp member
    obtain rfl := Option.some.inj (there.symm.trans found)
    refine ⟨iff_of_false (not_not.mpr (List.mem_cons_self ..)) ?_, fun _ => UInt32.sub_self _⟩
    rintro (unbounded | all)
    · rw [Task.available_of_unbounded unbounded] at short
      exact UInt32.lt_irrefl _ short
    · by_cases unbounded : u.file.startConfigs = 0
      · rw [Task.available_of_unbounded unbounded] at short
        exact UInt32.lt_irrefl _ short
      · rw [UInt32.lt_iff_toNat_lt, available_eq unbounded] at short
        exact Nat.ne_of_lt short all

/-- A file without a bound takes all that is asked for, so only files with a bound are followed by
others. -/
theorem takes (walk : Walk d queue bs d' queue') (distinct : queue.Nodup)
    (positive : ∀ b ∈ bs, 0 < b.instances) {earlier later : List Batch} {b : Batch}
    (here : bs = earlier ++ b :: later) :
    ∃ t, d.tasks[b.taskId.toNat]? = some t ∧ b.Exact t (d.remaining.toNat - trials earlier) ∧
      (later ≠ [] → t.file.startConfigs ≠ 0 ∧ b.instances.toNat = t.unclaimed) := by
  obtain ⟨t, found, takes, covers⟩ := walk.exact distinct here
  refine ⟨t, found, takes, fun more => ?_⟩
  have bounded : t.file.startConfigs ≠ 0 := by
    intro unbounded
    obtain ⟨next, behind⟩ := List.exists_mem_of_ne_nil later more
    have all := takes.unbounded unbounded
    have pos := UInt32.lt_iff_toNat_lt.mp (positive next (by simp [here, behind]))
    have part : next.instances.toNat ≤ trials later :=
      List.le_sum_of_mem (List.mem_map_of_mem behind)
    have sum := walk.remaining
    rw [here, trials_append, trials_cons] at sum
    rw [UInt32.toNat_zero] at pos
    omega
  exact ⟨bounded, (covers more).resolve_left bounded⟩

/-- A walk that has not handed out all has reached the end of the queue, or another batch would make
the reply too large. -/
theorem stops (walk : Walk d queue bs d' queue')
    (size : encodedLen (ServerMessage.sendInstances bs) = d'.replyLen)
    (less : trials bs < d.remaining.toNat) :
    queue' = [] ∨ ∃ id rest t, queue' = id :: rest ∧ d'.tasks[id.toNat]? = some t ∧ ∀ take,
      maxPayload < encodedLen (ServerMessage.sendInstances (bs ++ [⟨t.file, take, id⟩])) := by
  have sum := walk.remaining
  cases walk.ends with
  | spent none =>
    rw [none, UInt32.toNat_zero] at sum
    omega
  | idle => exact .inl rfl
  | @full id rest t found full =>
    refine .inr ⟨id, rest, t, rfl, found, fun take => ?_⟩
    have room := full take
    unfold Dispatch.Fits at room
    rw [← size] at room
    change ¬emptyGrantLen + _ + _ ≤ _ at room
    change maxPayload < emptyGrantLen + ((bs ++ [_]).map Batch.encodedLen).sum
    rw [List.map_append, List.sum_append, List.map_singleton, List.sum_singleton]
    omega

/-- A walk that has served nobody had nothing to do, if a batch of any file fits the reply. -/
theorem progress (walk : Walk d queue [] d' queue') (asked : d.remaining ≠ 0)
    (room : ∀ id t, d.tasks[id.toNat]? = some t → d.Fits id t 0) : queue = [] := by
  cases walk with
  | stop ends =>
    cases ends with
    | spent none => exact absurd none asked
    | idle => rfl
    | full found full => exact absurd (room _ _ found) (full 0)

end Walk

/-! ### Whole grants -/

/-- What a grant hands out, and all that it changes. -/
structure HandsOut (s s' : Scheduler) (requested : UInt32) (bs : List Batch) : Prop where
  /-- The batches are of distinct tasks. -/
  distinct : (bs.map Batch.taskId).Nodup
  /-- These are the first of the queue, in its order. All of them leave it but the last one, which
  may stay, and the rest keeps its order. -/
  queue : ∃ rest, s.queue = bs.map Batch.taskId ++ rest ∧
    (s'.queue = rest ∨ ∃ b, bs.getLast? = some b ∧ s'.queue = b.taskId :: rest)
  positive : ∀ b ∈ bs, 0 < b.instances
  trials_le : trials bs ≤ requested.toNat
  /-- Each batch takes as much as it can, and each but the last all that is left of its file. -/
  takes : ∀ earlier b later, bs = earlier ++ b :: later → ∃ t, s.task? b.taskId = some t ∧
    b.Exact t (requested.toNat - trials earlier) ∧
    (later ≠ [] → t.file.startConfigs ≠ 0 ∧ b.instances.toNat = t.unclaimed)
  /-- A file leaves the queue if what is left of it is covered, and if it stays, all that was asked
  for is handed out. -/
  leaves : ∀ b ∈ bs, ∀ t, s.task? b.taskId = some t →
    (b.taskId ∉ s'.queue ↔ b.Covers t) ∧ (b.taskId ∈ s'.queue → trials bs = requested.toNat)
  /-- The count of each task that is served grows by its batch. -/
  served : ∀ b ∈ bs, ∀ t, s.task? b.taskId = some t → ∃ t', s'.task? b.taskId = some t' ∧
    t'.file = t.file ∧ t'.statistics = t.statistics ∧ t'.shapeKnown = t.shapeKnown ∧
    t'.inFlight.toNat = t.inFlight.toNat + b.instances.toNat
  others : ∀ id, (∀ b ∈ bs, b.taskId ≠ id) → s'.task? id = s.task? id
  inFlight : s'.inFlight.toNat = s.inFlight.toNat + trials bs
  policy : s'.policy = s.policy
  sendable : ∃ payload, toPayload (ServerMessage.sendInstances bs) = .ok payload ∧
    payload.length ≤ maxPayload
  /-- If not all is handed out, nothing is queued any more, or another batch, of the file that is
  first now, would make the reply too large. -/
  stops : trials bs < requested.toNat → s'.queue = [] ∨
    ∃ id rest t, s'.queue = id :: rest ∧ s'.task? id = some t ∧ ∀ take,
      maxPayload < encodedLen (ServerMessage.sendInstances (bs ++ [⟨t.file, take, id⟩]))
  progress : requested ≠ 0 → s.queue ≠ [] → 0 < trials bs

/-- Of distinct tasks, each has one batch. -/
theorem trialsOf_of_distinct {bs : List Batch} (distinct : (bs.map Batch.taskId).Nodup) {b : Batch}
    (member : b ∈ bs) : trialsOf bs b.taskId = b.instances.toNat := by
  have none (cs : List Batch) (fresh : b.taskId ∉ cs.map Batch.taskId) :
      trialsOf cs b.taskId = 0 := by
    refine List.sum_eq_zero fun n inside => ?_
    obtain ⟨c, here, rfl⟩ := List.mem_map.mp inside
    have apart : b.taskId ≠ c.taskId := (ne_of_mem_of_not_mem (List.mem_map_of_mem here) fresh).symm
    exact if_neg apart
  induction bs with
  | nil => cases member
  | cons c bs ih =>
    obtain ⟨fresh, distinct⟩ := List.nodup_cons.mp distinct
    rw [trialsOf_cons]
    rcases List.mem_cons.mp member with rfl | later
    · rw [if_pos rfl, none bs fresh, Nat.add_zero]
    · rw [if_neg (ne_of_mem_of_not_mem (List.mem_map_of_mem later) fresh), ih distinct later,
        Nat.zero_add]

/-- What a grant hands out where the queue accords with the quotas and all files can be sent. -/
theorem Quota.hands_out {s s' : Scheduler} {requested : UInt32} {bs : List Batch}
    (quota : Quota s.tasks s.queue) (summed : s.Summed) (measured : Measured s.tasks)
    (done : s.grant requested = .ok (bs, s')) : s.HandsOut s' requested bs := by
  have granted := grant_spec done
  have small := (measured.grant done).2
  obtain ⟨d, queue, walked, rfl, rfl⟩ := grant_eq_ok done
  obtain ⟨bs, walk⟩ := Quota.walk (d := s.dispatchOf requested) quota walked
  have handed : d.batches.reverse = bs := by
    rw [walk.batches]
    simp [dispatchOf]
  have size : encodedLen (ServerMessage.sendInstances d.batches.reverse) = _ :=
    (measured.dispatch walked).encodedLen_reverse
  rw [handed] at granted size small ⊢
  have sum : _ = requested.toNat := walk.remaining
  have distinct : (bs.map Batch.taskId).Nodup := by
    obtain ⟨rest, before, -⟩ := walk.queue_eq
    have all := quota.distinct
    rw [before] at all
    exact (List.nodup_append.mp all).1
  exact
    { distinct := distinct
      queue := walk.queue_eq
      positive := granted.positive
      trials_le := granted.trials_le
      takes := fun _ _ _ here => walk.takes quota.distinct granted.positive here
      leaves := by
        intro b member t found
        obtain ⟨leaves, spent⟩ := walk.leaves quota.distinct member found
        refine ⟨leaves, fun stays => ?_⟩
        rwa [spent stays, UInt32.toNat_zero, Nat.add_zero] at sum
      served := by
        intro b member t found
        obtain ⟨scheduled, later⟩ := granted.tasks b.taskId t found
        have own := trialsOf_of_distinct distinct member
        have out := granted.outOf_eq b.taskId
        rw [outOf_of_some found, outOf_of_some later] at out
        exact ⟨_, later, rfl, rfl, rfl, own ▸ out⟩
      others := fun id apart => walk.others apart
      inFlight := by
        rw [← (granted.summed summed).sum, granted.outAll_eq, summed.sum]
      policy := granted.policy
      sendable := ⟨_, toPayload_eq_ok_iff.mpr ⟨small, rfl⟩, by rwa [CanonicalSet.length_body]⟩
      stops := walk.stops size
      progress := by
        intro asked queued
        cases bs with
        | nil =>
          refine absurd (walk.progress asked fun id t found => ?_) queued
          have short := measured t (Array.mem_of_getElem? found)
          change emptyGrantLen + (t.file.encodedLen + 8) ≤ maxPayload
          exact Nat.add_assoc _ _ _ ▸ short
        | cons b bs =>
          have pos := UInt32.lt_iff_toNat_lt.mp (granted.positive b (List.mem_cons_self ..))
          rw [UInt32.toNat_zero] at pos
          rw [trials_cons]
          omega }

end Scheduler

/-- After any calls, those that are refused or fail included, a grant of any number of trials
succeeds and has its exact meaning, as long as the true numbers of trials that are out of each task
fit into a word. -/
theorem grant_hands_out (policy : ZeroQuotaPolicy) (calls : List SchedulerCall) (requested : UInt32)
    (within : (Scheduler.empty policy).WithinWord (fun _ => 0) (calls ++ [.grant requested])) :
    let s := calls.foldl Scheduler.call (Scheduler.empty policy)
    ∃ bs s', s.grant requested = .ok (bs, s') ∧ s.HandsOut s' requested bs := by
  intro s
  have orderly : s.Orderly := (Scheduler.Orderly.empty policy).calls calls
  have after := Scheduler.WithinWord.after Scheduler.Quota.empty within
  have measured : Scheduler.Measured s.tasks :=
    Scheduler.Measured.calls (s := Scheduler.empty policy) nofun calls
  obtain ⟨bs, s', done⟩ := Scheduler.grant_of_fits orderly.quota.distinct after.cons.1
  exact ⟨bs, s', done, orderly.quota.hands_out orderly.summed measured done⟩

/-- Of two files the one that came last is served first. A grant of five trials takes both trials of
it and three of the four of the other one. -/
theorem grant_hands_out_twoFiles :
    let calls := [.addFile ⟨4, 10, "a.cnf"⟩, .addFile ⟨2, 10, "b.cnf"⟩]
    let s := calls.foldl Scheduler.call (Scheduler.empty .tryOnce)
    ∃ s', s.grant 5 = .ok ([⟨⟨2, 10, "b.cnf"⟩, 2, 1⟩, ⟨⟨4, 10, "a.cnf"⟩, 3, 0⟩], s') ∧
      s.HandsOut s' 5 [⟨⟨2, 10, "b.cnf"⟩, 2, 1⟩, ⟨⟨4, 10, "a.cnf"⟩, 3, 0⟩] := by
  intro calls s
  obtain ⟨bs, s', done, handsOut⟩ := grant_hands_out .tryOnce
    [.addFile ⟨4, 10, "a.cnf"⟩, .addFile ⟨2, 10, "b.cnf"⟩] 5
    (Scheduler.withinWord_of_requested Scheduler.Quota.empty (by decide))
  have batches : (s.grant 5).toOption.map Prod.fst =
      some [⟨⟨2, 10, "b.cnf"⟩, 2, 1⟩, ⟨⟨4, 10, "a.cnf"⟩, 3, 0⟩] := by decide
  obtain rfl : bs = [⟨⟨2, 10, "b.cnf"⟩, 2, 1⟩, ⟨⟨4, 10, "a.cnf"⟩, 3, 0⟩] := by
    rw [done] at batches
    exact Option.some.inj batches
  exact ⟨s', done, handsOut⟩

end TrialFarm
