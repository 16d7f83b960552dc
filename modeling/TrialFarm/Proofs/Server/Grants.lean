import TrialFarm.Proofs.Server.Tasks

/-!
# Handing trials out

A grant walks along the queue. Each turn covers the quota of the first file, or hands out part of
it and ends, or drops a file without quota; what holds before the walk and is kept by every turn
holds after it. A turn that would run over the count of a task ends the whole grant.

## Main definitions

* `Scheduler.Dispatch.serve`: a turn that hands out trials.
* `Scheduler.handed`: what a grant hands out, if its counts stay within a word.
* `Scheduler.Granted`: the effect of a grant.

## Main statements

* `Scheduler.dispatch_turns`: induction over the turns of a walk.
* `Scheduler.dispatch_induction`: what every turn keeps, a walk that comes to its end keeps.
* `Scheduler.dispatch_overflow`: how a walk runs over.
* `Scheduler.grant_spec`: what a grant hands out, and how it changes the counts.
-/

namespace TrialFarm

namespace Task

@[simp] theorem minus_toNat (a b : UInt64) : (minus a b).toNat = a.toNat - b.toNat := by
  unfold minus
  split
  · next less =>
    rw [UInt64.lt_iff_toNat_lt] at less
    simp
    omega
  · next enough =>
    exact UInt64.toNat_sub_of_le _ _ (UInt64.not_lt.mp enough)

/-- The quota that is left is what the file asks for, less what is out and what was reported. -/
theorem quotaLeft_of_bounded {t : Task} (bounded : t.file.startConfigs ≠ 0) :
    ∃ left, t.quotaLeft = some left ∧
      left.toNat = t.file.startConfigs.toNat - t.inFlight.toNat -
        t.statistics.instancesStarted.toNat := by
  unfold quotaLeft
  rw [if_neg bounded]
  exact ⟨_, rfl, by simp⟩

/-- A file without a bound has no quota. -/
theorem quotaLeft_of_unbounded {t : Task} (unbounded : t.file.startConfigs = 0) :
    t.quotaLeft = none := by
  unfold quotaLeft
  rw [if_pos unbounded]

/-- All that is asked for is available of a file without a bound. -/
theorem available_of_unbounded {t : Task} (unbounded : t.file.startConfigs = 0)
    (remaining : UInt32) : t.available remaining = remaining := by
  unfold available
  rw [quotaLeft_of_unbounded unbounded]

/-- A quota fits in a word, so all of it is available. -/
theorem available_of_bounded {t : Task} (bounded : t.file.startConfigs ≠ 0)
    (remaining : UInt32) :
    (t.available remaining).toNat = t.file.startConfigs.toNat - t.inFlight.toNat -
      t.statistics.instancesStarted.toNat := by
  obtain ⟨left, quota, value⟩ := quotaLeft_of_bounded bounded
  have := t.file.startConfigs.toNat_lt
  unfold available
  rw [quota]
  dsimp only
  rw [UInt64.toNat_toUInt32, UInt64.toNat_min, value]
  have largest : (0xffffffff : UInt64).toNat = 2 ^ 32 - 1 := rfl
  omega

end Task

namespace Scheduler

namespace Dispatch

variable (d : Dispatch) (id : TaskId)

/-- The dispatch after a file without quota was dropped from the queue. -/
def skip (t : Task) : Dispatch :=
  { d with tasks := d.tasks.setIfInBounds id.toNat { t with scheduled := false } }

/-- The dispatch after `take` trials of a task were handed out. -/
def serve (t : Task) (take : UInt32) (covered : Bool) : Dispatch :=
  { tasks := d.tasks.setIfInBounds id.toNat
      { t with inFlight := t.inFlight + take, scheduled := t.scheduled && !covered }
    inFlight := d.inFlight + take.toUInt64
    batches := ⟨t.file, take, id⟩ :: d.batches
    replyLen := d.replyLen + (Batch.mk t.file take id).encodedLen
    remaining := d.remaining - take }

/-- A batch of a task still fits into the reply. -/
def Fits (t : Task) (take : UInt32) : Prop :=
  d.replyLen + (Batch.mk t.file take id).encodedLen ≤ Wire.maxPayload

variable {d id} {d' : Dispatch} {t : Task} {take : UInt32} {covered : Bool}

/-- Trials are handed out if the count of their task stays within a word. -/
theorem handOut_of_fits (fits : t.inFlight.toNat + take.toNat < 2 ^ 32) :
    d.handOut id t take covered = .ok (d.serve id t take covered) := by
  rw [handOut, addTrials_eq_ok_iff.mpr ⟨fits, rfl⟩]
  rfl

/-- No trials are handed out if the count of their task would leave its word. -/
theorem handOut_of_overflow (exceeds : 2 ^ 32 ≤ t.inFlight.toNat + take.toNat) :
    d.handOut id t take covered = .error ⟨id, t.inFlight, take⟩ := by
  rw [handOut, addTrials_eq_error_iff.mpr ⟨exceeds, rfl⟩]
  rfl

/-- A reason to end a walk: all is handed out, nothing is queued, or the reply has no room for a
batch of the first file. -/
inductive Ends (d : Dispatch) : List TaskId → Prop
  | spent {queue : List TaskId} (spent : d.remaining = 0) : d.Ends queue
  | idle : d.Ends []
  | full {id : TaskId} {queue : List TaskId} {t : Task} (found : d.tasks[id.toNat]? = some t)
      (full : ∀ take, ¬d.Fits id t take) : d.Ends (id :: queue)

end Dispatch

/-- Induction over the turns of a walk along the queue. -/
theorem dispatch_turns
    {motive : List TaskId → Dispatch → Except Overflow (Dispatch × List TaskId) → Prop}
    (stop : ∀ d queue, d.Ends queue → motive queue d (.ok (d, queue)))
    (unknown : ∀ d id queue, d.tasks[id.toNat]? = none →
      motive (id :: queue) d (.ok (d, id :: queue)))
    (skip : ∀ d id queue t r, d.remaining ≠ 0 → d.tasks[id.toNat]? = some t →
      t.available d.remaining = 0 → motive queue (d.skip id t) r → motive (id :: queue) d r)
    (cover : ∀ d id queue t r, d.remaining ≠ 0 → d.tasks[id.toNat]? = some t →
      t.available d.remaining ≠ 0 → t.available d.remaining ≤ d.remaining →
      d.Fits id t (t.available d.remaining) →
      t.inFlight.toNat + (t.available d.remaining).toNat < 2 ^ 32 →
      motive queue (d.serve id t (t.available d.remaining) true) r → motive (id :: queue) d r)
    (share : ∀ d id queue t, d.remaining ≠ 0 → d.tasks[id.toNat]? = some t →
      d.remaining < t.available d.remaining → d.Fits id t d.remaining →
      t.inFlight.toNat + d.remaining.toNat < 2 ^ 32 →
      motive (id :: queue) d (.ok (d.serve id t d.remaining false, id :: queue)))
    (overflow : ∀ d id queue t take, d.tasks[id.toNat]? = some t → take ≠ 0 →
      take ≤ d.remaining → take ≤ t.available d.remaining →
      2 ^ 32 ≤ t.inFlight.toNat + take.toNat →
      motive (id :: queue) d (.error ⟨id, t.inFlight, take⟩))
    (queue : List TaskId) (d : Dispatch) : motive queue d (dispatch queue d) := by
  induction queue generalizing d with
  | nil => exact stop d [] .idle
  | cons id queue ih =>
    -- The walk ends at once if nothing is asked for any more, at a number without a task, or when
    -- the reply would be too large. Otherwise it takes one of the other turns.
    unfold dispatch
    split
    · next spent => exact stop d _ (.spent spent)
    next asked =>
    split
    · next missing => exact unknown d id queue missing
    next t found =>
    dsimp only
    have least := UInt32.toNat_min d.remaining (t.available d.remaining)
    split
    · next nothing =>
      refine skip d id queue t _ asked found ?_ (ih _)
      rw [nothing] at least
      rw [← UInt32.toNat_inj] at asked ⊢
      simp only [UInt32.toNat_zero] at asked least ⊢
      omega
    next something =>
    split
    · next full =>
      -- The size of a batch does not depend on how many trials it is of.
      exact stop d _ (.full found fun _ room => Nat.not_le_of_lt full room)
    next room =>
    have room := Nat.le_of_not_lt room
    by_cases fits : t.inFlight.toNat + (min d.remaining (t.available d.remaining)).toNat < 2 ^ 32
    · rw [Dispatch.handOut_of_fits fits]
      dsimp only
      split
      · next covered =>
        have all : min d.remaining (t.available d.remaining) = t.available d.remaining := by
          rw [UInt32.le_iff_toNat_le] at covered
          rw [← UInt32.toNat_inj]
          omega
        rw [decide_eq_true covered]
        rw [all] at something room fits least ⊢
        refine cover d id queue t _ asked found something ?_ room fits (ih _)
        rw [UInt32.le_iff_toNat_le]
        omega
      · next short =>
        rw [decide_eq_false short]
        rw [UInt32.le_iff_toNat_le] at short
        have rest : min d.remaining (t.available d.remaining) = d.remaining := by
          rw [← UInt32.toNat_inj]
          omega
        rw [rest] at room fits ⊢
        refine share d id queue t asked found ?_ room fits
        rw [UInt32.lt_iff_toNat_lt]
        omega
    · rw [Dispatch.handOut_of_overflow (Nat.le_of_not_lt fits)]
      refine overflow d id queue t _ found something ?_ ?_ (Nat.le_of_not_lt fits)
      · rw [UInt32.le_iff_toNat_le]
        omega
      · rw [UInt32.le_iff_toNat_le]
        omega

/-- What holds before the walk along the queue and is kept by every turn holds after it, if it does
not run over. -/
theorem dispatch_induction {motive : Dispatch → List TaskId → Prop}
    (skip : ∀ d id queue t, motive d (id :: queue) → d.remaining ≠ 0 →
      d.tasks[id.toNat]? = some t → t.available d.remaining = 0 → motive (d.skip id t) queue)
    (cover : ∀ d id queue t, motive d (id :: queue) → d.remaining ≠ 0 →
      d.tasks[id.toNat]? = some t → t.available d.remaining ≠ 0 →
      t.available d.remaining ≤ d.remaining → d.Fits id t (t.available d.remaining) →
      t.inFlight.toNat + (t.available d.remaining).toNat < 2 ^ 32 →
      motive (d.serve id t (t.available d.remaining) true) queue)
    (share : ∀ d id queue t, motive d (id :: queue) → d.remaining ≠ 0 →
      d.tasks[id.toNat]? = some t → d.remaining < t.available d.remaining →
      d.Fits id t d.remaining → t.inFlight.toNat + d.remaining.toNat < 2 ^ 32 →
      motive (d.serve id t d.remaining false) (id :: queue))
    {queue queue' : List TaskId} {d d' : Dispatch} (walked : dispatch queue d = .ok (d', queue'))
    (start : motive d queue) : motive d' queue' := by
  refine dispatch_turns (motive := fun queue d r =>
    motive d queue → r = .ok (d', queue') → motive d' queue') ?_ ?_ ?_ ?_ ?_ ?_ queue d start walked
  · rintro d queue - start same
    obtain ⟨rfl, rfl⟩ := Prod.mk.inj (Except.ok.inj same)
    exact start
  · rintro d id queue - start same
    obtain ⟨rfl, rfl⟩ := Prod.mk.inj (Except.ok.inj same)
    exact start
  · exact fun d id queue t r asked found nothing ih start =>
      ih (skip d id queue t start asked found nothing)
  · exact fun d id queue t r asked found some enough room fits ih start =>
      ih (cover d id queue t start asked found some enough room fits)
  · intro d id queue t asked found short room fits start same
    obtain ⟨rfl, rfl⟩ := Prod.mk.inj (Except.ok.inj same)
    exact share d id queue t start asked found short room fits
  · exact fun _ _ _ _ _ _ _ _ _ _ _ => nofun

/-- A walk along distinct numbers runs over at a file without a bound, of which no more is to be
handed out than was asked for. -/
theorem dispatch_overflow {queue : List TaskId} {d : Dispatch} {overflow : Overflow}
    (distinct : queue.Nodup) (failed : dispatch queue d = .error overflow) :
    overflow.task ∈ queue ∧ overflow.more ≤ d.remaining ∧
      ∃ t, d.tasks[overflow.task.toNat]? = some t ∧ t.file.startConfigs = 0 ∧
        overflow.count = t.inFlight ∧ 2 ^ 32 ≤ t.inFlight.toNat + overflow.more.toNat := by
  refine dispatch_turns (motive := fun queue d r => queue.Nodup → r = .error overflow →
    overflow.task ∈ queue ∧ overflow.more ≤ d.remaining ∧
      ∃ t, d.tasks[overflow.task.toNat]? = some t ∧ t.file.startConfigs = 0 ∧
        overflow.count = t.inFlight ∧ 2 ^ 32 ≤ t.inFlight.toNat + overflow.more.toNat)
    ?_ ?_ ?_ ?_ ?_ ?_ queue d distinct failed
  · exact fun _ _ _ _ => nofun
  · exact fun _ _ _ _ _ => nofun
  · intro d id queue t r asked found nothing ih distinct failed
    obtain ⟨fresh, distinct⟩ := List.nodup_cons.mp distinct
    obtain ⟨queued, enough, u, there, exceeds⟩ := ih distinct failed
    refine ⟨List.mem_cons_of_mem _ queued, enough, u, ?_, exceeds⟩
    rwa [Dispatch.skip, getElem?_replace found, if_neg (ne_of_mem_of_not_mem queued fresh)] at there
  · intro d id queue t r asked found some enough room fits ih distinct failed
    obtain ⟨fresh, distinct⟩ := List.nodup_cons.mp distinct
    obtain ⟨queued, least, u, there, exceeds⟩ := ih distinct failed
    refine ⟨List.mem_cons_of_mem _ queued, ?_, u, ?_, exceeds⟩
    · have left : (d.remaining - t.available d.remaining).toNat = _ :=
        UInt32.toNat_sub_of_le _ _ enough
      have least := UInt32.le_iff_toNat_le.mp least
      rw [Dispatch.serve, left] at least
      rw [UInt32.le_iff_toNat_le]
      omega
    · rwa [Dispatch.serve, getElem?_replace found,
        if_neg (ne_of_mem_of_not_mem queued fresh)] at there
  · exact fun _ _ _ _ _ _ _ _ _ _ => nofun
  · intro d id queue t take found some asked enough exceeds distinct same
    obtain rfl := Except.error.inj same
    refine ⟨List.mem_cons_self .., asked, t, found, ?_, rfl, exceeds⟩
    -- Of a file with a bound no more is available than the bound leaves.
    by_contra bounded
    have left := Task.available_of_bounded bounded d.remaining
    have most := t.file.startConfigs.toNat_lt
    rw [UInt32.le_iff_toNat_le] at enough
    rw [ne_eq, ← UInt32.toNat_inj, UInt32.toNat_zero] at some
    omega

/-- A walk runs over only if the count of a task and all that is asked for are more than a word. -/
theorem outOf_of_dispatch_overflow {queue : List TaskId} {d : Dispatch} {overflow : Overflow}
    (failed : dispatch queue d = .error overflow) :
    2 ^ 32 ≤ outOf d.tasks overflow.task + d.remaining.toNat := by
  refine dispatch_turns (motive := fun _ d r => r = .error overflow →
    2 ^ 32 ≤ outOf d.tasks overflow.task + d.remaining.toNat) ?_ ?_ ?_ ?_ ?_ ?_ queue d failed
  · exact fun _ _ _ => nofun
  · exact fun _ _ _ _ => nofun
  · intro d id queue t r asked found nothing ih failed
    have exceeds := ih failed
    rw [Dispatch.skip, outOf_replace found] at exceeds
    split at exceeds
    · next same =>
      rw [same, outOf_of_some found]
      exact exceeds
    · exact exceeds
  · intro d id queue t r asked found some enough room fits ih failed
    -- What a turn moves from the trials asked for to the count leaves their sum as it is.
    have exceeds := ih failed
    have left : (d.remaining - t.available d.remaining).toNat = _ :=
      UInt32.toNat_sub_of_le _ _ enough
    rw [UInt32.le_iff_toNat_le] at enough
    simp only [Dispatch.serve, outOf_replace found, left] at exceeds
    split at exceeds
    · next same =>
      rw [UInt32.toNat_add] at exceeds
      rw [same, outOf_of_some found]
      omega
    · omega
  · exact fun _ _ _ _ _ _ _ _ _ => nofun
  · intro d id queue t take found some asked enough exceeds same
    obtain rfl := Except.error.inj same
    rw [UInt32.le_iff_toNat_le] at asked
    rw [outOf_of_some found]
    omega

/-- How a dispatch comes from an earlier one by handing out bs, the first one first. The counts have
room for all of them. -/
structure Dispatch.Extends (d₀ d : Dispatch) (bs : List Batch) : Prop where
  batches : d.batches = bs.reverse ++ d₀.batches
  positive : ∀ b ∈ bs, 0 < b.instances
  files : ∀ b ∈ bs, ∃ t, d₀.tasks[b.taskId.toNat]? = some t ∧ b.file = t.file
  size : d.tasks.size = d₀.tasks.size
  tasks : ∀ id : TaskId, ∀ t, d₀.tasks[id.toNat]? = some t → ∃ scheduled,
    d.tasks[id.toNat]? = some { t with
      inFlight := t.inFlight + UInt32.ofNat (trialsOf bs id), scheduled := scheduled }
  inFlight : d.inFlight = d₀.inFlight + UInt64.ofNat (trials bs)
  remaining : trials bs + d.remaining.toNat = d₀.remaining.toNat
  fits : ∀ id, outOf d₀.tasks id + trialsOf bs id < 2 ^ 32
  outAll_eq : outAll d.tasks = outAll d₀.tasks + trials bs

variable {d₀ d : Dispatch} {bs : List Batch} {id : TaskId} {t : Task}

/-- Without batches nothing has changed. -/
theorem Dispatch.Extends.refl (d : Dispatch) : d.Extends d [] where
  batches := rfl
  positive := by simp
  files := by simp
  size := rfl
  tasks _ t found := ⟨t.scheduled, by simpa using found⟩
  inFlight := by simp
  remaining := by simp
  fits := outOf_lt d.tasks
  outAll_eq := rfl

/-- A task of the earlier dispatch, as the later one has it. -/
theorem Dispatch.Extends.origin (e : d₀.Extends d bs) (found : d.tasks[id.toNat]? = some t) :
    ∃ t₀, d₀.tasks[id.toNat]? = some t₀ ∧ t.file = t₀.file ∧
      t.inFlight = t₀.inFlight + UInt32.ofNat (trialsOf bs id) ∧
      t.statistics = t₀.statistics ∧ t.shapeKnown = t₀.shapeKnown := by
  cases found₀ : d₀.tasks[id.toNat]? with
  | none =>
    have outside := Array.getElem?_eq_none_iff.mp found₀
    obtain ⟨inside, -⟩ := Array.getElem?_eq_some_iff.mp found
    rw [e.size] at inside
    omega
  | some t₀ =>
    obtain ⟨scheduled, later⟩ := e.tasks id t₀ found₀
    rw [found] at later
    obtain rfl := Option.some.inj later
    exact ⟨t₀, rfl, rfl, rfl, rfl, rfl⟩

/-- The count of a task has grown by what was handed out of it. -/
theorem Dispatch.Extends.count (e : d₀.Extends d bs) (found : d.tasks[id.toNat]? = some t) :
    t.inFlight.toNat = outOf d₀.tasks id + trialsOf bs id := by
  obtain ⟨t₀, found₀, -, counted, -⟩ := e.origin found
  have here := e.fits id
  rw [outOf_of_some found₀] at here ⊢
  rw [counted, UInt32.toNat_add, UInt32.toNat_ofNat']
  omega

/-- To drop a file from the queue hands out nothing. -/
theorem Dispatch.Extends.skip (e : d₀.Extends d bs) (found : d.tasks[id.toNat]? = some t) :
    d₀.Extends (d.skip id t) bs where
  batches := e.batches
  positive := e.positive
  files := e.files
  size := by simpa [Dispatch.skip] using e.size
  tasks other u found₀ := by
    obtain ⟨scheduled, later⟩ := e.tasks other u found₀
    unfold Dispatch.skip
    dsimp only
    rw [getElem?_replace found]
    split
    · next same =>
      rw [same, found] at later
      rw [Option.some.inj later, same]
      exact ⟨false, rfl⟩
    · exact ⟨scheduled, later⟩
  inFlight := e.inFlight
  remaining := e.remaining
  fits := e.fits
  outAll_eq := by
    have := outAll_replace (u := { t with scheduled := false }) found
    have := e.outAll_eq
    dsimp only [Dispatch.skip] at *
    omega

/-- One batch more is handed out. -/
theorem Dispatch.Extends.serve (e : d₀.Extends d bs)
    (found : d.tasks[id.toNat]? = some t) {take : UInt32} (pos : take ≠ 0)
    (enough : take ≤ d.remaining) (fits : t.inFlight.toNat + take.toNat < 2 ^ 32)
    (covered : Bool) :
    d₀.Extends (d.serve id t take covered) (bs ++ [⟨t.file, take, id⟩]) where
  batches := by
    simp [Dispatch.serve, e.batches]
  positive b member := by
    rcases List.mem_append.mp member with member | member
    · exact e.positive b member
    · rw [List.mem_singleton.mp member]
      exact UInt32.pos_iff_ne_zero.mpr pos
  files b member := by
    rcases List.mem_append.mp member with member | member
    · exact e.files b member
    · rw [List.mem_singleton.mp member]
      obtain ⟨t₀, found₀, file, -⟩ := e.origin found
      exact ⟨t₀, found₀, file⟩
  size := by simpa [Dispatch.serve] using e.size
  tasks other u found₀ := by
    obtain ⟨scheduled, later⟩ := e.tasks other u found₀
    unfold Dispatch.serve
    dsimp only
    rw [getElem?_replace found, trialsOf_append, trialsOf_cons, trialsOf_nil]
    split
    · next same =>
      subst same
      rw [found] at later
      rw [Option.some.inj later]
      refine ⟨_, congrArg some (Task.mk.injEq .. |>.mpr ⟨rfl, rfl, ?_, rfl, rfl⟩)⟩
      simp [UInt32.add_assoc]
    · exact ⟨scheduled, by simpa using later⟩
  inFlight := by
    have : (UInt64.ofNat take.toNat) = take.toUInt64 := UInt64.toNat_inj.mp (by
      have := take.toNat_lt
      rw [UInt64.toNat_ofNat_of_lt' (by simp [UInt64.size]; omega), UInt32.toNat_toUInt64])
    simp [Dispatch.serve, e.inFlight, UInt64.add_assoc, this]
  remaining := by
    have := e.remaining
    have left : (d.remaining - take).toNat = d.remaining.toNat - take.toNat :=
      UInt32.toNat_sub_of_le _ _ enough
    rw [UInt32.le_iff_toNat_le] at enough
    simp only [Dispatch.serve, trials_append, trials_cons, trials_nil, left]
    omega
  fits other := by
    have before := e.fits other
    rw [trialsOf_append, trialsOf_cons, trialsOf_nil]
    split
    · next same =>
      subst same
      have counted := e.count found
      dsimp only
      omega
    · exact before
  outAll_eq := by
    have after : (t.inFlight + take).toNat = t.inFlight.toNat + take.toNat :=
      UInt32.toNat_add .. ▸ Nat.mod_eq_of_lt fits
    have replaced := outAll_replace (u := { t with
      inFlight := t.inFlight + take, scheduled := t.scheduled && !covered }) found
    have := e.outAll_eq
    simp only [Dispatch.serve, trials_append, trials_cons, trials_nil]
    dsimp only at replaced
    omega

/-- A walk that comes to its end has handed out batches. -/
theorem dispatch_extends {queue queue' : List TaskId}
    (walked : dispatch queue d₀ = .ok (d, queue')) : ∃ bs, d₀.Extends d bs := by
  refine dispatch_induction (motive := fun d _ => ∃ bs, d₀.Extends d bs)
    ?_ ?_ ?_ walked ⟨[], Dispatch.Extends.refl d₀⟩
  · rintro d id queue t ⟨bs, e⟩ - found -
    exact ⟨bs, e.skip found⟩
  · rintro d id queue t ⟨bs, e⟩ - found some enough - fits
    exact ⟨_, e.serve found some enough fits true⟩
  · rintro d id queue t ⟨bs, e⟩ asked found - - fits
    exact ⟨_, e.serve found asked UInt32.le_rfl fits false⟩

/-! ### Whole grants -/

variable {s : Scheduler} {requested : UInt32}

/-- The dispatch that a grant begins with. -/
def dispatchOf (s : Scheduler) (requested : UInt32) : Dispatch :=
  ⟨s.tasks, s.inFlight, [], Wire.emptyGrantLen, requested⟩

/-- What a grant hands out, and how it changes tasks and counts. The counts have room for it. -/
structure Granted (s s' : Scheduler) (requested : UInt32) (bs : List Batch) : Prop where
  policy : s'.policy = s.policy
  positive : ∀ b ∈ bs, 0 < b.instances
  files : ∀ b ∈ bs, ∃ t, s.task? b.taskId = some t ∧ b.file = t.file
  size : s'.tasks.size = s.tasks.size
  tasks : ∀ id t, s.task? id = some t → ∃ scheduled, s'.task? id = some { t with
    inFlight := t.inFlight + UInt32.ofNat (trialsOf bs id), scheduled := scheduled }
  inFlight : s'.inFlight = s.inFlight + UInt64.ofNat (trials bs)
  trials_le : trials bs ≤ requested.toNat
  fits : ∀ id, outOf s.tasks id + trialsOf bs id < 2 ^ 32
  outAll_eq : outAll s'.tasks = outAll s.tasks + trials bs

variable {s' : Scheduler} {bs : List Batch}

/-- A grant that succeeds is a walk that comes to its end. -/
theorem grant_eq_ok (done : s.grant requested = .ok (bs, s')) :
    ∃ d queue, dispatch s.queue (s.dispatchOf requested) = .ok (d, queue) ∧
      bs = d.batches.reverse ∧
      s' = { s with tasks := d.tasks, inFlight := d.inFlight, queue := queue } := by
  unfold grant at done
  change Except.map _ (dispatch s.queue (s.dispatchOf requested)) = _ at done
  cases walked : dispatch s.queue (s.dispatchOf requested) with
  | error overflow =>
    rw [walked] at done
    cases done
  | ok r =>
    obtain ⟨d, queue⟩ := r
    rw [walked] at done
    obtain ⟨rfl, rfl⟩ := Prod.mk.inj (Except.ok.inj done)
    exact ⟨d, queue, rfl, rfl, rfl⟩

/-- What a grant that succeeds hands out, and how it changes tasks and counts. -/
theorem grant_spec (done : s.grant requested = .ok (bs, s')) : s.Granted s' requested bs := by
  obtain ⟨d, queue, walked, rfl, rfl⟩ := grant_eq_ok done
  obtain ⟨bs, e⟩ := dispatch_extends walked
  have handed : d.batches.reverse = bs := by
    rw [e.batches]
    simp [dispatchOf]
  rw [handed]
  exact
    { policy := rfl
      positive := e.positive
      files := e.files
      size := e.size
      tasks := e.tasks
      inFlight := e.inFlight
      trials_le := by
        have : _ = requested.toNat := e.remaining
        omega
      fits := e.fits
      outAll_eq := e.outAll_eq }

/-- Of a queue without repetitions, a grant runs over only at a file without a bound, of which the
count and what is to be handed out are more than a word. -/
theorem grant_overflow {overflow : Overflow} (distinct : s.queue.Nodup)
    (failed : s.grant requested = .error overflow) :
    overflow.task ∈ s.queue ∧ overflow.more ≤ requested ∧
      ∃ t, s.task? overflow.task = some t ∧ t.file.startConfigs = 0 ∧
        overflow.count = t.inFlight ∧ 2 ^ 32 ≤ t.inFlight.toNat + overflow.more.toNat := by
  unfold grant at failed
  change Except.map _ (dispatch s.queue (s.dispatchOf requested)) = _ at failed
  cases walked : dispatch s.queue (s.dispatchOf requested) with
  | error other =>
    rw [walked] at failed
    obtain rfl := Except.error.inj failed
    exact dispatch_overflow distinct walked
  | ok r =>
    rw [walked] at failed
    cases failed

/-- A grant succeeds if the count of no task and all that is asked for are more than a word. -/
theorem grant_of_room (room : ∀ id, outOf s.tasks id + requested.toNat < 2 ^ 32) :
    ∃ r, s.grant requested = .ok r := by
  unfold grant
  change ∃ r, Except.map _ (dispatch s.queue (s.dispatchOf requested)) = _
  cases walked : dispatch s.queue (s.dispatchOf requested) with
  | error overflow =>
    exact absurd (room overflow.task) (Nat.not_lt_of_le (outOf_of_dispatch_overflow walked))
  | ok r => exact ⟨_, rfl⟩

namespace Granted

/-- To hand out nothing is a grant. -/
theorem nothing (s : Scheduler) (requested : UInt32) : s.Granted s requested [] where
  policy := rfl
  positive := by simp
  files := by simp
  size := rfl
  tasks _ t found := ⟨t.scheduled, by simpa using found⟩
  inFlight := by simp
  trials_le := Nat.zero_le _
  fits := outOf_lt s.tasks
  outAll_eq := rfl

/-- Nothing is handed out of a task that does not exist. -/
theorem trialsOf_of_none (g : s.Granted s' requested bs) {id : TaskId}
    (missing : s.task? id = none) : trialsOf bs id = 0 := by
  unfold trialsOf
  rw [List.sum_eq_zero_iff]
  intro n member
  obtain ⟨b, inside, rfl⟩ := List.mem_map.mp member
  split
  · next same =>
    obtain ⟨t, found, -⟩ := g.files b inside
    rw [← same, missing] at found
    simp at found
  · rfl

/-- A task after the grant, as it was before. -/
theorem origin (g : s.Granted s' requested bs) {id : TaskId} {t : Task}
    (found : s'.task? id = some t) :
    ∃ t₀, s.task? id = some t₀ ∧ t.file = t₀.file ∧
      t.inFlight = t₀.inFlight + UInt32.ofNat (trialsOf bs id) ∧
      t.statistics = t₀.statistics ∧ t.shapeKnown = t₀.shapeKnown := by
  cases found₀ : s.task? id with
  | none =>
    have outside := Array.getElem?_eq_none_iff.mp found₀
    obtain ⟨inside, -⟩ := Array.getElem?_eq_some_iff.mp found
    rw [g.size] at inside
    omega
  | some t₀ =>
    obtain ⟨scheduled, later⟩ := g.tasks id t₀ found₀
    rw [found] at later
    obtain rfl := Option.some.inj later
    exact ⟨t₀, rfl, rfl, rfl, rfl, rfl⟩

/-- A grant adds its batches to what is out. -/
theorem outOf_eq (g : s.Granted s' requested bs) (id : TaskId) :
    outOf s'.tasks id = outOf s.tasks id + trialsOf bs id := by
  cases found : s.task? id with
  | none =>
    have missing : s'.task? id = none := by
      rw [task?, Array.getElem?_eq_none_iff, g.size]
      exact Array.getElem?_eq_none_iff.mp found
    rw [outOf_of_none found, outOf_of_none missing, g.trialsOf_of_none found]
  | some t =>
    obtain ⟨scheduled, later⟩ := g.tasks id t found
    have here := g.fits id
    rw [outOf_of_some found] at here ⊢
    rw [outOf_of_some later, UInt32.toNat_add, UInt32.toNat_ofNat']
    omega

/-- A grant keeps the count over all tasks right. -/
theorem summed (g : s.Granted s' requested bs) (summed : s.Summed) : s'.Summed := by
  have few : s'.tasks.size ≤ 2 ^ 32 := g.size ▸ summed.few
  refine ⟨few, ?_⟩
  have all := g.outAll_eq
  have := outAll_lt few
  have := summed.sum
  rw [g.inFlight, UInt64.toNat_add, UInt64.toNat_ofNat']
  omega

end Granted

/-- What a grant hands out, and the scheduler after it. One that would run over a count hands out
nothing and changes nothing. -/
def handed (s : Scheduler) (requested : UInt32) : List Batch × Scheduler :=
  match s.grant requested with
  | .ok r => r
  | .error _ => ([], s)

/-- What a grant that succeeds hands out is handed out. -/
theorem handed_of_ok (done : s.grant requested = .ok (bs, s')) :
    s.handed requested = (bs, s') := by
  rw [handed, done]

/-- A grant that runs over hands out nothing. -/
theorem handed_of_error {overflow : Overflow} (failed : s.grant requested = .error overflow) :
    s.handed requested = ([], s) := by
  rw [handed, failed]

/-- What holds of nothing, and of what every grant that succeeds hands out, holds of what any grant
hands out. -/
theorem handed_cases {motive : List Batch × Scheduler → Prop} (s : Scheduler) (requested : UInt32)
    (nothing : motive ([], s))
    (granted : ∀ bs s', s.grant requested = .ok (bs, s') → motive (bs, s')) :
    motive (s.handed requested) := by
  cases done : s.grant requested with
  | error overflow =>
    rw [handed_of_error done]
    exact nothing
  | ok r =>
    rw [handed_of_ok done]
    exact granted r.1 r.2 done

/-- Whatever is handed out is a grant. -/
theorem handed_spec (s : Scheduler) (requested : UInt32) :
    s.Granted (s.handed requested).2 requested (s.handed requested).1 :=
  handed_cases (motive := fun r => s.Granted r.2 requested r.1) s requested
    (Granted.nothing s requested) fun _ _ => grant_spec

end Scheduler

end TrialFarm
