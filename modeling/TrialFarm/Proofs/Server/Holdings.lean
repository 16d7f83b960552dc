import Mathlib.Algebra.GroupWithZero.Nat
import TrialFarm.Proofs.Entries
import TrialFarm.Server.Roster

/-!
# Counting what workers hold

Holdings are kept in the order of the tasks and without empty entries. Read as natural numbers,
adding and striking out trials then adds to one task and takes from it, and leaves every other task
alone. An addition fails exactly if the count of a task would leave its word.

## Main definitions

* `Holdings.held`, `Holdings.load`: the trials of one task, and of all.
* `Holdings.Sorted`: in the order of the tasks.
* `Holdings.Kept`: in the order of the tasks, without empty entries.

## Main statements

* `Worker.grantAll_spec`: what a worker holds after a grant was entered.
* `Worker.grantAll_of_fits`: a grant can be entered if the counts stay within a word.
* `Worker.settle_spec`: what a worker holds after trials were struck out.
-/

namespace TrialFarm

/-! ### Counts -/

/-- An addition goes through if the sum stays within a word. -/
theorem addTrials_eq_ok_iff {task : TaskId} {count more sum : UInt32} :
    addTrials task count more = .ok sum ↔
      count.toNat + more.toNat < 2 ^ 32 ∧ sum = count + more := by
  unfold addTrials
  split
  · next fits =>
    exact ⟨fun done => ⟨fits, (Except.ok.inj done).symm⟩, fun ⟨_, same⟩ => same ▸ rfl⟩
  · next exceeds => exact iff_of_false nofun fun done => exceeds done.1

/-- An addition that fails tells what was to be added to what. -/
theorem addTrials_eq_error_iff {task : TaskId} {count more : UInt32} {overflow : Overflow} :
    addTrials task count more = .error overflow ↔
      2 ^ 32 ≤ count.toNat + more.toNat ∧ overflow = ⟨task, count, more⟩ := by
  unfold addTrials
  split
  · next fits => exact iff_of_false nofun fun exceeds => Nat.not_le_of_lt fits exceeds.1
  · next exceeds =>
    exact ⟨fun failed => ⟨Nat.le_of_not_lt exceeds, (Except.error.inj failed).symm⟩,
      fun ⟨_, same⟩ => same ▸ rfl⟩

namespace Holdings

/-- The trials of one task, as a natural number. -/
def held (h : Holdings) (task : TaskId) : Nat := (h.count task).toNat

/-- The trials of all tasks, as a natural number. -/
def load (h : Holdings) : Nat := (h.map fun entry => entry.2.toNat).sum

/-- In the order of the tasks. -/
def Sorted (h : Holdings) : Prop := h.Pairwise fun a b => a.1 < b.1

/-- In the order of the tasks, and without tasks of which nothing is held. -/
structure Kept (h : Holdings) : Prop where
  sorted : h.Sorted
  positive : ∀ entry ∈ h, 0 < entry.2

variable {h rest : Holdings} {task other : TaskId} {n : UInt32}

@[simp] theorem held_nil (task : TaskId) : held [] task = 0 := rfl

@[simp] theorem load_nil : load [] = 0 := rfl

/-- The trials of a task, behind one more entry. -/
theorem held_cons (other : TaskId) (n : UInt32) (rest : Holdings) (task : TaskId) :
    held ((other, n) :: rest) task = if task = other then n.toNat else held rest task := by
  unfold held count
  rw [lookup_cons_ite]
  split <;> rfl

@[simp] theorem load_cons (other : TaskId) (n : UInt32) (rest : Holdings) :
    load ((other, n) :: rest) = n.toNat + load rest := by
  simp [load]

theorem Sorted.nil : Sorted [] := List.Pairwise.nil

/-- Behind the first entry the order is the same. -/
theorem Sorted.tail (sorted : Sorted ((other, n) :: rest)) : Sorted rest :=
  (List.pairwise_cons.mp sorted).2

/-- The first entry has the least task. -/
theorem Sorted.head_lt (sorted : Sorted ((other, n) :: rest)) : ∀ entry ∈ rest, other < entry.1 :=
  (List.pairwise_cons.mp sorted).1

/-- A task before all others may be put in front. -/
theorem Sorted.cons (sorted : Sorted rest) (before : ∀ entry ∈ rest, task < entry.1) :
    Sorted ((task, n) :: rest) :=
  List.pairwise_cons.mpr ⟨before, sorted⟩

theorem Kept.nil : Kept [] := ⟨Sorted.nil, by simp⟩

theorem Kept.tail (kept : Kept ((other, n) :: rest)) : Kept rest :=
  ⟨kept.sorted.tail, fun entry member => kept.positive entry (List.mem_cons_of_mem _ member)⟩

theorem Kept.head_lt (kept : Kept ((other, n) :: rest)) : ∀ entry ∈ rest, other < entry.1 :=
  kept.sorted.head_lt

/-- No entry is of nothing. -/
theorem Kept.head_pos (kept : Kept ((other, n) :: rest)) : 0 < n :=
  kept.positive (other, n) List.mem_cons_self

/-- A task before all entries is not held. -/
theorem held_eq_zero_of_before (before : ∀ entry ∈ h, task < entry.1) : held h task = 0 := by
  induction h with
  | nil => rfl
  | cons entry rest ih =>
    obtain ⟨other, n⟩ := entry
    have apart : task ≠ other := UInt32.ne_of_lt (before (other, n) List.mem_cons_self)
    rw [held_cons, if_neg apart]
    exact ih fun entry member => before entry (List.mem_cons_of_mem _ member)

/-- What an entry says is what is held of its task. -/
theorem Kept.held_of_mem (kept : Kept h) (member : (task, n) ∈ h) : held h task = n.toNat := by
  induction h with
  | nil => simp at member
  | cons entry rest ih =>
    obtain ⟨other, m⟩ := entry
    rw [held_cons]
    rcases List.mem_cons.mp member with same | member
    · obtain ⟨rfl, rfl⟩ := Prod.mk.inj same
      simp
    · have before := kept.head_lt _ member
      rw [if_neg (UInt32.ne_of_lt before).symm]
      exact ih kept.tail member

/-- What is held of one task is part of all. -/
theorem held_le_load (h : Holdings) (task : TaskId) : held h task ≤ load h := by
  induction h with
  | nil => simp
  | cons entry rest ih =>
    obtain ⟨other, n⟩ := entry
    rw [held_cons, load_cons]
    split <;> omega

/-! ### Entering trials -/

/-- An entry is of the task that was entered, or was there before. -/
theorem mem_enter {entry : TaskId × UInt32} (member : entry ∈ enter task n h) :
    entry = (task, n) ∨ entry ∈ h := by
  induction h with
  | nil => exact Or.inl (List.mem_singleton.mp member)
  | cons first rest ih =>
    obtain ⟨other, m⟩ := first
    unfold enter at member
    split at member
    · exact List.mem_cons.mp member
    · split at member
      · next same =>
        subst same
        exact (List.mem_cons.mp member).imp_right (List.mem_cons_of_mem _)
      · rcases List.mem_cons.mp member with rfl | member
        · exact Or.inr (List.mem_cons_self ..)
        · exact (ih member).imp_right (List.mem_cons_of_mem _)

/-- A task before the first entry is before all of them. -/
theorem Sorted.before (sorted : Sorted ((other, n) :: rest)) (before : task < other) :
    ∀ entry ∈ (other, n) :: rest, task < entry.1 := by
  intro entry member
  rcases List.mem_cons.mp member with rfl | member
  · exact before
  · exact UInt32.lt_trans before (sorted.head_lt entry member)

/-- Entering trials replaces those of one task. -/
theorem held_enter (task : TaskId) (n : UInt32) (h : Holdings) (t : TaskId) :
    held (enter task n h) t = if t = task then n.toNat else held h t := by
  induction h with
  | nil => exact held_cons ..
  | cons entry rest ih =>
    obtain ⟨other, m⟩ := entry
    unfold enter
    split
    · exact held_cons ..
    · split
      · next same =>
        subst same
        rw [held_cons, held_cons]
        split
        · rfl
        · rfl
      · next apart =>
        rw [held_cons, held_cons, ih]
        by_cases same : t = other
        · rw [if_pos same, if_pos same, if_neg fun h => apart (h.symm.trans same)]
        · rw [if_neg same, if_neg same]

/-- Entering trials changes the number of all by what it changes that of the task. -/
theorem load_enter (sorted : h.Sorted) :
    load (enter task n h) + held h task = load h + n.toNat := by
  induction h with
  | nil => simp [enter]
  | cons entry rest ih =>
    obtain ⟨other, m⟩ := entry
    unfold enter
    split
    · next before =>
      -- The new entry goes in front of all others, so none of them is of the task.
      rw [held_eq_zero_of_before (sorted.before before), load_cons]
      omega
    · split
      · next same =>
        rw [held_cons, if_pos same, load_cons, load_cons]
        omega
      · next apart =>
        have later := ih sorted.tail
        rw [held_cons, if_neg apart, load_cons, load_cons]
        omega

/-- Entering a task keeps the order. -/
theorem Sorted.enter (sorted : h.Sorted) : Sorted (enter task n h) := by
  induction h with
  | nil => exact Sorted.nil.cons (by simp)
  | cons entry rest ih =>
    obtain ⟨other, m⟩ := entry
    unfold Holdings.enter
    split
    · next before => exact sorted.cons (sorted.before before)
    · next notBefore =>
      split
      · exact sorted.tail.cons sorted.head_lt
      · next apart =>
        refine (ih sorted.tail).cons fun entry member => ?_
        rcases mem_enter member with rfl | member
        · exact UInt32.lt_of_le_of_ne (UInt32.not_lt.mp notBefore) (Ne.symm apart)
        · exact sorted.head_lt entry member

/-- Entering some trials keeps holdings well. -/
theorem Kept.enter (kept : Kept h) (pos : 0 < n) : Kept (enter task n h) := by
  refine ⟨kept.sorted.enter, fun entry member => ?_⟩
  rcases mem_enter member with rfl | member
  · exact pos
  · exact kept.positive entry member

/-! ### Adding trials -/

/-- Trials are added if the count of their task stays within a word, and the sum is entered. -/
theorem add_eq_ok_iff {h' : Holdings} :
    add task n h = .ok h' ↔
      held h task + n.toNat < 2 ^ 32 ∧ h' = enter task (h.count task + n) h := by
  unfold add
  cases added : addTrials task (h.count task) n with
  | error overflow =>
    refine iff_of_false nofun fun fits => ?_
    exact Nat.not_lt_of_le (addTrials_eq_error_iff.mp added).1 fits.1
  | ok sum =>
    obtain ⟨fits, rfl⟩ := addTrials_eq_ok_iff.mp added
    exact ⟨fun done => ⟨fits, (Except.ok.inj done).symm⟩, fun ⟨_, same⟩ => same ▸ rfl⟩

variable {h' : Holdings}

/-- Adding trials adds to one task. -/
theorem held_add (done : add task n h = .ok h') (t : TaskId) :
    held h' t = held h t + if t = task then n.toNat else 0 := by
  obtain ⟨fits, rfl⟩ := add_eq_ok_iff.mp done
  rw [held_enter]
  split
  · next same =>
    rw [UInt32.toNat_add, same]
    exact Nat.mod_eq_of_lt fits
  · rfl

/-- Adding trials adds to all that is held. -/
theorem load_add (sorted : h.Sorted) (done : add task n h = .ok h') :
    load h' = load h + n.toNat := by
  obtain ⟨fits, rfl⟩ := add_eq_ok_iff.mp done
  have entered : load (h.enter task (h.count task + n)) + held h task = _ := load_enter sorted
  have sum : (h.count task + n).toNat = held h task + n.toNat :=
    UInt32.toNat_add .. ▸ Nat.mod_eq_of_lt fits
  omega

/-- Adding some trials keeps holdings well. -/
theorem Kept.add (kept : Kept h) (done : add task n h = .ok h') (pos : 0 < n) : Kept h' := by
  obtain ⟨fits, rfl⟩ := add_eq_ok_iff.mp done
  refine kept.enter ?_
  rw [UInt32.lt_iff_toNat_lt] at pos ⊢
  have sum : (h.count task + n).toNat = held h task + n.toNat :=
    UInt32.toNat_add .. ▸ Nat.mod_eq_of_lt fits
  omega

/-! ### Striking out trials -/

/-- Striking out enters no new task. -/
theorem mem_set {left : UInt32} {entry : TaskId × UInt32} (member : entry ∈ set task left h) :
    ∃ m, (entry.1, m) ∈ h := by
  induction h with
  | nil => simp [set] at member
  | cons first rest ih =>
    obtain ⟨other, m⟩ := first
    unfold set at member
    split at member
    · split at member
      · exact ⟨entry.2, List.mem_cons_of_mem _ member⟩
      · rcases List.mem_cons.mp member with rfl | member
        · exact ⟨m, List.mem_cons_self⟩
        · exact ⟨entry.2, List.mem_cons_of_mem _ member⟩
    · rcases List.mem_cons.mp member with rfl | member
      · exact ⟨m, List.mem_cons_self⟩
      · obtain ⟨k, found⟩ := ih member
        exact ⟨k, List.mem_cons_of_mem _ found⟩

/-- Setting the number of a task changes no other. -/
theorem held_set {left m : UInt32} (sorted : h.Sorted) (entered : h.lookup task = some m)
    (t : TaskId) : held (set task left h) t = if t = task then left.toNat else held h t := by
  induction h with
  | nil => simp at entered
  | cons entry rest ih =>
    obtain ⟨other, k⟩ := entry
    rw [lookup_cons_ite] at entered
    unfold set
    split
    · next same =>
      subst same
      split
      · next none =>
        -- An entry that is used up goes away; the later ones are of other tasks.
        rw [held_cons]
        by_cases same : t = task
        · subst same
          rw [held_eq_zero_of_before sorted.head_lt, if_pos rfl, none]
          rfl
        · rw [if_neg same, if_neg same]
      · rw [held_cons, held_cons]
        split <;> rfl
    · next apart =>
      rw [if_neg apart] at entered
      rw [held_cons, held_cons, ih sorted.tail entered]
      by_cases same : t = other
      · rw [if_pos same, if_neg (fun h => apart (h.symm.trans same)), if_pos same]
      · rw [if_neg same, if_neg same]

/-- Setting the number of a task, seen from all that is held. -/
theorem load_set (left : UInt32) {m : UInt32} (entered : h.lookup task = some m) :
    load (set task left h) + m.toNat = load h + left.toNat := by
  induction h with
  | nil => simp at entered
  | cons entry rest ih =>
    obtain ⟨other, k⟩ := entry
    rw [lookup_cons_ite] at entered
    unfold set
    split
    · next same =>
      rw [if_pos same] at entered
      obtain rfl := Option.some.inj entered
      split
      · next none =>
        rw [load_cons, none]
        exact Nat.add_comm _ _
      · simp only [load_cons]
        omega
    · next apart =>
      rw [if_neg apart] at entered
      have := ih entered
      simp only [load_cons]
      omega

/-- Setting a number keeps the order. -/
theorem Sorted.set {left : UInt32} (sorted : h.Sorted) : Sorted (set task left h) := by
  induction h with
  | nil => exact Sorted.nil
  | cons entry rest ih =>
    obtain ⟨other, k⟩ := entry
    unfold Holdings.set
    split
    · split
      · exact sorted.tail
      · exact sorted.tail.cons sorted.head_lt
    · refine (ih sorted.tail).cons fun entry member => ?_
      obtain ⟨m, member⟩ := mem_set member
      exact sorted.head_lt (entry.1, m) member

/-- Setting a number keeps holdings well, as a task that has none left is struck out. -/
theorem Kept.set {left : UInt32} (kept : Kept h) : Kept (set task left h) := by
  refine ⟨kept.sorted.set, fun entry member => ?_⟩
  induction h with
  | nil => cases member
  | cons first rest ih =>
    obtain ⟨other, k⟩ := first
    unfold Holdings.set at member
    split at member
    · split at member
      · exact kept.tail.positive entry member
      · next some =>
        rcases List.mem_cons.mp member with rfl | member
        · exact UInt32.pos_iff_ne_zero.mpr some
        · exact kept.tail.positive entry member
    · rcases List.mem_cons.mp member with rfl | member
      · exact kept.head_pos
      · exact ih kept.tail member

end Holdings

/-! ### Trials in grants -/

/-- The trials of all batches. -/
def trials (batches : List Batch) : Nat := (batches.map fun b => b.instances.toNat).sum

/-- The trials of one task in batches. -/
def trialsOf (batches : List Batch) (task : TaskId) : Nat :=
  (batches.map fun b => if task = b.taskId then b.instances.toNat else 0).sum

@[simp] theorem trials_nil : trials [] = 0 := rfl

@[simp] theorem trialsOf_nil (task : TaskId) : trialsOf [] task = 0 := rfl

@[simp] theorem trials_cons (b : Batch) (batches : List Batch) :
    trials (b :: batches) = b.instances.toNat + trials batches := by
  simp [trials]

@[simp] theorem trialsOf_cons (b : Batch) (batches : List Batch) (task : TaskId) :
    trialsOf (b :: batches) task =
      (if task = b.taskId then b.instances.toNat else 0) + trialsOf batches task := by
  simp [trialsOf]

@[simp] theorem trials_append (bs cs : List Batch) :
    trials (bs ++ cs) = trials bs + trials cs := by
  simp [trials]

@[simp] theorem trialsOf_append (bs cs : List Batch) (task : TaskId) :
    trialsOf (bs ++ cs) task = trialsOf bs task + trialsOf cs task := by
  simp [trialsOf]

/-- The trials of one task are part of all. -/
theorem trialsOf_le_trials (batches : List Batch) (task : TaskId) :
    trialsOf batches task ≤ trials batches := by
  induction batches with
  | nil => simp
  | cons b batches ih =>
    rw [trialsOf_cons, trials_cons]
    split <;> omega

namespace Worker

variable {w w' : Worker} {task : TaskId} {n : UInt32} {batches : List Batch}

/-- Trials are entered if those of their task can be added to what is held. -/
theorem grant_eq_ok_iff :
    w.grant task n = .ok w' ↔
      ∃ h, Holdings.add task n w.outstanding = .ok h ∧ w' = { w with outstanding := h } := by
  unfold grant
  cases Holdings.add task n w.outstanding with
  | error overflow => exact iff_of_false nofun nofun
  | ok h =>
    exact ⟨fun done => ⟨h, rfl, (Except.ok.inj done).symm⟩,
      fun ⟨_, same, entered⟩ => by rw [entered, ← Except.ok.inj same]; rfl⟩

/-- Batches are entered one by one. -/
theorem grantAll_cons_eq_ok {b : Batch} (done : w.grantAll (b :: batches) = .ok w') :
    ∃ w₁, w.grant b.taskId b.instances = .ok w₁ ∧ w₁.grantAll batches = .ok w' := by
  unfold grantAll at done
  split at done
  · cases done
  · next w₁ first => exact ⟨w₁, first, done⟩

/-- Entering batches wakes nobody. -/
theorem grantAll_activated (done : w.grantAll batches = .ok w') : w'.activated = w.activated := by
  induction batches generalizing w with
  | nil => exact congrArg activated (Except.ok.inj done).symm
  | cons b batches ih =>
    obtain ⟨w₁, first, rest⟩ := grantAll_cons_eq_ok done
    obtain ⟨h, -, rfl⟩ := grant_eq_ok_iff.mp first
    have later := ih rest
    exact later

/-- A grant that is entered adds its batches to what is held. -/
theorem grantAll_spec (kept : w.outstanding.Kept) (pos : ∀ b ∈ batches, 0 < b.instances)
    (done : w.grantAll batches = .ok w') :
    w'.outstanding.Kept ∧
      (∀ t, w'.outstanding.held t = w.outstanding.held t + trialsOf batches t) ∧
      w'.outstanding.load = w.outstanding.load + trials batches := by
  induction batches generalizing w with
  | nil =>
    obtain rfl := Except.ok.inj done
    exact ⟨kept, fun _ => rfl, rfl⟩
  | cons b batches ih =>
    obtain ⟨w₁, first, rest⟩ := grantAll_cons_eq_ok done
    obtain ⟨h, added, rfl⟩ := grant_eq_ok_iff.mp first
    obtain ⟨kept', held', load'⟩ := ih (kept.add added (pos b List.mem_cons_self))
      (fun c member => pos c (List.mem_cons_of_mem _ member)) rest
    refine ⟨kept', fun t => ?_, ?_⟩
    · rw [held', Holdings.held_add added, trialsOf_cons, Nat.add_assoc]
    · rw [load', Holdings.load_add kept.sorted added, trials_cons, Nat.add_assoc]

/-- A grant can be entered if all counts stay within a word. -/
theorem grantAll_of_fits (fits : ∀ t, w.outstanding.held t + trialsOf batches t < 2 ^ 32) :
    ∃ w', w.grantAll batches = .ok w' := by
  induction batches generalizing w with
  | nil => exact ⟨w, rfl⟩
  | cons b batches ih =>
    have here : w.outstanding.held b.taskId + b.instances.toNat < 2 ^ 32 := by
      have := fits b.taskId
      rw [trialsOf_cons, if_pos rfl] at this
      omega
    have added := Holdings.add_eq_ok_iff.mpr ⟨here, rfl⟩
    have first := grant_eq_ok_iff.mpr ⟨_, added, rfl⟩
    obtain ⟨w', rest⟩ := ih (w := { w with outstanding := _ }) fun t => by
      have := fits t
      rw [trialsOf_cons] at this
      rw [Holdings.held_add added]
      omega
    unfold grantAll
    rw [first]
    exact ⟨w', rest⟩

/-- Trials are settled only if the task is entered with at least as many. -/
theorem settle_eq_ok (settled : w.settle task n = .ok w') :
    ∃ m, w.outstanding.lookup task = some m ∧ n ≤ m ∧
      w' = { w with outstanding := Holdings.set task (m - n) w.outstanding } := by
  unfold settle at settled
  split at settled
  · simp at settled
  · next m entered =>
    split at settled
    · simp at settled
    · next enough =>
      simp only [Except.ok.injEq] at settled
      exact ⟨m, entered, UInt32.not_lt.mp enough, settled.symm⟩

/-- A worker can report what it holds. -/
theorem settle_of_held (pos : 0 < n) (enough : n.toNat ≤ w.outstanding.held task) :
    ∃ w', w.settle task n = .ok w' := by
  unfold Holdings.held Holdings.count at enough
  unfold settle
  rw [UInt32.lt_iff_toNat_lt] at pos
  cases entered : w.outstanding.lookup task with
  | none =>
    simp only [entered, Option.getD_none] at enough
    have := Nat.lt_of_lt_of_le pos enough
    simp at this
  | some m =>
    simp only [entered, Option.getD_some] at enough
    have : ¬m < n := UInt32.not_lt.mpr (UInt32.le_iff_toNat_le.mpr enough)
    simp [this]

/-- Settling takes from one task, which held at least as much. -/
theorem settle_held (sorted : w.outstanding.Sorted) (settled : w.settle task n = .ok w') :
    w'.outstanding.Sorted ∧ n.toNat ≤ w.outstanding.held task ∧
      ∀ t, w'.outstanding.held t = w.outstanding.held t - if t = task then n.toNat else 0 := by
  obtain ⟨m, entered, enough, rfl⟩ := settle_eq_ok settled
  have holds : w.outstanding.held task = m.toNat := by
    simp [Holdings.held, Holdings.count, entered]
  have left : (m - n).toNat = m.toNat - n.toNat := UInt32.toNat_sub_of_le m n enough
  refine ⟨sorted.set, holds ▸ UInt32.le_iff_toNat_le.mp enough, fun t => ?_⟩
  change Holdings.held (Holdings.set task (m - n) w.outstanding) t = _
  rw [Holdings.held_set sorted entered]
  split
  · next same => rw [left, same, holds]
  · rfl

/-- A worker reports no more than it holds, and holds that much less after it. -/
theorem settle_spec (kept : w.outstanding.Kept) (settled : w.settle task n = .ok w') :
    w'.activated = w.activated ∧ w'.outstanding.Kept ∧
      0 < w.outstanding.held task ∧ n.toNat ≤ w.outstanding.held task ∧
      (∀ t, w'.outstanding.held t =
        w.outstanding.held t - if t = task then n.toNat else 0) ∧
      w'.outstanding.load + n.toNat = w.outstanding.load := by
  obtain ⟨-, enough, held⟩ := settle_held kept.sorted settled
  obtain ⟨m, entered, fewer, rfl⟩ := settle_eq_ok settled
  have left : (m - n).toNat = m.toNat - n.toNat := UInt32.toNat_sub_of_le m n fewer
  rw [UInt32.le_iff_toNat_le] at fewer
  refine ⟨rfl, kept.set, ?_, enough, held, ?_⟩
  · obtain ⟨before, after, parts, -⟩ := List.lookup_eq_some_iff.mp entered
    have member : (task, m) ∈ w.outstanding := by simp [parts]
    rw [kept.held_of_mem member]
    exact UInt32.lt_iff_toNat_lt.mp (kept.positive _ member)
  · have := Holdings.load_set (m - n) entered
    change Holdings.load (Holdings.set task (m - n) w.outstanding) + _ = _
    omega

end Worker

end TrialFarm
