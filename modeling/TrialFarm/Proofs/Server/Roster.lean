import Mathlib.Algebra.Order.BigOperators.Group.List
import Mathlib.Algebra.Order.Group.Nat
import TrialFarm.Proofs.Server.Holdings

/-!
# The roster as a map

Worker numbers are never given twice, so the roster is a map from numbers to workers. What all
workers together hold of a task changes by what the changed worker holds.

## Main definitions

* `Roster.held`, `Roster.heldBy`: the trials of a task at all workers, and at one of them.
* `Roster.Numbered`: distinct numbers, all given out already.
* `Roster.Kept`: such numbers, and holdings that are kept.
-/

namespace TrialFarm

/-- A sum grows at least by what one of its terms grows by. -/
theorem sum_raise {α : Type} [DecidableEq α] {a : α} {l : List α} (member : a ∈ l) (f : α → Nat)
    (k : Nat) : (l.map f).sum + k ≤ (l.map fun b => if b = a then f b + k else f b).sum := by
  induction l with
  | nil => simp at member
  | cons b l ih =>
    simp only [List.map_cons, List.sum_cons]
    have rest : (l.map f).sum ≤ (l.map fun b => if b = a then f b + k else f b).sum := by
      refine List.sum_le_sum fun b _ => ?_
      split
      · exact Nat.le_add_right _ _
      · exact Nat.le_refl _
    rcases List.mem_cons.mp member with rfl | inside
    · rw [if_pos rfl]
      omega
    · have := ih inside
      split
      · omega
      · omega

namespace Roster

/-- The trials of a task at all workers, as a natural number. -/
def held (r : Roster) (task : TaskId) : Nat :=
  (r.workers.map fun entry => entry.2.outstanding.held task).sum

/-- The trials of a task at one worker; none if it is not on the roster. -/
def heldBy (r : Roster) (id : WorkerId) (task : TaskId) : Nat :=
  (r.find? id).elim 0 fun w => w.outstanding.held task

/-- The numbers are distinct and were given out before. -/
structure Numbered (r : Roster) : Prop where
  distinct : r.ids.Nodup
  given : ∀ id ∈ r.ids, id < r.nextId

/-- The numbers are distinct and were given out before, and the holdings are kept. -/
structure Kept (r : Roster) : Prop where
  distinct : r.ids.Nodup
  given : ∀ id ∈ r.ids, id < r.nextId
  holdings : ∀ entry ∈ r.workers, entry.2.outstanding.Kept

variable {r r' : Roster} {id other : WorkerId} {w : Worker} {task : TaskId} {f : Worker → Worker}

theorem Kept.numbered (kept : r.Kept) : r.Numbered := ⟨kept.distinct, kept.given⟩

theorem Numbered.congr (numbered : r.Numbered) (ids : r'.ids = r.ids)
    (nextId : r'.nextId = r.nextId) : r'.Numbered :=
  ⟨by rw [ids]; exact numbered.distinct, by rw [ids, nextId]; exact numbered.given⟩

/-- A number is on the roster if a worker is found under it. -/
theorem contains_iff : r.contains id = true ↔ ∃ w, r.find? id = some w := by
  rw [contains, Option.isSome_iff_exists]

/-- A worker that is found is on the roster. -/
theorem mem_of_find? (found : r.find? id = some w) : (id, w) ∈ r.workers := by
  obtain ⟨before, after, parts, -⟩ := List.lookup_eq_some_iff.mp found
  rw [parts]
  simp

theorem mem_ids_of_find? (found : r.find? id = some w) : id ∈ r.ids :=
  List.mem_map.mpr ⟨(id, w), mem_of_find? found, rfl⟩

/-- As numbers are distinct, every worker on the roster is found. -/
theorem Numbered.find?_of_mem (numbered : r.Numbered) (member : (id, w) ∈ r.workers) :
    r.find? id = some w := by
  obtain ⟨before, after, parts⟩ := List.append_of_mem member
  refine List.lookup_eq_some_iff.mpr ⟨before, after, parts, ?_⟩
  have distinct := numbered.distinct
  rw [ids, parts, List.map_append, List.nodup_append] at distinct
  intro entry inside
  simp only [bne_iff_ne]
  exact (distinct.2.2 entry.1 (List.mem_map_of_mem inside) id (by simp)).symm

theorem find?_of_mem (kept : r.Kept) (member : (id, w) ∈ r.workers) : r.find? id = some w :=
  kept.numbered.find?_of_mem member

/-- Workers are found under the numbers on the roster. -/
theorem find?_isSome_iff : (∃ w, r.find? id = some w) ↔ id ∈ r.ids := by
  constructor
  · rintro ⟨w, found⟩
    exact mem_ids_of_find? found
  · intro member
    rw [← Option.isSome_iff_exists, Option.isSome_iff_ne_none]
    intro missing
    obtain ⟨entry, inside, same⟩ := List.mem_map.mp member
    have := List.lookup_eq_none_iff.mp missing entry inside
    simp [same] at this

/-! ### Changing a worker -/

@[simp] theorem modify_nextId : (r.modify id f).nextId = r.nextId := rfl

/-- A change of one worker leaves the others as they are. -/
theorem mem_modify {entry : WorkerId × Worker} (member : entry ∈ (r.modify id f).workers) :
    entry ∈ r.workers ∨ ∃ w, (id, w) ∈ r.workers ∧ entry = (id, f w) := by
  obtain ⟨old, inside, rfl⟩ := List.mem_map.mp member
  split
  · next same => exact Or.inr ⟨old.2, by rw [← same]; exact inside, rfl⟩
  · exact Or.inl inside

/-- A change of a worker changes no number. -/
@[simp] theorem ids_modify : (r.modify id f).ids = r.ids := by
  unfold ids modify
  rw [List.map_map]
  apply List.map_congr_left
  intro entry _
  simp only [Function.comp_apply]
  split
  · next same => exact same.symm
  · rfl

/-- What is found after one worker was changed. -/
theorem find?_modify (other : WorkerId) :
    (r.modify id f).find? other = if other = id then (r.find? id).map f else r.find? other := by
  unfold find? modify
  induction r.workers with
  | nil => simp
  | cons entry rest ih =>
    obtain ⟨first, w⟩ := entry
    rw [List.map_cons, lookup_cons_ite, lookup_cons_ite]
    by_cases here : first = id
    · subst here
      rw [if_pos rfl, lookup_cons_ite, if_pos rfl, ih]
      by_cases same : other = first
      · rw [if_pos same, if_pos same]
        rfl
      · simp only [if_neg same]
    · rw [if_neg here, lookup_cons_ite, if_neg (Ne.symm here), ih]
      by_cases same : other = id
      · rw [if_neg (fun h => here (h.symm.trans same)), if_pos same, if_pos same]
      · rw [if_neg same, if_neg same]

theorem find?_modify_self (found : r.find? id = some w) :
    (r.modify id f).find? id = some (f w) := by
  rw [find?_modify, if_pos rfl, found]
  rfl

/-- A sum over the workers when one of them is changed. -/
private theorem sum_modify (entries : List (WorkerId × Worker))
    (distinct : (entries.map Prod.fst).Nodup) (member : (id, w) ∈ entries) (g : Worker → Nat) :
    ((entries.map fun entry => if entry.1 = id then (id, f entry.2) else entry).map
        fun entry => g entry.2).sum + g w = (entries.map fun entry => g entry.2).sum + g (f w) := by
  induction entries with
  | nil => simp at member
  | cons entry rest ih =>
    obtain ⟨first, v⟩ := entry
    rw [List.map_cons, List.nodup_cons] at distinct
    simp only [List.map_cons, List.sum_cons]
    rcases List.mem_cons.mp member with same | member
    · obtain ⟨rfl, rfl⟩ := Prod.mk.inj same
      -- The number comes only once, so all later entries stay as they are.
      have untouched :
          (rest.map fun entry => if entry.1 = id then (id, f entry.2) else entry) = rest := by
        conv_rhs => rw [← List.map_id rest]
        apply List.map_congr_left
        intro entry inside
        have apart : entry.1 ≠ id := by
          rintro rfl
          exact distinct.1 (List.mem_map.mpr ⟨entry, inside, rfl⟩)
        rw [if_neg apart]
        rfl
      rw [untouched, if_pos rfl]
      dsimp only
      omega
    · have apart : first ≠ id := by
        rintro rfl
        exact distinct.1 (List.mem_map.mpr ⟨(first, w), member, rfl⟩)
      rw [if_neg apart]
      have := ih distinct.2 member
      dsimp only
      omega

/-- Changing one worker changes a sum over all workers by that worker's part. -/
theorem sum_modify_add (kept : r.Kept) (found : r.find? id = some w) (g : Worker → Nat) :
    ((r.modify id f).workers.map fun entry => g entry.2).sum + g w =
      (r.workers.map fun entry => g entry.2).sum + g (f w) :=
  sum_modify r.workers kept.distinct (mem_of_find? found) g

/-- What is held of a task when one worker is changed. -/
theorem held_modify_add (kept : r.Kept) (found : r.find? id = some w) (task : TaskId) :
    (r.modify id f).held task + w.outstanding.held task =
      r.held task + (f w).outstanding.held task :=
  sum_modify_add kept found fun w => w.outstanding.held task

theorem Numbered.modify (numbered : r.Numbered) : (r.modify id f).Numbered :=
  numbered.congr ids_modify rfl

/-- A change that keeps the holdings of a worker well keeps the roster well. -/
theorem Kept.modify (kept : r.Kept)
    (holdings : ∀ w, r.find? id = some w → (f w).outstanding.Kept) : (r.modify id f).Kept := by
  have numbered : (r.modify id f).Numbered := kept.numbered.modify
  refine ⟨numbered.distinct, numbered.given, ?_⟩
  intro entry member
  rcases mem_modify member with inside | ⟨w, inside, rfl⟩
  · exact kept.holdings entry inside
  · exact holdings w (find?_of_mem kept inside)

/-! ### Removing a worker -/

@[simp] theorem remove_nextId : (r.remove id).nextId = r.nextId := rfl

/-- All but the worker that left are still on the roster. -/
theorem mem_remove {entry : WorkerId × Worker} :
    entry ∈ (r.remove id).workers ↔ entry ∈ r.workers ∧ entry.1 ≠ id := by
  simp [remove]

theorem mem_ids_remove : other ∈ (r.remove id).ids ↔ other ∈ r.ids ∧ other ≠ id := by
  constructor
  · intro member
    obtain ⟨entry, inside, rfl⟩ := List.mem_map.mp member
    exact ⟨List.mem_map_of_mem (mem_remove.mp inside).1, (mem_remove.mp inside).2⟩
  · rintro ⟨member, apart⟩
    obtain ⟨entry, inside, rfl⟩ := List.mem_map.mp member
    exact List.mem_map_of_mem (mem_remove.mpr ⟨inside, apart⟩)

/-- The number of a worker that left is struck out. -/
theorem ids_remove (numbered : r.Numbered) : (r.remove id).ids = r.ids.erase id := by
  rw [numbered.distinct.erase_eq_filter, ids, ids, remove, List.filter_map]
  rfl

/-- What is found after a worker left. -/
theorem find?_remove (other : WorkerId) :
    (r.remove id).find? other = if other = id then none else r.find? other :=
  lookup_filter_ne r.workers id other

/-- A sum over the workers when one of them leaves. -/
private theorem sum_remove (entries : List (WorkerId × Worker))
    (distinct : (entries.map Prod.fst).Nodup) (member : (id, w) ∈ entries) (g : Worker → Nat) :
    ((entries.filter fun entry => entry.1 != id).map fun entry => g entry.2).sum + g w =
      (entries.map fun entry => g entry.2).sum := by
  induction entries with
  | nil => simp at member
  | cons entry rest ih =>
    obtain ⟨first, v⟩ := entry
    rw [List.map_cons, List.nodup_cons] at distinct
    rw [List.filter_cons, List.map_cons, List.sum_cons]
    rcases List.mem_cons.mp member with same | member
    · obtain ⟨rfl, rfl⟩ := Prod.mk.inj same
      have untouched : (rest.filter fun entry => entry.1 != id) = rest := by
        rw [List.filter_eq_self]
        intro entry inside
        rw [bne_iff_ne]
        rintro rfl
        exact distinct.1 (List.mem_map.mpr ⟨entry, inside, rfl⟩)
      simp only [bne_self_eq_false, Bool.false_eq_true, if_false, untouched]
      omega
    · have apart : (first != id) = true := by
        rw [bne_iff_ne]
        rintro rfl
        exact distinct.1 (List.mem_map.mpr ⟨(first, w), member, rfl⟩)
      have := ih distinct.2 member
      simp only [apart, if_true, List.map_cons, List.sum_cons]
      omega

/-- Removing a worker takes its part from a sum over all workers. -/
theorem sum_remove_add (kept : r.Kept) (found : r.find? id = some w) (g : Worker → Nat) :
    ((r.remove id).workers.map fun entry => g entry.2).sum + g w =
      (r.workers.map fun entry => g entry.2).sum :=
  sum_remove r.workers kept.distinct (mem_of_find? found) g

/-- What is held of a task when a worker leaves. -/
theorem held_remove_add (kept : r.Kept) (found : r.find? id = some w) (task : TaskId) :
    (r.remove id).held task + w.outstanding.held task = r.held task :=
  sum_remove_add kept found fun w => w.outstanding.held task

theorem Numbered.remove (numbered : r.Numbered) : (r.remove id).Numbered := by
  refine ⟨(List.filter_sublist.map Prod.fst).nodup numbered.distinct, ?_⟩
  intro other member
  exact numbered.given other (mem_ids_remove.mp member).1

/-- A roster stays well kept when a worker leaves. -/
theorem Kept.remove (kept : r.Kept) : (r.remove id).Kept :=
  ⟨kept.numbered.remove.distinct, kept.numbered.remove.given,
    fun entry member => kept.holdings entry (mem_remove.mp member).1⟩

/-! ### Joining -/

/-- A worker that joins holds nothing. -/
theorem held_join (task : TaskId) : r.join.2.held task = r.held task := by
  simp [join, held, Worker.fresh]

/-- A worker that joins takes the next number. -/
theorem mem_ids_join : other ∈ r.join.2.ids ↔ other ∈ r.ids ∨ other = r.nextId := by
  simp [join, ids]

/-- What is found after a worker joined. -/
theorem find?_join (numbered : r.Numbered) (other : WorkerId) :
    r.join.2.find? other = if other = r.nextId then some Worker.fresh else r.find? other := by
  unfold join find?
  rw [List.lookup_append]
  by_cases same : other = r.nextId
  · have missing : r.workers.lookup r.nextId = none := by
      rw [List.lookup_eq_none_iff]
      intro entry inside
      have before := numbered.given entry.1 (List.mem_map_of_mem inside)
      simp [bne_iff_ne, (UInt64.ne_of_lt before).symm]
    simp [same, missing]
  · simp [same, List.lookup_cons, beq_false_of_ne same]

/-- Numbers are given out one after the other, as long as there are any. -/
theorem nextId_join_toNat (left : r.nextId.toNat + 1 < 2 ^ 64) :
    r.join.2.nextId.toNat = r.nextId.toNat + 1 := by
  change (r.nextId + 1).toNat = _
  rw [UInt64.toNat_add]
  exact Nat.mod_eq_of_lt left

/-- As long as there are numbers left, a worker that joins gets one of its own. -/
theorem Numbered.join (numbered : r.Numbered) (left : r.nextId.toNat + 1 < 2 ^ 64) :
    r.join.2.Numbered := by
  have next := nextId_join_toNat left
  refine ⟨?_, ?_⟩
  · change (List.map Prod.fst (r.workers ++ [(r.nextId, Worker.fresh)])).Nodup
    rw [List.map_append, List.nodup_append]
    refine ⟨numbered.distinct, by simp, ?_⟩
    intro id member other last
    simp only [List.map_cons, List.map_nil, List.mem_singleton] at last
    rw [last]
    exact UInt64.ne_of_lt (numbered.given id member)
  · intro other member
    rw [UInt64.lt_iff_toNat_lt, next]
    rcases mem_ids_join.mp member with inside | rfl
    · have := UInt64.lt_iff_toNat_lt.mp (numbered.given other inside)
      omega
    · omega

/-- A roster stays well kept when a worker joins. -/
theorem Kept.join (kept : r.Kept) (left : r.nextId.toNat + 1 < 2 ^ 64) : r.join.2.Kept := by
  have numbered := kept.numbered.join left
  refine ⟨numbered.distinct, numbered.given, ?_⟩
  intro entry member
  rcases List.mem_append.mp member with inside | last
  · exact kept.holdings entry inside
  · rw [List.mem_singleton.mp last]
    exact Holdings.Kept.nil

theorem Numbered.empty : empty.Numbered := ⟨List.nodup_nil, by simp [ids, Roster.empty]⟩

theorem Kept.empty : empty.Kept :=
  ⟨Numbered.empty.distinct, Numbered.empty.given, by simp [Roster.empty]⟩

/-! ### What one worker holds -/

/-- A worker that is found holds what it is entered with. -/
theorem heldBy_of_find? (found : r.find? id = some w) (task : TaskId) :
    r.heldBy id task = w.outstanding.held task := by
  rw [heldBy, found]
  rfl

/-- A worker that is not there holds nothing. -/
theorem heldBy_of_gone (gone : r.find? id = none) (task : TaskId) : r.heldBy id task = 0 := by
  rw [heldBy, gone]
  rfl

/-- What each worker holds when one is changed. -/
theorem heldBy_modify (found : r.find? id = some w) (other : WorkerId) (task : TaskId) :
    (r.modify id f).heldBy other task =
      if other = id then (f w).outstanding.held task else r.heldBy other task := by
  unfold heldBy
  rw [find?_modify, found]
  split
  · rfl
  · rfl

/-- What each worker holds when one leaves. -/
theorem heldBy_remove (other : WorkerId) (task : TaskId) :
    (r.remove id).heldBy other task = if other = id then 0 else r.heldBy other task := by
  unfold heldBy
  rw [find?_remove]
  split
  · rfl
  · rfl

/-- What each worker holds when one joins. -/
theorem heldBy_join (numbered : r.Numbered) (other : WorkerId) (task : TaskId) :
    r.join.2.heldBy other task = r.heldBy other task := by
  unfold heldBy
  rw [find?_join numbered]
  split
  · next same =>
    have gone : r.find? other = none := by
      rw [← Option.not_isSome_iff_eq_none, Option.isSome_iff_exists, find?_isSome_iff]
      intro member
      exact UInt64.ne_of_lt (numbered.given other member) same
    rw [gone]
    rfl
  · rfl

/-- What all hold is the sum of what each holds. -/
theorem sum_heldBy (kept : r.Kept) (task : TaskId) :
    (r.ids.map fun id => r.heldBy id task).sum = r.held task := by
  unfold ids held
  rw [List.map_map]
  congr 1
  apply List.map_congr_left
  rintro ⟨id, w⟩ member
  exact heldBy_of_find? (find?_of_mem kept member) task

/-- What one worker holds is part of what all hold. -/
theorem held_le_held (found : r.find? id = some w) (task : TaskId) :
    w.outstanding.held task ≤ r.held task :=
  List.single_le_sum (by simp) _
    (List.mem_map.mpr ⟨(id, w), mem_of_find? found, rfl⟩)

end Roster

end TrialFarm
