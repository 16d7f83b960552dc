import TrialFarm.Proofs.Server.Announcements

/-!
# Waking workers

While files wait and trials are handed out, every worker that was not told so yet is told that there
is work. All are told at once, in the order in which they joined.

## Main definitions

* `Roster.allActive`: the roster after all workers were told.
* `ServerState.Awake`: there is work, and it is handed out.

## Main statements

* `ServerState.wakeIdle_of_awake`, `ServerState.wakeIdle_of_not_awake`: what waking does.
-/

namespace TrialFarm

namespace Roster

/-- The roster after every worker was told that there is work. -/
def allActive (r : Roster) : Roster :=
  { r with workers := r.workers.map fun entry => (entry.1, { entry.2 with activated := true }) }

/-- The roster after some workers were told that there is work. -/
def activateAll (r : Roster) (idle : List WorkerId) : Roster :=
  { r with
    workers := r.workers.map fun entry =>
      if entry.1 ∈ idle then (entry.1, { entry.2 with activated := true }) else entry }

variable {r : Roster} {id : WorkerId}

/-- Waking all workers changes no number. -/
theorem ids_allActive (r : Roster) : r.allActive.ids = r.ids := by
  simp [allActive, ids, Function.comp_def]

/-- The inactive workers are those on the roster that are not marked. -/
theorem mem_inactive : id ∈ r.inactive ↔ ∃ w, (id, w) ∈ r.workers ∧ w.activated = false := by
  simp [inactive]

/-- The inactive workers are all that have to be told. -/
theorem activateAll_inactive (r : Roster) : r.activateAll r.inactive = r.allActive := by
  unfold activateAll allActive
  congr 1
  apply List.map_congr_left
  rintro ⟨id, w⟩ member
  split
  · rfl
  · next told =>
    cases active : w.activated with
    | true => rw [← active]
    | false => exact absurd (mem_inactive.mpr ⟨w, member, active⟩) told

theorem activateAll_cons (r : Roster) (id : WorkerId) (idle : List WorkerId) :
    (r.modify id fun w => { w with activated := true }).activateAll idle =
      r.activateAll (id :: idle) := by
  unfold activateAll modify
  dsimp only
  rw [List.map_map]
  congr 1
  apply List.map_congr_left
  rintro ⟨first, w⟩ -
  by_cases same : first = id
  · simp [same]
  · simp [same]

end Roster

namespace ServerState

/-- There is work, and it is handed out. -/
structure Awake (s : ServerState) : Prop where
  running : s.phase = .running
  open' : s.dispatchSuspended = false
  queued : s.scheduler.queue ≠ []

variable {s : ServerState}

/-- Waking workers one by one marks them and tells each of them. -/
private theorem foldl_activate {idle : List WorkerId}
    (there : ∀ id ∈ idle, s.roster.contains id = true) :
    idle.foldl activate s =
      { s with
        roster := s.roster.activateAll idle
        outbound := s.outbound ++ idle.map fun id => .toWorker id .activate } := by
  induction idle generalizing s with
  | nil => simp [Roster.activateAll]
  | cons id idle ih =>
    obtain ⟨here, later⟩ := List.forall_mem_cons.mp there
    rw [List.foldl_cons, activate, if_pos here]
    -- The one that was told stays on the roster, and so do the others.
    have still : ∀ other ∈ idle,
        (s.roster.modify id fun w => { w with activated := true }).contains other = true := by
      intro other member
      rw [Roster.contains_iff, Roster.find?_isSome_iff, Roster.ids_modify,
        ← Roster.find?_isSome_iff, ← Roster.contains_iff]
      exact later other member
    rw [ih still]
    dsimp only [push]
    rw [Roster.activateAll_cons, List.append_assoc]
    rfl

/-- Where there is work, every worker that was not told so is told now. -/
theorem wakeIdle_of_awake (awake : s.Awake) :
    s.wakeIdle =
      { s with
        roster := s.roster.allActive
        outbound := s.outbound ++ s.roster.inactive.map fun id => .toWorker id .activate } := by
  have queued : s.scheduler.hasQueued = true := by
    simpa [Scheduler.hasQueued] using awake.queued
  have there : ∀ id ∈ s.roster.inactive, s.roster.contains id = true := by
    intro id member
    obtain ⟨w, inside, -⟩ := Roster.mem_inactive.mp member
    rw [Roster.contains_iff, Roster.find?_isSome_iff]
    exact List.mem_map_of_mem inside
  unfold wakeIdle
  rw [if_neg (by simp [awake.running, awake.open', queued]), foldl_activate there,
    Roster.activateAll_inactive]

/-- Without work nobody is woken. -/
theorem wakeIdle_of_not_awake (asleep : ¬s.Awake) : s.wakeIdle = s := by
  unfold wakeIdle
  rw [if_pos]
  by_contra awake
  simp only [ne_eq, Bool.or_eq_true, decide_eq_true_eq, Bool.not_eq_true', not_or, not_not,
    Bool.not_eq_true, Scheduler.hasQueued, Bool.not_eq_false', List.isEmpty_iff] at awake
  exact asleep ⟨awake.1.1, awake.1.2, awake.2⟩

/-- Waking workers touches the roster and the actions only. -/
theorem wakeIdle_eq (s : ServerState) :
    ∃ (roster : Roster) (ids : List WorkerId), s.wakeIdle =
      { s with
        roster := roster
        outbound := s.outbound ++ ids.map fun id => .toWorker id .activate } := by
  by_cases awake : s.Awake
  · exact ⟨_, _, wakeIdle_of_awake awake⟩
  · refine ⟨s.roster, [], ?_⟩
    rw [wakeIdle_of_not_awake awake, List.map_nil, List.append_nil]

end ServerState

end TrialFarm
