import TrialFarm.Proofs.Search.Runs
import TrialFarm.Search.Sharing

/-!
# Trials are reproducible

A trial depends on its formula, its seed and the weights, but not on how the weights are found. A
table that others use too always gives what one would compute: a slot counts as used only if it
holds a positive number, and then that number is the weight. So a seed is enough to repeat a
trial, and once a run has solved it, all larger budgets lead to the same end.

## Main definitions

* `WeightTable.Faithful`: used slots hold the weights.
* `Weigher.Gives`: a way to find weights that always finds them.

## Main statements

* `WeightTable.Faithful.attend`: looking finds the weight and keeps the table faithful.
* `Trial.perform_eq`: whatever gives the same weights leads to the same trial.
* `Trial.perform_of_solved`: a larger budget, all at once or bit by bit, leads to the same end.
* `Trial.reproducible`: both together.
-/

namespace TrialFarm

/-- A slot that counts as used holds the weight of its break count. -/
def WeightTable.Faithful (eval : Nat → Float) (t : WeightTable) : Prop :=
  ∀ i held, t.slots[i]? = some held → held > 0.0 → held = eval i

namespace WeightTable

variable {eval : Nat → Float} {t : WeightTable}

/-- A table without weights is faithful to every policy. -/
theorem faithful_empty (eval : Nat → Float) : Faithful eval WeightTable.empty := by
  intro i held found
  simp [empty] at found

/-- A weight of zero is never taken for a stored one. -/
theorem zero_unused : ¬ (0.0 : Float) > 0.0 := by decide

/-- A table stays faithful when a weight of the policy is stored. -/
theorem Faithful.store (faithful : t.Faithful eval) (breaks : Nat) :
    (t.store breaks (eval breaks)).Faithful eval := by
  -- The slots that are added hold 0, which does not count as used.
  have widened : ∀ (n i : Nat) (held : Float), (t.slots ++ Array.replicate n 0.0)[i]? = some held →
      held > 0.0 → held = eval i := by
    intro n i held found used
    rw [Array.getElem?_append] at found
    split at found
    · exact faithful i held found used
    · rw [Array.getElem?_replicate] at found
      split at found
      · cases found
        exact absurd used zero_unused
      · cases found
  intro i held found used
  rw [WeightTable.store] at found
  dsimp only at found
  rw [Array.getElem?_setIfInBounds] at found
  by_cases same : breaks = i
  · subst same
    obtain ⟨-, stored⟩ : _ ∧ eval breaks = held := by simpa using found
    exact stored.symm
  · rw [if_neg same] at found
    split at found
    · exact faithful i held found used
    · exact widened _ i held found used

/-- A faithful table gives the weights of the policy, and stays faithful. -/
theorem Faithful.lookup (faithful : t.Faithful eval) (breaks : Nat) :
    (t.lookup eval breaks).1 = eval breaks ∧ (t.lookup eval breaks).2.Faithful eval := by
  unfold WeightTable.lookup
  split
  · next held found =>
    split
    · next used => exact ⟨faithful breaks held found used, faithful⟩
    · exact ⟨rfl, faithful.store breaks⟩
  · exact ⟨rfl, faithful.store breaks⟩

/-- Whoever looks, a faithful table answers with the policy's weight and stays faithful. -/
theorem Faithful.attend (faithful : t.Faithful eval) (policy : CachePolicy) (look : Look) :
    (t.attend policy eval look).1 = eval look.breaks ∧
      (t.attend policy eval look).2.Faithful eval := by
  cases policy with
  | off => exact ⟨rfl, faithful⟩
  | blocking => exact faithful.lookup look.breaks
  | tryLock =>
    rw [WeightTable.attend]
    by_cases busy : look.busy = true
    · rw [if_pos busy]
      exact ⟨rfl, faithful⟩
    · rw [if_neg busy]
      exact faithful.lookup look.breaks

theorem Faithful.foldl (faithful : t.Faithful eval) (policy : CachePolicy) (looks : List Look) :
    (looks.foldl (fun t look => (t.attend policy eval look).2) t).Faithful eval := by
  induction looks generalizing t with
  | nil => exact faithful
  | cons look looks ih => exact ih (faithful.attend policy look).2

end WeightTable

/-- In every state that `P` holds of, the weights are those of `eval`, and `P` holds on. -/
structure Weigher.Gives {σ : Type} (w : Weigher σ) (eval : Nat → Float) (P : σ → Prop) : Prop where
  weight : ∀ s breaks, P s → (w.weigh s breaks).1 = eval breaks
  keeps : ∀ s breaks, P s → P (w.weigh s breaks).2

/-- Whatever the others do, the weights are right. -/
theorem Weigher.among_gives (policy : CachePolicy) (eval : Nat → Float) (company : Company) :
    (Weigher.among policy eval company).Gives eval fun s => s.table.Faithful eval where
  weight s breaks faithful := by
    have joined := faithful.foldl policy (company.between s.looks)
    exact (joined.attend policy ⟨breaks, company.busy s.looks⟩).1
  keeps s breaks faithful := by
    have joined := faithful.foldl policy (company.between s.looks)
    exact (joined.attend policy ⟨breaks, company.busy s.looks⟩).2

namespace Trial

section Gives

variable {σ : Type} {w : Weigher σ} {eval : Nat → Float} {P : σ → Prop} {f : Formula} {s : σ}

/-- Weights that are given by a cache are those of direct evaluation. -/
theorem weights_eq (gives : w.Gives eval P) (holds : P s) (breakCount : Array Nat) (total : Float)
    (clause : List Literal) :
    ∃ s', P s' ∧ weights w breakCount s total clause =
      ((weights (Weigher.direct eval) breakCount () total clause).1,
        (weights (Weigher.direct eval) breakCount () total clause).2.1, s') := by
  induction clause generalizing s total with
  | nil => exact ⟨s, holds, rfl⟩
  | cons l clause ih =>
    have weight := gives.weight s (breakCount.getD l.varIndex 0) holds
    obtain ⟨s', holds', rest⟩ := ih (gives.keeps s (breakCount.getD l.varIndex 0) holds)
      (total + eval (breakCount.getD l.varIndex 0))
    refine ⟨s', holds', ?_⟩
    simp only [weights, weight, rest, Weigher.direct]

/-- A step with a cache is the step with direct evaluation. -/
theorem step_eq (gives : w.Gives eval P) (holds : P s) (t : Trial) :
    (step w f s t).1 = (step (Weigher.direct eval) f () t).1 ∧ P (step w f s t).2 := by
  unfold step
  split
  · exact ⟨rfl, holds⟩
  · obtain ⟨s', holds', found⟩ := weights_eq gives holds t.breakCount 0.0 (f.clause t.picked)
    simp only [found]
    generalize choose _ _ _ = chosen
    cases chosen with
    | none => exact ⟨rfl, holds'⟩
    | some l => exact ⟨rfl, holds'⟩

theorem run_eq (gives : w.Gives eval P) (holds : P s) (budget : UInt64) (t : Trial) :
    (run w f budget s t).1 = (run (Weigher.direct eval) f budget () t).1 ∧
      P (run w f budget s t).2 := by
  unfold run
  generalize budget.toNat - t.flips.toNat = fuel
  induction fuel generalizing s t with
  | zero => exact ⟨rfl, holds⟩
  | succ fuel ih =>
    rw [runFor, runFor]
    split
    · exact ⟨rfl, holds⟩
    · obtain ⟨same, holds'⟩ := step_eq (f := f) gives holds t
      dsimp only
      rw [← same]
      exact ih holds' _

/-- Trials that find the same weights are the same after the same calls. -/
theorem perform_eq (gives : w.Gives eval P) (holds : P s) (calls : List TrialCall) (t : Trial) :
    (perform w f calls s t).1 = (perform (Weigher.direct eval) f calls () t).1 := by
  induction calls generalizing s t with
  | nil => rfl
  | cons call calls ih =>
    have one : (t.call w f s call).1 = (t.call (Weigher.direct eval) f () call).1 ∧
        P (t.call w f s call).2 := by
      cases call with
      | step => exact step_eq gives holds t
      | run budget => exact run_eq gives holds budget t
    rw [perform, perform, ← one.1]
    exact ih one.2 _

end Gives

section Budgets

variable {σ : Type} {w : Weigher σ} {f : Formula} {s : σ} {t : Trial} {b m : UInt64}

/-- A run that comes to be solved begins with one flip, unless it is over. -/
theorem run_step_of_solved (solved : (run w f b s t).1.isSolved = true)
    (unsolved : t.isSolved = false) :
    t.flips < b ∧ (step w f s t).1.flips = t.flips + 1 ∧
      run w f b s t = run w f b (step w f s t).2 (step w f s t).1 := by
  have left : t.flips < b := by
    refine UInt64.not_le.mp fun spent => ?_
    rw [run_of_spent spent, unsolved] at solved
    cases solved
  have nonempty : f.clause t.picked ≠ [] := fun stuck => by
    rw [run_of_stuck unsolved stuck] at solved
    cases solved
  have flipped := flips_step (w := w) (s := s) unsolved nonempty
  exact ⟨left, flipped, run_step unsolved left flipped⟩

/-- No flip is taken back. -/
theorem flips_le_run (solved : (run w f b s t).1.isSolved = true) :
    t.flips ≤ (run w f b s t).1.flips := by
  revert solved
  refine run_induction b (motive := fun s t =>
    (run w f b s t).1.isSolved = true → t.flips ≤ (run w f b s t).1.flips) ?_ ?_ s t
  · rintro s t (done | spent) -
    · rw [run_of_solved done]
      exact UInt64.le_refl _
    · rw [run_of_spent spent]
      exact UInt64.le_refl _
  · intro s t unsolved left rest solved
    obtain ⟨-, flipped, begins⟩ := run_step_of_solved solved unsolved
    rw [begins] at solved ⊢
    have later := UInt64.le_iff_toNat_le.mp (rest _ _ flipped solved)
    rw [flipped, toNat_flips_succ left] at later
    rw [UInt64.le_iff_toNat_le]
    omega

/-- A run that solves a trial is the same with any other budget that suffices. -/
theorem run_of_enough (solved : (run w f b s t).1.isSolved = true)
    (enough : (run w f b s t).1.flips ≤ m) : run w f m s t = run w f b s t := by
  revert solved enough
  refine run_induction b (motive := fun s t => (run w f b s t).1.isSolved = true →
    (run w f b s t).1.flips ≤ m → run w f m s t = run w f b s t) ?_ ?_ s t
  · rintro s t (done | spent) solved enough
    · rw [run_of_solved done, run_of_solved done]
    · rw [run_of_spent spent] at solved ⊢
      exact run_of_solved solved
  · intro s t unsolved left rest solved enough
    obtain ⟨-, flipped, begins⟩ := run_step_of_solved solved unsolved
    rw [begins] at solved enough ⊢
    have later := UInt64.le_iff_toNat_le.mp (UInt64.le_trans (flips_le_run solved) enough)
    rw [flipped, toNat_flips_succ left] at later
    have left' : t.flips < m := UInt64.lt_iff_toNat_lt.mpr (by omega)
    rw [run_step unsolved left' flipped]
    exact rest _ _ flipped solved enough

/-- A run that comes to be solved is not disturbed by a shorter run before it. -/
theorem run_run (solved : (run w f b s t).1.isSolved = true) :
    run w f b (run w f m s t).2 (run w f m s t).1 = run w f b s t := by
  revert solved
  refine run_induction m (motive := fun s t => (run w f b s t).1.isSolved = true →
    run w f b (run w f m s t).2 (run w f m s t).1 = run w f b s t) ?_ ?_ s t
  · rintro s t (done | spent) -
    · rw [run_of_solved done]
    · rw [run_of_spent spent]
  · intro s t unsolved left rest solved
    obtain ⟨-, flipped, begins⟩ := run_step_of_solved solved unsolved
    rw [run_step unsolved left flipped, begins]
    rw [begins] at solved
    exact rest _ _ flipped solved

/-- Budgets after the solution change nothing. -/
theorem perform_of_run (solved : t.isSolved = true) (budgets : List UInt64) :
    perform w f (budgets.map .run) s t = (t, s) := by
  induction budgets with
  | nil => rfl
  | cons m budgets ih =>
    rw [List.map_cons, perform, call, run_of_solved solved]
    exact ih

/-- Budgets one after the other lead to the same end, if one of them suffices. -/
theorem perform_of_solved {budgets : List UInt64} (solved : (run w f b s t).1.isSolved = true)
    (enough : ∃ m ∈ budgets, (run w f b s t).1.flips ≤ m) :
    perform w f (budgets.map .run) s t = run w f b s t := by
  induction budgets generalizing s t with
  | nil =>
    obtain ⟨m, member, -⟩ := enough
    cases member
  | cons m budgets ih =>
    rw [List.map_cons, perform, call]
    by_cases first : (run w f b s t).1.flips ≤ m
    · rw [run_of_enough solved first]
      exact perform_of_run solved budgets
    · have same := run_run (m := m) solved
      rw [← same]
      refine ih (by rwa [same]) ?_
      obtain ⟨m', member, suffices'⟩ := enough
      rcases List.mem_cons.mp member with rfl | later
      · exact absurd suffices' first
      · exact ⟨m', later, by rwa [same]⟩

end Budgets

/-- A trial in any company is the trial of its seed: after any calls it is what it would be if it
computed all weights by itself. Once a run has solved it, fresh trials of the seed in any other
company come to the same end with all budgets of at least as many flips, given at once or bit by
bit. -/
theorem reproducible (eval : Nat → Float) (policy : CachePolicy) (company : Company) (f : Formula)
    (seed : UInt64) :
    (∀ calls,
      (perform (Weigher.among policy eval company) f calls SharedTable.fresh (start f seed)).1 =
        (perform (Weigher.direct eval) f calls () (start f seed)).1) ∧
    ∀ b, let solved := (run (Weigher.among policy eval company) f b SharedTable.fresh
        (start f seed)).1
      solved.isSolved = true →
        ∀ (policy' : CachePolicy) (company' : Company) (budgets : List UInt64),
        (∃ m ∈ budgets, solved.flips ≤ m) →
        (perform (Weigher.among policy' eval company') f (budgets.map .run) SharedTable.fresh
          (start f seed)).1 = solved := by
  have alone (policy : CachePolicy) (company : Company) (calls : List TrialCall) :=
    perform_eq (f := f) (s := SharedTable.fresh) (Weigher.among_gives policy eval company)
      (WeightTable.faithful_empty eval) calls (start f seed)
  refine ⟨alone policy company, fun b => ?_⟩
  have single : (run (Weigher.among policy eval company) f b SharedTable.fresh (start f seed)).1 =
      (run (Weigher.direct eval) f b () (start f seed)).1 := alone policy company [.run b]
  intro solved isSolved policy' company' budgets enough
  simp only [solved, single] at isSolved enough ⊢
  rw [alone policy' company', perform_of_solved isSolved enough]

/-- Others come before every look, and the second look finds the table held. A trial with the table
for itself ends the same. -/
theorem reproducible_alone :
    let eval := fun breaks : Nat => if breaks = 0 then 1.0 else 0.5
    let company : Company := ⟨fun _ => [⟨1, false⟩], fun look => look == 1⟩
    let f := Formula.ofClauses 2 [[⟨0⟩, ⟨2⟩], [⟨0⟩, ⟨3⟩]]
    let solved := (run (Weigher.among .tryLock eval company) f 9 SharedTable.fresh (start f 8)).1
    solved.isSolved = true ∧ solved.flips ≤ 7 ∧
      (perform (Weigher.among .blocking eval ⟨fun _ => [], fun _ => false⟩) f [.run 0, .run 7]
        SharedTable.fresh (start f 8)).1 = solved := by
  intro eval company f solved
  have ends : solved.isSolved = true ∧ solved.flips ≤ 7 := by decide +kernel
  have again := (reproducible eval .tryLock company f 8).2 9 ends.1 .blocking
    ⟨fun _ => [], fun _ => false⟩ [0, 7] ⟨7, by simp, ends.2⟩
  exact ⟨ends.1, ends.2, again⟩

end Trial

end TrialFarm
