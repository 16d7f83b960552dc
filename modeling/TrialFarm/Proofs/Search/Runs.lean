import TrialFarm.Proofs.Search.Tallies

/-!
# Runs

A run is a sequence of single flips. How it goes is told by three equations: a solved trial stays as
it is, so does one that has used up its budget, and any other run begins with one flip.

## Main statements

* `Trial.step_of_clause`: a flip of a variable of the clause whose turn it is.
* `Trial.run_of_solved`, `Trial.run_of_spent`, `Trial.run_step`: the equations.
* `Trial.run_induction`: how to prove something of a run.
* `Trial.run_of_stuck`: a trial without a literal to flip is never solved.
-/

namespace TrialFarm.Trial

variable {σ : Type} {w : Weigher σ} {f : Formula} {s : σ} {t : Trial} {budget : UInt64}

/-- Some literal is chosen from a clause that has any. -/
theorem choose_of_ne_nil (target : Float) {clause : List Literal} (nonempty : clause ≠ [])
    (sums : List Float) : ∃ l ∈ clause, choose target clause sums = some l := by
  induction clause generalizing sums with
  | nil => exact absurd rfl nonempty
  | cons l clause ih =>
    cases clause with
    | nil => exact ⟨l, List.mem_cons_self, rfl⟩
    | cons m clause =>
      cases sums with
      | nil => exact ⟨l, List.mem_cons_self, rfl⟩
      | cons sum sums =>
        simp only [choose]
        split
        · exact ⟨l, List.mem_cons_self, rfl⟩
        · obtain ⟨l', member, found⟩ := ih (List.cons_ne_nil m clause) sums
          exact ⟨l', List.mem_cons_of_mem l member, found⟩

/-- The clause whose turn it is has a place in the list. -/
theorem getElem?_picked (unsolved : t.isSolved = false) :
    t.unsat[(t.flips % t.unsat.size.toUInt64).toNat]? = some t.picked := by
  have some : 0 < t.unsat.size := by
    rw [Nat.pos_iff_ne_zero]
    intro none
    rw [isSolved, Array.isEmpty_eq_false_iff, ← Array.size_pos_iff] at unsolved
    omega
  have inside : (t.flips % t.unsat.size.toUInt64).toNat < t.unsat.size := by
    rw [UInt64.toNat_mod, Nat.toUInt64_eq, UInt64.toNat_ofNat']
    -- A list whose length is a multiple of `2 ^ 64` has a place for every number of flips.
    by_cases wraps : t.unsat.size % 2 ^ 64 = 0
    · have := t.flips.toNat_lt
      rw [wraps, Nat.mod_zero]
      omega
    · have := Nat.mod_lt t.flips.toNat (Nat.pos_of_ne_zero wraps)
      have := Nat.mod_le t.unsat.size (2 ^ 64)
      omega
  rw [picked, Array.getD_eq_getD_getElem?, Array.getElem?_eq_getElem inside, Option.getD_some]

/-- The clause that is picked is unsatisfied. -/
theorem picked_mem (unsolved : t.isSolved = false) : t.picked ∈ t.unsat :=
  Array.mem_of_getElem? (getElem?_picked unsolved)

theorem step_of_solved (solved : t.isSolved = true) : step w f s t = (t, s) := by
  rw [step, if_pos solved]

/-- A trial that is not solved flips a variable of the clause whose turn it is. -/
theorem step_of_clause (unsolved : t.isSolved = false) (nonempty : f.clause t.picked ≠ []) :
    ∃ l ∈ f.clause t.picked, (step w f s t).1 =
      { flip f { t with random := t.random.fraction.2 } l.var with
        flips := (flip f { t with random := t.random.fraction.2 } l.var).flips + 1 } := by
  obtain ⟨l, member, chosen⟩ := choose_of_ne_nil
    (t.random.fraction.1 * (weights w t.breakCount s 0.0 (f.clause t.picked)).2.1) nonempty
    (weights w t.breakCount s 0.0 (f.clause t.picked)).1
  refine ⟨l, member, ?_⟩
  simp [step, unsolved, chosen]

theorem flips_flip (f : Formula) (t : Trial) (v : UInt32) : (flip f t v).flips = t.flips :=
  (aside_flip f t v).flips

/-- A step is one flip. -/
theorem flips_step (unsolved : t.isSolved = false) (nonempty : f.clause t.picked ≠ []) :
    (step w f s t).1.flips = t.flips + 1 := by
  obtain ⟨l, -, stepped⟩ := step_of_clause (w := w) (s := s) unsolved nonempty
  rw [stepped, flips_flip]

/-- Without a literal to flip only a number is drawn. -/
theorem step_of_stuck (unsolved : t.isSolved = false) (stuck : f.clause t.picked = []) :
    (step w f s t).1 = { t with random := t.random.fraction.2 } := by
  simp [step, unsolved, stuck, choose]

/-! ### Whole runs -/

theorem run_of_solved (solved : t.isSolved = true) : run w f budget s t = (t, s) := by
  rw [run]
  cases budget.toNat - t.flips.toNat with
  | zero => rfl
  | succ fuel => rw [runFor, if_pos (by simp [solved])]

/-- A spent budget allows no step. -/
theorem run_of_spent (spent : budget ≤ t.flips) : run w f budget s t = (t, s) := by
  rw [run, Nat.sub_eq_zero_of_le (UInt64.le_iff_toNat_le.mp spent), runFor]

/-- Below a budget the number of flips does not wrap around. -/
theorem toNat_flips_succ (left : t.flips < budget) :
    (t.flips + 1).toNat = t.flips.toNat + 1 := by
  have := UInt64.lt_iff_toNat_lt.mp left
  have := budget.toNat_lt
  rw [UInt64.toNat_add, UInt64.toNat_one, Nat.mod_eq_of_lt (by omega)]

/-- A run that has not come to its end begins with one flip. -/
theorem run_step (unsolved : t.isSolved = false) (left : t.flips < budget)
    (flipped : (step w f s t).1.flips = t.flips + 1) :
    run w f budget s t = run w f budget (step w f s t).2 (step w f s t).1 := by
  have below := UInt64.lt_iff_toNat_lt.mp left
  have fuel : budget.toNat - t.flips.toNat = budget.toNat - (t.flips + 1).toNat + 1 := by
    rw [toNat_flips_succ left]
    omega
  rw [run, run, flipped, fuel, runFor, if_neg (by simp [unsolved, left])]

/-- To prove something of a run, prove it of runs that are over, and of a run that begins with a
flip if it holds of the rest. -/
theorem run_induction (budget : UInt64) {motive : σ → Trial → Prop}
    (ended : ∀ s t, t.isSolved = true ∨ budget ≤ t.flips → motive s t)
    (more : ∀ s t, t.isSolved = false → t.flips < budget →
      (∀ s' t', t'.flips = t.flips + 1 → motive s' t') → motive s t) (s : σ) (t : Trial) :
    motive s t := by
  generalize rest : budget.toNat - t.flips.toNat = n
  induction n using Nat.strongRecOn generalizing s t with
  | ind n ih =>
    by_cases solved : t.isSolved = true
    · exact ended s t (Or.inl solved)
    · by_cases spent : budget ≤ t.flips
      · exact ended s t (Or.inr spent)
      · have left : t.flips < budget := UInt64.not_le.mp spent
        refine more s t (by simpa using solved) left fun s' t' flipped => ?_
        refine ih _ ?_ s' t' rfl
        have := UInt64.lt_iff_toNat_lt.mp left
        rw [flipped, toNat_flips_succ left]
        omega

/-- A trial without a literal to flip is never solved. -/
theorem run_of_stuck (unsolved : t.isSolved = false) (stuck : f.clause t.picked = []) :
    (run w f budget s t).1.isSolved = false := by
  rw [run]
  generalize budget.toNat - t.flips.toNat = fuel
  induction fuel generalizing s t with
  | zero => exact unsolved
  | succ fuel ih =>
    rw [runFor]
    split
    · exact unsolved
    · dsimp only
      rw [step_of_stuck unsolved stuck]
      exact ih unsolved stuck

end TrialFarm.Trial
