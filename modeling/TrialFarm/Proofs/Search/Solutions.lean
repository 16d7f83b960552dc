import TrialFarm.Proofs.Cnf.Written
import TrialFarm.Proofs.Search.Consistency
import TrialFarm.Proofs.Search.Runs

/-!
# Solutions

A run that is solved has found an assignment that makes every clause of the text true, also the
clauses that were left out when the formula was prepared. A run that is not solved has made all its
flips. Both hold for all weights, even those that make no sense.

## Main statements

* `Trial.Consistent.step`, `Trial.Consistent.run`: what a trial keeps up with stays right.
* `Trial.run_solves_iff`: when a run is solved.
-/

namespace TrialFarm.Trial

variable {σ : Type} {w : Weigher σ} {f : Formula} {s : σ} {t t' : Trial} {budget : UInt64}

/-- Whether a trial is consistent depends on assignment, counts and list alone. -/
theorem Consistent.congr (consistent : Consistent f t) (assignment : t'.assignment = t.assignment)
    (counts : t'.trueCount = t.trueCount) (list : t'.unsat = t.unsat)
    (table : t'.unsatPos = t.unsatPos) : Consistent f t' where
  assigned := by rw [assignment, consistent.assigned]
  tallied := by rw [assignment]; exact consistent.tallied.of_eq counts list table
  all := by rw [table, consistent.all]

/-- The clause whose turn it is has literals, since it is one of the formula. -/
theorem Consistent.prepared_picked (consistent : Consistent f t) (sound : f.Sound)
    (unsolved : t.isSolved = false) : Formula.Prepared f.numVars (f.clause t.picked) :=
  sound.prepared _ ((consistent.tallied.listed _).mp (picked_mem unsolved)).1

/-- A step keeps a trial consistent. -/
theorem Consistent.step (consistent : Consistent f t) (sound : f.Sound) :
    Consistent f (Trial.step w f s t).1 := by
  by_cases solved : t.isSolved = true
  · rw [step_of_solved solved]
    exact consistent
  · have unsolved : t.isSolved = false := by simpa using solved
    have prepared := consistent.prepared_picked sound unsolved
    obtain ⟨l, member, stepped⟩ := step_of_clause (w := w) (s := s) unsolved prepared.nonempty
    rw [stepped]
    have drawn : Consistent f { t with random := t.random.fraction.2 } :=
      consistent.congr rfl rfl rfl rfl
    exact (drawn.flip sound (prepared.inRange l member)).congr rfl rfl rfl rfl

/-- A run of a consistent trial begins with one flip, unless it is over. -/
theorem Consistent.run_step (consistent : Consistent f t) (sound : f.Sound)
    (unsolved : t.isSolved = false) (left : t.flips < budget) :
    (Trial.step w f s t).1.flips = t.flips + 1 ∧
      Trial.run w f budget s t =
        Trial.run w f budget (Trial.step w f s t).2 (Trial.step w f s t).1 := by
  have flipped := flips_step (w := w) (s := s) unsolved
    (consistent.prepared_picked sound unsolved).nonempty
  exact ⟨flipped, Trial.run_step unsolved left flipped⟩

theorem Consistent.run (consistent : Consistent f t) (sound : f.Sound) (budget : UInt64) :
    Consistent f (Trial.run w f budget s t).1 := by
  revert consistent
  refine run_induction budget (motive := fun s t =>
    Consistent f t → Consistent f (Trial.run w f budget s t).1) ?_ ?_ s t
  · rintro s t (solved | spent) consistent
    · rwa [run_of_solved solved]
    · rwa [run_of_spent spent]
  · intro s t unsolved left rest consistent
    obtain ⟨flipped, begins⟩ := consistent.run_step (w := w) (s := s) sound unsolved left
    rw [begins]
    exact rest _ _ flipped (consistent.step sound)

/-- A run makes no more flips than its budget allows, and stops before only if it is solved. -/
theorem Consistent.flips_run (consistent : Consistent f t) (sound : f.Sound)
    (within : t.flips ≤ budget) :
    (Trial.run w f budget s t).1.flips ≤ budget ∧
      ((Trial.run w f budget s t).1.isSolved = false →
        (Trial.run w f budget s t).1.flips = budget) := by
  revert consistent within
  refine run_induction budget (motive := fun s t => Consistent f t → t.flips ≤ budget →
    (Trial.run w f budget s t).1.flips ≤ budget ∧
      ((Trial.run w f budget s t).1.isSolved = false →
        (Trial.run w f budget s t).1.flips = budget)) ?_ ?_ s t
  · rintro s t (solved | spent) consistent within
    · rw [run_of_solved solved]
      exact ⟨within, fun unsolved => by simp [solved] at unsolved⟩
    · rw [run_of_spent spent]
      exact ⟨within, fun _ => UInt64.le_antisymm within spent⟩
  · intro s t unsolved left rest consistent within
    obtain ⟨flipped, begins⟩ := consistent.run_step (w := w) (s := s) sound unsolved left
    rw [begins]
    refine rest _ _ flipped (consistent.step sound) ?_
    have := UInt64.lt_iff_toNat_lt.mp left
    rw [flipped, UInt64.le_iff_toNat_le, toNat_flips_succ left]
    omega

/-- A run of a formula that a text writes is solved exactly if it ends with a value for every
variable such that every clause of the text holds a true literal. It makes at most as many flips as
its budget allows, and exactly so many if it is not solved. -/
theorem run_solves_iff (w : Weigher σ) (s : σ) {text : String} {d : Dimacs} {f : Formula}
    (parsed : Dimacs.parse text = .ok d) (made : Formula.ofDimacs d = .ok f)
    (seed budget : UInt64) :
    let t := (Trial.run w f budget s (start f seed)).1
    (t.isSolved = true ↔ t.assignment.size = d.numVars ∧
      ∀ clause ∈ Dimacs.writtenClauses text, ∃ n ∈ clause,
        Literal.signedHolds t.assignment n = true) ∧
      (t.isSolved = false → t.flips = budget) ∧ t.flips ≤ budget := by
  intro t
  have sound := Formula.sound_of_ofDimacs made
  have begun := consistent_start f seed
  have consistent : Consistent f t := begun.run sound budget
  have fresh : (start f seed).flips = 0 := (Aside.foldl (aside_enter f) _ _).flips
  have bounds : t.flips ≤ budget ∧ (t.isSolved = false → t.flips = budget) :=
    begun.flips_run sound (by simp [fresh])
  refine ⟨?_, bounds.2, bounds.1⟩
  rw [consistent.isSolved_iff, Formula.satisfies_iff made, consistent.assigned,
    Formula.numVars_of_ofDimacs made, Dimacs.clauses_of_parse parsed]
  exact ⟨fun all => ⟨rfl, all⟩, fun all => all.2⟩

/-- The text holds a literal twice, a clause that is always true and a clause to be solved. No
weight is a number. -/
theorem run_solves_iff_repeated :
    let text := "p cnf 2 3\n1 1 -2 0\n2 -2 0\n2 1 0\n"
    let d : Dimacs := ⟨2, 3, [[1, 1, -2], [2, -2], [2, 1]]⟩
    let f := Formula.ofClauses 2 [[⟨0⟩, ⟨3⟩], [⟨0⟩, ⟨2⟩]]
    let t := (Trial.run (Weigher.direct fun _ => 0.0 / 0.0) f 5 () (start f 7)).1
    Dimacs.parse text = .ok d ∧ Formula.ofDimacs d = .ok f ∧
      (t.isSolved = true ↔ t.assignment.size = d.numVars ∧
        ∀ clause ∈ Dimacs.writtenClauses text, ∃ n ∈ clause,
          Literal.signedHolds t.assignment n = true) ∧
      (t.isSolved = false → t.flips = 5) ∧ t.flips ≤ 5 := by
  intro text d f t
  have parsed : Dimacs.parse text = .ok d := by decide
  have made : Formula.ofDimacs d = .ok f := by rfl
  exact ⟨parsed, made, run_solves_iff _ () parsed made 7 5⟩

end TrialFarm.Trial
