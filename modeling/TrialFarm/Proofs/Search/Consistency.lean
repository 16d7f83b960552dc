import TrialFarm.Proofs.Cnf.Occurrences
import TrialFarm.Proofs.Search.Tallies

/-!
# Trials are consistent

What a trial keeps up with is what one would find by looking at all clauses again: the numbers of
true literals and the clauses without any. This holds at the start and after every flip, whatever
the weights say.

## Main definitions

* `Trial.tally`: the number of true literals of a clause.
* `Trial.Consistent`: counts and lists are those of the assignment.

## Main statements

* `Trial.consistent_start`: a trial starts consistent.
* `Trial.Consistent.flip`, `Trial.Consistent.step`: flips keep it so.
* `Trial.Consistent.isSolved_iff`: what it means that no clause is listed.
-/

namespace TrialFarm.Trial

variable {f : Formula} {t : Trial} {k : Nat} {count : Nat → Nat}

/-- The number of literals of a clause that are true under an assignment. -/
def tally (a : Array Bool) (clause : List Literal) : Nat := clause.countP (·.holds a)

theorem tally_cons (a : Array Bool) (l : Literal) (clause : List Literal) :
    tally a (l :: clause) = tally a clause + if l.holds a = true then 1 else 0 :=
  List.countP_cons

/-- Counts and lists are those of the assignment, which has a value for each variable. -/
structure Consistent (f : Formula) (t : Trial) : Prop where
  assigned : t.assignment.size = f.numVars
  tallied : t.Tallied f.numClauses fun c => tally t.assignment (f.clause c)
  all : t.unsatPos.size = f.numClauses

/-! ### The start -/

/-- A count that grows by one with every literal that holds is their number in the end. -/
theorem fst_foldl_count (a : Array Bool) {step : Nat × Nat → Literal → Nat × Nat}
    (grows : ∀ p l, (step p l).1 = p.1 + if l.holds a = true then 1 else 0)
    (clause : List Literal) (p : Nat × Nat) : (clause.foldl step p).1 = p.1 + tally a clause := by
  induction clause generalizing p with
  | nil => rfl
  | cons l clause ih =>
    rw [List.foldl_cons, ih, grows, tally_cons]
    omega

/-- A survey of a clause counts its true literals. -/
theorem fst_survey (a : Array Bool) (clause : List Literal) :
    (survey a clause).1 = tally a clause := by
  rw [survey, fst_foldl_count a _ clause, Nat.zero_add]
  intro p l
  dsimp only
  split
  · rfl
  · rfl

theorem lists_enter (f : Formula) (t : Trial) (c : Nat) :
    (enter f t c).trueCount = t.trueCount.setIfInBounds c (tally t.assignment (f.clause c)) ∧
      (enter f t c).unsat =
        (if tally t.assignment (f.clause c) = 0 then t.markUnsat c else t).unsat ∧
      (enter f t c).unsatPos =
        (if tally t.assignment (f.clause c) = 0 then t.markUnsat c else t).unsatPos := by
  rw [← fst_survey]
  unfold enter
  dsimp only
  split
  · next none =>
    rw [if_pos none]
    exact ⟨rfl, rfl, rfl⟩
  · next one =>
    rw [if_neg (by omega)]
    exact ⟨rfl, rfl, rfl⟩
  · next more _ =>
    rw [if_neg more]
    exact ⟨rfl, rfl, rfl⟩

/-- The next clause is counted. -/
theorem Tallied.enter (tallied : t.Tallied k count) (inside : k < t.unsatPos.size)
    (same : count k = tally t.assignment (f.clause k)) : (enter f t k).Tallied (k + 1) count := by
  obtain ⟨counts, list, table⟩ := lists_enter f t k
  rw [← same] at counts list table
  have new : k ∉ t.unsat := by simp [tallied.listed k]
  have reach (d : Nat) : d < k + 1 ↔ d < k ∨ d = k := by omega
  have entered := tallied.join inside new reach (aside_enter f t k) counts list table
  rwa [Function.update_eq_self] at entered

/-- A trial that has not counted anything is consistent once it has entered all clauses. -/
theorem Tallied.enterAll (blank : t.Tallied 0 fun c => tally t.assignment (f.clause c))
    (assigned : t.assignment.size = f.numVars) (size : t.unsatPos.size = f.numClauses) :
    Consistent f ((List.range f.numClauses).foldl (Trial.enter f) t) := by
  have aside (k : Nat) := Aside.foldl (aside_enter f) t (List.range k)
  have entered (k : Nat) (within : k ≤ f.numClauses) :
      ((List.range k).foldl (Trial.enter f) t).Tallied k
        fun c => tally t.assignment (f.clause c) := by
    induction k with
    | zero => exact blank
    | succ k ih =>
      rw [List.range_succ, List.foldl_append, List.foldl_cons, List.foldl_nil]
      refine (ih (by omega)).enter ?_ ?_
      · rw [(aside k).size]
        omega
      · rw [(aside k).assignment]
  refine ⟨?_, ?_, ?_⟩
  · rw [(aside _).assignment, assigned]
  · rw [(aside _).assignment]
    exact entered _ (Nat.le_refl _)
  · rw [(aside _).size, size]

/-- A trial that is set up from an assignment is consistent. -/
theorem consistent_ofAssignment (f : Formula) (seed : UInt64) (random : Random) {a : Array Bool}
    (assigned : a.size = f.numVars) : Consistent f (ofAssignment f seed random a) := by
  refine Tallied.enterAll ⟨Places.empty f.numClauses, ?_, Nat.zero_le _, ?_, ?_⟩ assigned ?_
  · simp
  · exact fun c below => absurd below (Nat.not_lt_zero c)
  · simp
  · simp

theorem length_tosses (n : Nat) (r : Random) : (Random.tosses n r).1.length = n := by
  induction n generalizing r with
  | zero => rfl
  | succ n ih => simp [Random.tosses, ih]

/-- Every trial starts out consistent. -/
theorem consistent_start (f : Formula) (seed : UInt64) : Consistent f (start f seed) :=
  consistent_ofAssignment f seed _ (by simp [length_tosses])

/-! ### Flips -/

theorem getD_setIfInBounds (a : Array Bool) {v : Nat} (inside : v < a.size) (b : Bool) (u : Nat) :
    (a.setIfInBounds v b).getD u false = if v = u then b else a.getD u false := by
  simp only [Array.getD_eq_getD_getElem?, Array.getElem?_setIfInBounds]
  by_cases same : v = u
  · subst same
    simp [inside]
  · simp [same]

/-- A literal that is made true holds. -/
theorem holds_setIfInBounds {a : Array Bool} {made : Literal} (inside : made.varIndex < a.size) :
    made.holds (a.setIfInBounds made.varIndex (!made.isNegative)) = true := by
  rw [Literal.holds, getD_setIfInBounds a inside, if_pos rfl]
  cases made.isNegative <;> rfl

/-- A literal of another variable keeps its value. -/
theorem holds_setIfInBounds_of_ne {a : Array Bool} {v : Nat} {l : Literal} (inside : v < a.size)
    (other : v ≠ l.varIndex) (b : Bool) : l.holds (a.setIfInBounds v b) = l.holds a := by
  rw [Literal.holds, Literal.holds, getD_setIfInBounds a inside, if_neg other]

/-- When a literal becomes true, a clause gains it and loses its negation. -/
theorem tally_setIfInBounds {a : Array Bool} {made : Literal} (inside : made.varIndex < a.size)
    (untrue : made.holds a = false) (clause : List Literal) :
    tally (a.setIfInBounds made.varIndex (!made.isNegative)) clause + clause.count made.negate =
      tally a clause + clause.count made := by
  induction clause with
  | nil => rfl
  | cons l clause ih =>
    rw [tally_cons, tally_cons, List.count_cons, List.count_cons]
    by_cases sameVar : l.varIndex = made.varIndex
    · rcases Literal.eq_or_eq_negate sameVar with rfl | rfl
      · -- The literal itself becomes true.
        simp only [holds_setIfInBounds inside, untrue, beq_self_eq_true, if_true, beq_iff_eq,
          if_neg l.negate_ne.symm, if_neg Bool.false_ne_true]
        omega
      · -- Its negation becomes false.
        simp only [Literal.holds_negate, holds_setIfInBounds inside, untrue, beq_self_eq_true,
          if_true, beq_iff_eq, if_neg made.negate_ne, Bool.not_true, Bool.not_false,
          if_neg Bool.false_ne_true]
        omega
    · have notMade : ¬ (l == made) = true := by
        rw [beq_iff_eq]
        exact fun same => sameVar (by rw [same])
      have notNegated : ¬ (l == made.negate) = true := by
        rw [beq_iff_eq]
        exact fun same => sameVar (by rw [same, Literal.varIndex_negate])
      rw [holds_setIfInBounds_of_ne inside (Ne.symm sameVar), if_neg notMade, if_neg notNegated]
      omega

/-- Flipping a variable keeps a trial consistent. -/
theorem Consistent.flip (consistent : Consistent f t) (sound : f.Sound) {l : Literal}
    (inRange : l.varIndex < f.numVars) : Consistent f (flip f t l.var) := by
  have small : l.var.toNat < 2147483648 := l.varIndex_le
  have inside : l.var.toNat < t.assignment.size := consistent.assigned ▸ inRange
  set wasTrue := t.assignment.getD l.var.toNat false with was
  set made := Literal.of l.var wasTrue with madeTrue
  have madeVar : made.varIndex = l.var.toNat := Literal.varIndex_of small
  have madeSign : made.isNegative = wasTrue := Literal.isNegative_of small
  set a' := t.assignment.setIfInBounds l.var.toNat (!wasTrue) with flipped
  have untrue : made.holds t.assignment = false := by
    rw [Literal.holds, madeVar, madeSign, was, bne_self_eq_false]
  have tallies (c : Nat) := tally_setIfInBounds (madeVar ▸ inside) untrue (f.clause c)
  rw [madeVar, madeSign, ← flipped] at tallies
  let t₀ : Trial := { t with assignment := a' }
  let t₁ := (f.occurrencesOf made).foldl (gain l.var.toNat) t₀
  let t₂ := (f.occurrencesOf made.negate).foldl (lose l.var.toNat) t₁
  have same : Trial.flip f t l.var = t₂ := rfl
  have aside : t₀.Aside t₂ := aside_flip f t l.var
  have tallied₀ : t₀.Tallied f.numClauses fun c => tally t.assignment (f.clause c) :=
    consistent.tallied.of_eq rfl rfl rfl
  have tallied₁ := tallied₀.foldl_gain (v := l.var.toNat) fun c =>
    sound.lt_of_mem_occurrences (l := made)
  have tallied₂ := tallied₁.foldl_lose (v := l.var.toNat)
    (fun c => sound.lt_of_mem_occurrences (l := made.negate)) fun c => by
      rw [sound.count_occurrences, sound.count_occurrences]
      have := tallies c
      omega
  rw [same]
  refine ⟨?_, ?_, ?_⟩
  · rw [aside.assignment]
    simpa [t₀, a'] using consistent.assigned
  · rw [aside.assignment]
    refine tallied₂.congr fun c => ?_
    rw [sound.count_occurrences, sound.count_occurrences]
    have := tallies c
    change _ = tally a' (f.clause c)
    omega
  · rw [aside.size]
    exact consistent.all

/-- A consistent trial counts as solved when every clause has a true literal. -/
theorem Consistent.isSolved_iff (consistent : Consistent f t) :
    t.isSolved = true ↔ ∀ c < f.numClauses, ∃ l ∈ f.clause c, l.holds t.assignment = true := by
  have listed := consistent.tallied.listed
  rw [isSolved, Array.isEmpty_iff]
  constructor
  · intro none c below
    have : c ∉ t.unsat := by simp [none]
    rw [listed c, not_and] at this
    exact List.countP_pos_iff.mp (Nat.pos_of_ne_zero (this below))
  · intro all
    refine Array.eq_empty_iff_forall_not_mem.mpr fun c member => ?_
    obtain ⟨below, none⟩ := (listed c).mp member
    exact absurd (List.countP_pos_iff.mpr (all c below)) (by simpa [tally] using none)

end TrialFarm.Trial
