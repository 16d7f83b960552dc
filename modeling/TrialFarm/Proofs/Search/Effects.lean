import TrialFarm.Proofs.Cnf.Table
import TrialFarm.Proofs.Search.Recomputed

/-!
# What a flip does

The break count of a variable tells how many clauses would no longer be satisfied if the variable
had its other value. So with the number of clauses that the flip mends it tells how many clauses are
unsatisfied after the flip. A step flips one variable of an unsatisfied clause, which is satisfied
then.

## Main definitions

* `Trial.satisfied`: whether a clause holds a true literal.
* `Trial.broken`, `Trial.mended`: how many clauses a flip breaks, and how many it mends.

## Main statements

* `Trial.hangsOn_iff_broken`: a clause hangs on a variable exactly if the flip breaks it.
* `Trial.satisfied_flipped`: which of the unsatisfied clauses a flip mends.
* `Trial.breaks_le_maxOccurrences`: no more clauses can break than hold one literal.
* `Trial.Faithful.numUnsat_flip`: the unsatisfied clauses after a flip.
* `Trial.breaks_predict`: all of this for the trials of a formula.
-/

namespace TrialFarm

namespace Trial

variable {f : Formula} {t : Trial} {a : Array Bool} {clause : List Literal} {n v : Nat}

/-- Whether a clause holds a true literal. -/
def satisfied (a : Array Bool) (clause : List Literal) : Bool := clause.any (·.holds a)

/-- Whether a clause holds a literal of the variable. -/
def concerns (v : Nat) (clause : List Literal) : Bool := clause.any fun l => l.varIndex == v

/-- How many clauses are satisfied, and would not be if the variable had its other value. -/
def broken (f : Formula) (a : Array Bool) (v : Nat) : Nat :=
  (List.range f.numClauses).countP fun c =>
    satisfied a (f.clause c) && !satisfied (flipped a v) (f.clause c)

/-- How many clauses are unsatisfied and hold a literal of the variable. -/
def mended (f : Formula) (a : Array Bool) (v : Nat) : Nat :=
  (List.range f.numClauses).countP fun c => !satisfied a (f.clause c) && concerns v (f.clause c)

/-! ### One clause -/

theorem satisfied_iff : satisfied a clause = true ↔ ∃ l ∈ clause, l.holds a = true :=
  List.any_eq_true

theorem satisfied_iff_tally : satisfied a clause = true ↔ 0 < tally a clause := by
  rw [satisfied_iff, tally, List.countP_pos_iff]

theorem satisfied_eq_false_iff : satisfied a clause = false ↔ tally a clause = 0 := by
  rw [Bool.eq_false_iff, ne_eq, satisfied_iff_tally]
  omega

theorem concerns_iff : concerns v clause = true ↔ ∃ l ∈ clause, l.varIndex = v := by
  simp [concerns]

/-- A clause hangs on a variable by a true literal of it. -/
theorem exists_of_hangsOn (hangs : hangsOn a clause v = true) :
    ∃ l ∈ clause, l.holds a = true ∧ l.varIndex = v := by
  obtain ⟨one, mark⟩ := hangsOn_iff.mp hangs
  obtain ⟨l, member, held, marked⟩ := exists_of_tally_one one
  exact ⟨l, member, held, marked.symm.trans mark⟩

/-- A clause hangs on a variable exactly if it is satisfied, and not once the variable has its other
value. -/
theorem hangsOn_iff_broken (prepared : Formula.Prepared n clause) (inside : v < a.size) :
    hangsOn a clause v = true ↔
      satisfied a clause = true ∧ satisfied (flipped a v) clause = false := by
  rw [satisfied_iff_tally, satisfied_eq_false_iff]
  by_cases concerned : ∃ l ∈ clause, l.varIndex = v
  · obtain ⟨l, member, rfl⟩ := concerned
    obtain ⟨count, mark⟩ := flipped_of_mem prepared member inside
    cases held : l.holds a with
    | true =>
      rw [held] at count
      simp only [Bool.toNat_true, Bool.not_true, Bool.toNat_false] at count
      rw [hangsOn_iff]
      constructor
      · rintro ⟨one, -⟩
        omega
      · rintro ⟨-, none⟩
        exact ⟨by omega, crux_eq_of_lost none mark⟩
    | false =>
      rw [held] at count
      simp only [Bool.toNat_true, Bool.not_false, Bool.toNat_false] at count
      constructor
      · -- The true literal of the variable would be the negation of the one that is there.
        intro hangs
        obtain ⟨m, other, held', sameVar⟩ := exists_of_hangsOn hangs
        rcases Literal.eq_or_eq_negate sameVar with rfl | rfl
        · rw [held] at held'
          cases held'
        · exact absurd other (prepared.consistent l member)
      · omega
  · have same : trueVars (flipped a v) clause = trueVars a clause :=
      trueVars_flipped inside fun l member sameVar => concerned ⟨l, member, sameVar⟩
    rw [(tally_eq_of_trueVars same).1]
    constructor
    · intro hangs
      obtain ⟨l, member, -, sameVar⟩ := exists_of_hangsOn hangs
      exact absurd ⟨l, member, sameVar⟩ concerned
    · omega

/-- Of the unsatisfied clauses those are satisfied by the other value of a variable that hold a
literal of it. -/
theorem satisfied_flipped (inside : v < a.size) (unsatisfied : satisfied a clause = false) :
    satisfied (flipped a v) clause = concerns v clause := by
  have untrue (l : Literal) (member : l ∈ clause) : l.holds a = false := by
    rw [Bool.eq_false_iff]
    exact fun held => by simp [satisfied_iff.mpr ⟨l, member, held⟩] at unsatisfied
  rw [Bool.eq_iff_iff, satisfied_iff, concerns_iff]
  refine exists_congr fun l => and_congr_right fun member => ?_
  constructor
  · intro held
    by_contra other
    rw [flipped, holds_setIfInBounds_of_ne inside (Ne.symm other), untrue l member] at held
    cases held
  · rintro rfl
    rw [holds_flipped inside, untrue l member, Bool.not_false]

/-! ### All clauses -/

/-- The clauses that hang on a variable are those that its flip breaks. -/
theorem breaks_eq_broken (sound : f.Sound) (inside : v < a.size) :
    breaks f (fun _ => a) f.numClauses v = broken f a v := by
  refine List.countP_congr fun c below => ?_
  have prepared := sound.prepared c (List.mem_range.mp below)
  rw [hangsOn_iff_broken prepared inside, Bool.and_eq_true, Bool.not_eq_true']

/-- No more clauses hang on a variable than hold its true literal. -/
theorem breaks_le_maxOccurrences (sound : f.Sound) (v : UInt32) (small : v.toNat < 2147483648) :
    breaks f (fun _ => a) f.numClauses v.toNat ≤ f.maxOccurrences := by
  obtain ⟨m, on, held⟩ : ∃ m : Literal, m.varIndex = v.toNat ∧ m.holds a = true := by
    refine ⟨Literal.of v (!a.getD v.toNat false), Literal.varIndex_of small, ?_⟩
    rw [Literal.holds, Literal.varIndex_of small, Literal.isNegative_of small]
    simp
  refine Nat.le_trans ?_ (f.length_occurrencesOf_le m)
  rw [sound.occurrences m, ← List.countP_eq_length_filter]
  refine List.countP_mono_left fun c below hangs => decide_eq_true ?_
  obtain ⟨l, member, held', sameVar⟩ := exists_of_hangsOn hangs
  rcases Literal.eq_or_eq_negate (sameVar.trans on.symm) with rfl | rfl
  · exact member
  · simp [held] at held'

/-- Counts that balance clause by clause balance in all. -/
theorem countP_add_countP {α : Type} {p q r u : α → Bool} {l : List α}
    (one : ∀ x ∈ l, (p x).toNat + (q x).toNat = (r x).toNat + (u x).toNat) :
    l.countP p + l.countP q = l.countP r + l.countP u := by
  induction l with
  | nil => rfl
  | cons x l ih =>
    rw [List.forall_mem_cons] at one
    have rest := ih one.2
    have counted (s : α → Bool) : (x :: l).countP s = l.countP s + (s x).toNat := by
      rw [List.countP_cons]
      cases s x <;> rfl
    rw [counted, counted, counted, counted]
    omega

/-- The unsatisfied clauses after a flip are those from before without the mended ones and with the
broken ones. -/
theorem countP_unsatisfied_flipped (f : Formula) (inside : v < a.size) :
    ((List.range f.numClauses).countP fun c => !satisfied (flipped a v) (f.clause c)) +
        mended f a v =
      ((List.range f.numClauses).countP fun c => !satisfied a (f.clause c)) + broken f a v := by
  refine countP_add_countP fun c _ => ?_
  cases before : satisfied a (f.clause c) with
  | true => simp
  | false =>
    rw [satisfied_flipped inside before]
    cases concerns v (f.clause c) <;> rfl

/-- The number of unsatisfied clauses is the true one. -/
theorem Faithful.numUnsat_eq (faithful : Faithful f t) :
    t.numUnsat =
      (List.range f.numClauses).countP fun c => !satisfied t.assignment (f.clause c) := by
  have same : t.unsat.toList.Perm
      ((List.range f.numClauses).filter fun c => !satisfied t.assignment (f.clause c)) := by
    refine (List.perm_ext_iff_of_nodup faithful.gauged.tallied.places.nodup
      (List.nodup_range.filter _)).mpr fun c => ?_
    rw [Array.mem_toList_iff, faithful.gauged.tallied.listed c, List.mem_filter, List.mem_range,
      Bool.not_eq_true', satisfied_eq_false_iff]
  rw [numUnsat, ← Array.length_toList, same.length_eq, List.countP_eq_length_filter]

/-- A flip mends no more clauses than are unsatisfied. -/
theorem mended_le (f : Formula) (a : Array Bool) (v : Nat) :
    mended f a v ≤ (List.range f.numClauses).countP fun c => !satisfied a (f.clause c) :=
  List.countP_mono_left fun _ _ both => (Bool.and_eq_true _ _ ▸ both).1

/-- A flip takes the clauses it mends off the count of unsatisfied ones and adds those it breaks. -/
theorem Faithful.numUnsat_flip (faithful : Faithful f t) (compact : f.Compact) {l : Literal}
    (inRange : l.varIndex < f.numVars) :
    (Trial.flip f t l.var).numUnsat + mended f t.assignment l.varIndex =
      t.numUnsat + broken f t.assignment l.varIndex := by
  rw [(faithful.flip compact inRange).2.numUnsat_eq, faithful.numUnsat_eq, assignment_flip]
  exact countP_unsatisfied_flipped f (faithful.assigned ▸ inRange)

/-- A step of an unsolved trial flips a variable of the clause whose turn it is, which is satisfied
then. -/
theorem Faithful.step_mends {σ : Type} (w : Weigher σ) (s : σ) (faithful : Faithful f t)
    (sound : f.Sound) (unsolved : t.isSolved = false) :
    ∃ v < f.numVars, concerns v (f.clause t.picked) = true ∧
      (Trial.step w f s t).1.assignment = flipped t.assignment v ∧
      satisfied (Trial.step w f s t).1.assignment (f.clause t.picked) = true := by
  obtain ⟨below, none⟩ := (faithful.gauged.tallied.listed _).mp (picked_mem unsolved)
  have prepared := sound.prepared _ below
  obtain ⟨l, member, stepped⟩ := step_of_clause (w := w) (s := s) unsolved prepared.nonempty
  have inRange := prepared.inRange l member
  have after : (Trial.step w f s t).1.assignment = flipped t.assignment l.varIndex := by
    rw [stepped]
    exact assignment_flip f _ l.var
  have concerned : concerns l.varIndex (f.clause t.picked) = true :=
    concerns_iff.mpr ⟨l, member, rfl⟩
  refine ⟨l.varIndex, inRange, concerned, after, ?_⟩
  rw [after, satisfied_flipped (faithful.assigned ▸ inRange) (satisfied_eq_false_iff.mpr none),
    concerned]

/-- In every trial of a formula with fewer than `2 ^ 32` clauses, whatever flips were asked of it
and whatever the weights are, the break count of a variable is the number of satisfied clauses that
the other value of this variable alone would leave unsatisfied. It is not larger than the largest
number of clauses that hold the same literal. A flip of the variable takes from the number of
unsatisfied clauses those that hold the variable, and adds the break count. A step of an unsolved
trial flips one variable, of a clause that is listed as unsatisfied, and the clause is satisfied
then. -/
theorem breaks_predict {σ : Type} (w : Weigher σ) (s : σ) {d : Dimacs} {f : Formula}
    (made : Formula.ofDimacs d = .ok f) (few : f.numClauses < 2 ^ 32) (seed : UInt64)
    (calls : List TrialCall) :
    let t := (perform w f calls s (start f seed)).1
    (∀ v : UInt32, v.toNat < f.numVars →
      t.breakCount[v.toNat]? = some (broken f t.assignment v.toNat) ∧
      broken f t.assignment v.toNat ≤ f.maxOccurrences ∧
      mended f t.assignment v.toNat ≤ t.numUnsat ∧
      (flip f t v).numUnsat =
        t.numUnsat - mended f t.assignment v.toNat + broken f t.assignment v.toNat) ∧
    (t.isSolved = false → t.picked ∈ t.unsat ∧ ∀ s', ∃ v < f.numVars,
      concerns v (f.clause t.picked) = true ∧
      (step w f s' t).1.assignment = flipped t.assignment v ∧
      satisfied (step w f s' t).1.assignment (f.clause t.picked) = true) := by
  intro t
  have compact := Formula.compact_of_ofDimacs made few
  have faithful : Faithful f t :=
    ((faithful_start compact seed).2.perform (w := w) compact calls s).2
  constructor
  · intro v inRange
    have small : v.toNat < 2147483648 := by
      have packed := (Formula.exists_ofDimacs_iff.mp ⟨f, made⟩).1
      rw [Literal.maxVars, ← Formula.numVars_of_ofDimacs made] at packed
      omega
    have inside : v.toNat < t.assignment.size := faithful.assigned ▸ inRange
    have same := breaks_eq_broken compact.toSound inside
    have lesser : mended f t.assignment v.toNat ≤ t.numUnsat :=
      faithful.numUnsat_eq ▸ mended_le f t.assignment v.toNat
    have var : (Literal.of v false).varIndex = v.toNat := Literal.varIndex_of small
    have flips := faithful.numUnsat_flip compact (l := Literal.of v false) (var ▸ inRange)
    rw [UInt32.toNat_inj.mp var, var] at flips
    refine ⟨?_, ?_, lesser, by omega⟩
    · rw [faithful.gauged.broken _ inRange, same]
    · rw [← same]
      exact breaks_le_maxOccurrences compact.toSound v small
  · exact fun unsolved => ⟨picked_mem unsolved,
      fun s' => faithful.step_mends w s' compact.toSound unsolved⟩

/-- After one step one of three clauses is unsatisfied. A flip of the second variable would mend it
and break another one. The next step mends it. -/
theorem breaks_predict_swap :
    let d : Dimacs := ⟨2, 3, [[1, 2], [-1, 2], [-2]]⟩
    let f := Formula.ofClauses 2 [[⟨0⟩, ⟨2⟩], [⟨1⟩, ⟨2⟩], [⟨3⟩]]
    let w := Weigher.direct fun _ => 1.0
    let t := (perform w f [.step] () (start f 4)).1
    Formula.ofDimacs d = .ok f ∧ f.numClauses < 2 ^ 32 ∧ t.isSolved = false ∧ t.picked = 1 ∧
      broken f t.assignment 1 = 1 ∧ mended f t.assignment 1 = 1 ∧ (flip f t 1).numUnsat = 1 ∧
      ∃ v < 2, (step w f () t).1.assignment = flipped t.assignment v ∧
        satisfied (step w f () t).1.assignment [⟨1⟩, ⟨2⟩] = true := by
  intro d f w t
  have made : Formula.ofDimacs d = .ok f := by rfl
  have few : f.numClauses < 2 ^ 32 := by decide
  have state : t.isSolved = false ∧ t.numUnsat = 1 ∧ t.picked = 1 ∧
      broken f t.assignment 1 = 1 ∧ mended f t.assignment 1 = 1 := by decide +kernel
  obtain ⟨unsolved, one, picked, breaks, mends⟩ := state
  have same : (perform w f [.step] () (start f 4)).1 = t := rfl
  have predicted := breaks_predict w () made few 4 [.step]
  rw [same] at predicted
  clear_value t
  obtain ⟨predicts, steps⟩ := predicted
  obtain ⟨-, -, -, left⟩ := predicts 1 (by decide)
  obtain ⟨-, stepped⟩ := steps unsolved
  obtain ⟨v, inRange, -, after, held⟩ := stepped ()
  refine ⟨made, few, unsolved, picked, breaks, mends, ?_, v, inRange, after, ?_⟩
  · have swapped : 1 - mended f t.assignment 1 + broken f t.assignment 1 = 1 := by
      rw [mends, breaks]
    rw [left, one]
    exact swapped
  · rw [picked] at held
    exact held

end Trial

end TrialFarm
