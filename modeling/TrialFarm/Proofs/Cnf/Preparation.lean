import Mathlib.Data.List.Forall2
import TrialFarm.Proofs.Cnf.Occurrences

/-!
# Preparing a formula keeps its meaning

A written formula can be prepared exactly if its numbers fit: the variables into words, and the
literals into the variables. Then the prepared clauses are the written ones that some assignment
makes false, in order, each with its literals sorted and once. The assignments that satisfy the
prepared formula are those that satisfy the written one.

## Main definitions

* `Dimacs.Tautological`: a written clause that is always true.
* `Formula.Sorts`: a clause with the literals of a written one, sorted.

## Main statements

* `Literal.toSigned_of_ofSigned`: a literal is as good as its number.
* `Formula.exists_ofDimacs_iff`: which formulas can be prepared.
* `Formula.isTautology_of_readClause`: a clause is left out exactly if it is always true.
* `Formula.preparation_exact`: all of this together.
-/

namespace TrialFarm

namespace Literal

variable {l m : Literal} {n : Int}

theorem toSigned_of_ofSigned (read : ofSigned n = some l) : l.toSigned = n := by
  obtain ⟨sameVar, sameSign, nonzero⟩ := ofSigned_eq_some read
  rw [toSigned, sameVar, sameSign]
  split
  · next negative =>
    have : n < 0 := by simpa using negative
    omega
  · next positive =>
    have : ¬n < 0 := by simpa using positive
    omega

@[simp] theorem toSigned_negate (l : Literal) : l.negate.toSigned = -l.toSigned := by
  rw [toSigned, toSigned, varIndex_negate, isNegative_negate]
  cases l.isNegative <;> simp

theorem toSigned_inj : l.toSigned = m.toSigned ↔ l = m := by
  constructor
  · intro same
    rw [ext_iff_parts]
    unfold toSigned at same
    cases signL : l.isNegative <;> cases signM : m.isNegative <;>
      simp only [signL, signM, if_true, Bool.false_eq_true, if_false] at same
    · exact ⟨by omega, rfl⟩
    · omega
    · omega
    · exact ⟨by omega, rfl⟩
  · rintro rfl
    rfl

/-- A number is a literal if it is not zero and its variable is in range. -/
theorem ofSigned_isSome_iff : (∃ l, ofSigned n = some l) ↔ n ≠ 0 ∧ n.natAbs ≤ maxVars := by
  unfold ofSigned
  split
  · next unfit =>
    simp only [reduceCtorEq, exists_false, false_iff]
    omega
  · next fits =>
    simp only [Option.some.injEq, exists_eq', true_iff]
    omega

/-- A number that names a variable is true under an assignment if the variable has the value that
its sign tells. -/
theorem signedHolds_iff {a : Array Bool} (nonzero : n ≠ 0) (inRange : n.natAbs ≤ a.size) :
    signedHolds a n = true ↔ a[n.natAbs - 1]? = some (decide (0 < n)) := by
  have inside : n.natAbs - 1 < a.size := by omega
  rw [signedHolds, beq_iff_eq, Array.getD_eq_getD_getElem?,
    Array.getElem?_eq_getElem inside, Option.getD_some, Option.some_inj]

end Literal

/-- A written clause that holds a variable in both polarities. -/
def Dimacs.Tautological (raw : List Int) : Prop := ∃ n ∈ raw, -n ∈ raw

instance (raw : List Int) : Decidable (Dimacs.Tautological raw) :=
  inferInstanceAs (Decidable (∃ n ∈ raw, -n ∈ raw))

namespace Formula

variable {numVars : Nat} {raw : List Int} {raws : List (List Int)} {ls c : List Literal}
  {cs : List (List Literal)} {d : Dimacs} {f : Formula}

/-! ### What can be prepared -/

/-- Numbers are read as literals if each of them is one. -/
theorem exists_readLiterals_iff :
    (∃ ls, readLiterals raw = .ok ls) ↔ ∀ n ∈ raw, n ≠ 0 ∧ n.natAbs ≤ Literal.maxVars := by
  induction raw with
  | nil => simp [readLiterals]
  | cons n ns ih =>
    rw [List.forall_mem_cons, ← ih, ← Literal.ofSigned_isSome_iff, readLiterals]
    cases found : Literal.ofSigned n with
    | none => simp
    | some l =>
      cases reads : readLiterals ns with
      | error fault => simp
      | ok ls => simp

/-- A literal is in range exactly if its number is. -/
theorem inRange_iff (read : readLiterals raw = .ok ls) :
    (∀ l ∈ ls, l.varIndex < numVars) ↔ ∀ n ∈ raw, n.natAbs ≤ numVars := by
  have pairs := readLiterals_eq_ok read
  clear read
  induction pairs with
  | nil => simp
  | @cons n l ns ls found _ ih =>
    obtain ⟨sameVar, -, nonzero⟩ := Literal.ofSigned_eq_some found
    rw [List.forall_mem_cons, List.forall_mem_cons, sameVar]
    exact and_congr (by omega) ih

/-- A clause is read if it has literals and all are in range. -/
theorem exists_readClause_iff (few : numVars ≤ Literal.maxVars) :
    (∃ c, readClause numVars raw = .ok c) ↔
      raw ≠ [] ∧ ∀ n ∈ raw, n ≠ 0 ∧ n.natAbs ≤ numVars := by
  unfold readClause
  cases read : readLiterals raw with
  | error fault =>
    -- Some number is 0 or too large for every formula.
    have unread : ¬∃ ls, readLiterals raw = .ok ls := by simp [read]
    rw [exists_readLiterals_iff] at unread
    simp only [reduceCtorEq, exists_false, false_iff, not_and]
    exact fun _ fits => unread fun n member =>
      ⟨(fits n member).1, Nat.le_trans (fits n member).2 few⟩
  | ok ls =>
    have nonzero : ∀ n ∈ raw, n ≠ 0 := fun n member =>
      (exists_readLiterals_iff.mp ⟨ls, read⟩ n member).1
    have large : ls.any (fun l => numVars ≤ l.varIndex) = false ↔
        ∀ n ∈ raw, n.natAbs ≤ numVars := by
      rw [← inRange_iff read]
      simp
    have empty : ls = [] ↔ raw = [] := by
      rw [← List.length_eq_zero_iff, ← List.Forall₂.length_eq (readLiterals_eq_ok read),
        List.length_eq_zero_iff]
    have fits : (∀ n ∈ raw, n ≠ 0 ∧ n.natAbs ≤ numVars) ↔ ∀ n ∈ raw, n.natAbs ≤ numVars :=
      ⟨fun all n member => (all n member).2, fun all n member => ⟨nonzero n member, all n member⟩⟩
    rw [fits, ← large, ne_eq, ← empty]
    dsimp only
    cases ls.any fun l => numVars ≤ l.varIndex with
    | true => simp
    | false => cases ls <;> simp

theorem exists_readClauses_iff :
    (∃ cs, readClauses numVars raws = .ok cs) ↔
      ∀ raw ∈ raws, ∃ c, readClause numVars raw = .ok c := by
  induction raws with
  | nil => simp [readClauses]
  | cons raw raws ih =>
    rw [List.forall_mem_cons, ← ih, readClauses]
    cases readClause numVars raw with
    | error fault => simp
    | ok c =>
      cases readClauses numVars raws with
      | error fault => simp
      | ok cs => simp

/-- A formula can be prepared exactly if its numbers fit. -/
theorem exists_ofDimacs_iff :
    (∃ f, ofDimacs d = .ok f) ↔ d.numVars ≤ Literal.maxVars ∧
      ∀ raw ∈ d.clauses, raw ≠ [] ∧ ∀ n ∈ raw, n ≠ 0 ∧ n.natAbs ≤ d.numVars := by
  unfold ofDimacs
  split
  · next many =>
    simp only [reduceCtorEq, exists_false, false_iff]
    exact fun fits => absurd fits.1 (Nat.not_le.mpr many)
  · next few =>
    have few := Nat.not_lt.mp few
    simp only [and_iff_right few, ← exists_readClause_iff few, ← exists_readClauses_iff]
    cases readClauses d.numVars d.clauses with
    | error fault => simp
    | ok cs => simp

/-! ### What comes of it -/

/-- The clause holds the literals of the written one, sorted, each once and no variable in both
polarities. -/
structure Sorts (raw : List Int) (c : List Literal) : Prop where
  same : ∀ n, n ∈ raw ↔ ∃ l ∈ c, l.toSigned = n
  sorted : c.Pairwise fun l m => l.code ≤ m.code
  once : c.Nodup
  consistent : ∀ l ∈ c, l.negate ∉ c

theorem mem_raw_iff (read : readLiterals raw = .ok ls) (n : Int) :
    n ∈ raw ↔ ∃ l ∈ ls, l.toSigned = n := by
  have pairs := readLiterals_eq_ok read
  clear read
  induction pairs with
  | nil => simp
  | cons found _ ih =>
    simp only [List.mem_cons, exists_eq_or_imp, ih, Literal.toSigned_of_ofSigned found]
    rw [eq_comm]

theorem readClause_eq_ok (read : readClause numVars raw = .ok c) :
    ∃ ls, readLiterals raw = .ok ls ∧ c = normalize ls := by
  unfold readClause at read
  split at read
  · cases read
  · next ls reads =>
    split at read
    · cases read
    · split at read
      · cases read
      · cases read
        exact ⟨ls, reads, rfl⟩

/-- A clause that is read has the literals of the numbers. -/
theorem mem_of_readClause (read : readClause numVars raw = .ok c) (n : Int) :
    n ∈ raw ↔ ∃ l ∈ c, l.toSigned = n := by
  obtain ⟨ls, reads, rfl⟩ := readClause_eq_ok read
  simp only [mem_normalize, mem_raw_iff reads]

/-- A clause is left out exactly if the written one is always true. -/
theorem isTautology_of_readClause (read : readClause numVars raw = .ok c) :
    isTautology c = true ↔ Dimacs.Tautological raw := by
  have mem := mem_of_readClause read
  rw [isTautology_iff (readClause_spec read).1]
  constructor
  · rintro ⟨l, member, negated⟩
    exact ⟨l.toSigned, (mem _).mpr ⟨l, member, rfl⟩,
      (mem _).mpr ⟨l.negate, negated, l.toSigned_negate⟩⟩
  · rintro ⟨n, member, negated⟩
    obtain ⟨l, inside, rfl⟩ := (mem n).mp member
    obtain ⟨m, inside', same⟩ := (mem _).mp negated
    rw [← Literal.toSigned_negate, Literal.toSigned_inj] at same
    exact ⟨l, inside, same ▸ inside'⟩

/-- A clause that is read and no tautology sorts the numbers. -/
theorem sorts_of_readClause (read : readClause numVars raw = .ok c)
    (varies : ¬Dimacs.Tautological raw) : Sorts raw c := by
  have sorted := (readClause_spec read).1
  refine ⟨mem_of_readClause read, sorted.imp UInt32.le_of_lt, sorted.imp Below.ne, ?_⟩
  rw [← isTautology_of_readClause read, isTautology_iff sorted] at varies
  exact fun l member negated => varies ⟨l, member, negated⟩

/-- The clauses that are kept stand in the order of the written ones. -/
theorem forall₂_of_readClauses (read : readClauses numVars raws = .ok cs) :
    List.Forall₂ Sorts (raws.filter fun raw => ¬Dimacs.Tautological raw) cs := by
  induction raws generalizing cs with
  | nil =>
    cases read
    exact .nil
  | cons raw raws ih =>
    rw [readClauses] at read
    split at read
    · cases read
    · next c first =>
      split at read
      · cases read
      · next cs rest =>
        cases read
        have always := isTautology_of_readClause first
        by_cases tautological : Dimacs.Tautological raw
        · rw [List.filter_cons_of_neg (by simpa using tautological),
            if_pos (always.mpr tautological)]
          exact ih rest
        · rw [List.filter_cons_of_pos (by simpa using tautological),
            if_neg (mt always.mp tautological)]
          exact .cons (sorts_of_readClause first tautological) (ih rest)

theorem isSatisfiedBy_iff (a : Array Bool) :
    f.isSatisfiedBy a = true ↔
      a.size = f.numVars ∧ ∀ c < f.numClauses, ∃ l ∈ f.clause c, l.holds a = true := by
  rw [isSatisfiedBy, Bool.and_eq_true, beq_iff_eq, Array.all_eq_true]
  refine and_congr_right fun _ => ?_
  simp only [List.any_eq_true]
  refine forall_congr' fun c => forall_congr' fun below => ?_
  rw [clause, Array.getD_eq_getD_getElem?, Array.getElem?_eq_getElem below, Option.getD_some]

/-- A written formula can be prepared exactly if its variables can be packed and all its clauses
hold literals, of these variables only. The prepared formula has the written clauses that are not
always true, in order, each sorted and with every variable once. An assignment satisfies it exactly
if every written clause holds a literal whose variable has the value that the sign tells. -/
theorem preparation_exact (d : Dimacs) :
    ((∃ f, ofDimacs d = .ok f) ↔ d.numVars ≤ 2 ^ 31 - 1 ∧
      ∀ raw ∈ d.clauses, raw ≠ [] ∧ ∀ n ∈ raw, n ≠ 0 ∧ n.natAbs ≤ d.numVars) ∧
    ∀ f, ofDimacs d = .ok f →
      (∀ a : Array Bool, a.size = d.numVars → (f.isSatisfiedBy a = true ↔
        ∀ raw ∈ d.clauses, ∃ n ∈ raw, a[n.natAbs - 1]? = some (decide (0 < n)))) ∧
      List.Forall₂ Sorts (d.clauses.filter fun raw => ¬Dimacs.Tautological raw)
        f.clauses.toList := by
  refine ⟨exists_ofDimacs_iff, fun f made => ⟨fun a assigned => ?_, ?_⟩⟩
  · obtain ⟨-, fits⟩ := exists_ofDimacs_iff.mp ⟨f, made⟩
    rw [isSatisfiedBy_iff, satisfies_iff made, numVars_of_ofDimacs made, and_iff_right assigned]
    refine forall_congr' fun raw => forall_congr' fun member => exists_congr fun n =>
      and_congr_right fun inside => ?_
    obtain ⟨nonzero, inRange⟩ := (fits raw member).2 n inside
    exact Literal.signedHolds_iff nonzero (assigned ▸ inRange)
  · obtain ⟨cs, read, rfl⟩ := ofDimacs_eq_ok made
    exact forall₂_of_readClauses read

/-- Of three clauses one is always true, and one holds a literal twice. -/
theorem preparation_exact_repeated :
    let d : Dimacs := ⟨3, 3, [[3, -2, 3], [2, 1, -2], [-1]]⟩
    let f := ofClauses 3 [[⟨3⟩, ⟨4⟩], [⟨1⟩]]
    ofDimacs d = .ok f ∧ f.isSatisfiedBy #[false, true, true] = true ∧
      f.isSatisfiedBy #[false, true, false] = false ∧ Sorts [3, -2, 3] [⟨3⟩, ⟨4⟩] := by
  intro d f
  have made : ofDimacs d = .ok f := by rfl
  obtain ⟨satisfied, sorts⟩ := (preparation_exact d).2 f made
  refine ⟨made, (satisfied _ rfl).mpr (by decide), ?_, ?_⟩
  · rw [Bool.eq_false_iff, ne_eq, satisfied _ rfl]
    decide
  · cases sorts with
    | cons first _ => exact first

end Formula

end TrialFarm
