import TrialFarm.Proofs.Cnf.Preparation

/-!
# The table of occurrences

A formula is searched through its clauses and through its table of occurrences, and the two say the
same: the table has a place for every literal of its variables, and the list at this place names
exactly the clauses that hold the literal. The places are words of literals, which is safe since a
word is a variable and a polarity and nothing else.

## Main statements

* `Formula.Sound.mem_occurrences_iff`: a list names the clauses that hold its literal.
* `Formula.maxOccurrences_attained`: the longest list is there.
* `Formula.occurrences_exact`: all of this together.
-/

namespace TrialFarm

namespace Literal

variable {l : Literal} {v : UInt32} {negative : Bool} {n : Nat}

theorem var_of (small : v.toNat < 2147483648) : (of v negative).var = v :=
  UInt32.toNat_inj.mp (varIndex_of small)

@[simp] theorem var_negate (l : Literal) : l.negate.var = l.var :=
  UInt32.toNat_inj.mp l.varIndex_negate

@[simp] theorem negate_negate (l : Literal) : l.negate.negate = l :=
  ext_iff_parts.mpr ⟨by simp, by simp⟩

/-- A word with a small number is the literal of a small variable. -/
theorem varIndex_ofNat (few : n ≤ maxVars) {i : Nat} (inside : i < n * 2) :
    (Literal.mk (UInt32.ofNat i)).index = i ∧ (Literal.mk (UInt32.ofNat i)).varIndex < n := by
  have word : (UInt32.ofNat i).toNat = i := by
    rw [maxVars] at few
    have : UInt32.size = 4294967296 := rfl
    exact UInt32.toNat_ofNat_of_lt' (by omega)
  refine ⟨word, ?_⟩
  rw [varIndex_eq, word]
  omega

end Literal

namespace Formula

variable {d : Dimacs} {f : Formula} {l : Literal}

/-! ### The lists -/

/-- A list names exactly the clauses that hold its literal. -/
theorem Sound.mem_occurrences_iff (sound : f.Sound) {i : Nat} :
    i ∈ f.occurrencesOf l ↔ ∃ c, f.clauses[i]? = some c ∧ l ∈ c := by
  rw [sound.mem_occurrences, clause, Array.getD_eq_getD_getElem?]
  cases f.clauses[i]? <;> simp

/-- A list names its clauses in order, and each once. -/
theorem Sound.sorted_occurrences (sound : f.Sound) (l : Literal) :
    (f.occurrencesOf l).Pairwise (· < ·) := by
  rw [sound.occurrences l]
  exact List.pairwise_lt_range.filter _

/-! ### The longest list -/

/-- A maximum that is computed from left to right is the start or one of the numbers. -/
theorem foldl_max_length (lists : List (List Nat)) (least : Nat) :
    let most := lists.foldl (fun most list => max most list.length) least
    least ≤ most ∧ (∀ list ∈ lists, list.length ≤ most) ∧
      (most = least ∨ ∃ list ∈ lists, list.length = most) := by
  induction lists generalizing least with
  | nil => simp
  | cons first rest ih =>
    obtain ⟨lower, upper, attained⟩ := ih (max least first.length)
    simp only [List.foldl_cons, List.forall_mem_cons, List.exists_mem_cons_iff]
    refine ⟨by omega, ⟨by omega, upper⟩, ?_⟩
    rcases attained with same | later
    · rw [same]
      omega
    · exact Or.inr (Or.inr later)

/-- No list of occurrences is longer than the longest one. -/
theorem length_occurrencesOf_le (f : Formula) (l : Literal) :
    (f.occurrencesOf l).length ≤ f.maxOccurrences := by
  rw [occurrencesOf, maxOccurrences, ← Array.foldl_toList, Array.getD_eq_getD_getElem?]
  by_cases inside : l.index < f.occurrences.size
  · rw [Array.getElem?_eq_getElem inside, Option.getD_some]
    exact (foldl_max_length _ 0).2.1 _ (Array.getElem_mem_toList inside)
  · rw [Array.getElem?_eq_none (Nat.not_lt.mp inside), Option.getD_none]
    exact Nat.zero_le _

/-- The longest list is that of some literal, unless there are none. -/
theorem maxOccurrences_attained (table : f.occurrences.size = f.numVars * 2)
    (few : f.numVars ≤ Literal.maxVars) (some : 0 < f.numVars) :
    ∃ l : Literal, l.varIndex < f.numVars ∧ (f.occurrencesOf l).length = f.maxOccurrences := by
  have attained := (foldl_max_length f.occurrences.toList 0).2.2
  rw [Array.foldl_toList] at attained
  change f.maxOccurrences = 0 ∨ ∃ list ∈ f.occurrences.toList, list.length = f.maxOccurrences
    at attained
  rcases attained with none | ⟨list, member, longest⟩
  · -- Every list is empty then, and the first one is as good as any.
    obtain ⟨-, inRange⟩ := Literal.varIndex_ofNat few (i := 0) (by omega)
    have short := f.length_occurrencesOf_le ⟨UInt32.ofNat 0⟩
    exact ⟨_, inRange, by omega⟩
  · obtain ⟨i, inside, rfl⟩ := List.getElem_of_mem member
    rw [Array.length_toList, table] at inside
    obtain ⟨place, inRange⟩ := Literal.varIndex_ofNat few inside
    refine ⟨_, inRange, ?_⟩
    rw [← longest, occurrencesOf, place, Array.getD_eq_getD_getElem?,
      Array.getElem?_eq_getElem (table ▸ inside), Option.getD_some, Array.getElem_toList]

theorem maxOccurrences_of_empty (table : f.occurrences.size = 0) : f.maxOccurrences = 0 := by
  rw [maxOccurrences, Array.eq_empty_of_size_eq_zero table]
  rfl

/-- In a formula of a written one with fewer than `2 ^ 32` clauses the table has a place for each
literal of each variable. The list there names exactly the clauses that hold the literal, in
increasing order and so each once, by numbers that fit into a word. The longest list is there, and
none is longer. A literal gives back the variable and the polarity that were packed into it, its
negation differs in the polarity alone and is undone by another one, and no two literals have the
same place. -/
theorem occurrences_exact (made : ofDimacs d = .ok f) (few : f.numClauses < 2 ^ 32) :
    (f.occurrences.size = 2 * f.numVars ∧
      ∀ l : Literal, l.varIndex < f.numVars → l.index < f.occurrences.size ∧
        (∀ i, i ∈ f.occurrencesOf l ↔ ∃ c, f.clauses[i]? = some c ∧ l ∈ c) ∧
        (f.occurrencesOf l).Pairwise (· < ·) ∧ ∀ i ∈ f.occurrencesOf l, i < 2 ^ 32) ∧
    ((∀ l : Literal, l.varIndex < f.numVars → (f.occurrencesOf l).length ≤ f.maxOccurrences) ∧
      (0 < f.numVars → ∃ l : Literal,
        l.varIndex < f.numVars ∧ (f.occurrencesOf l).length = f.maxOccurrences) ∧
      (f.numVars = 0 → f.maxOccurrences = 0)) ∧
    (∀ v : UInt32, v.toNat < 2 ^ 31 → ∀ negative,
      (Literal.of v negative).var = v ∧ (Literal.of v negative).isNegative = negative) ∧
    (∀ l : Literal, l.negate.negate = l ∧ l.negate.var = l.var ∧
      l.negate.isNegative = !l.isNegative) ∧
    ∀ l m : Literal, l ≠ m → l.index ≠ m.index := by
  have sound := sound_of_ofDimacs made
  have table := size_occurrences made
  have packed : f.numVars ≤ Literal.maxVars := by
    rw [numVars_of_ofDimacs made]
    exact (exists_ofDimacs_iff.mp ⟨f, made⟩).1
  refine ⟨⟨by omega, fun l inRange => ⟨?_, fun i => sound.mem_occurrences_iff,
    sound.sorted_occurrences l, fun i listed => ?_⟩⟩, ⟨fun l _ => f.length_occurrencesOf_le l,
    maxOccurrences_attained table packed, fun none => ?_⟩, fun v small negative => ?_,
    fun l => ⟨l.negate_negate, l.var_negate, l.isNegative_negate⟩,
    fun l m => mt Literal.index_inj.mp⟩
  · rw [table]
    exact Literal.index_lt inRange
  · exact Nat.lt_trans (sound.lt_of_mem_occurrences listed) few
  · exact maxOccurrences_of_empty (by omega)
  · exact ⟨Literal.var_of small, Literal.isNegative_of small⟩

/-- Of three clauses the second is always true and is left out, so that the third one is the second
of the formula. The third variable occurs in both, the second one in none without a negation. -/
theorem occurrences_exact_leftOut :
    let d : Dimacs := ⟨3, 3, [[3, -2, 3], [2, 1, -2], [-1, 3]]⟩
    let f := ofClauses 3 [[⟨3⟩, ⟨4⟩], [⟨1⟩, ⟨4⟩]]
    ofDimacs d = .ok f ∧ f.numClauses < 2 ^ 32 ∧ 1 ∈ f.occurrencesOf (.of 2 false) ∧
      1 ∉ f.occurrencesOf (.of 1 false) ∧
      ∃ l : Literal, l.varIndex < 3 ∧ (f.occurrencesOf l).length = f.maxOccurrences := by
  intro d f
  have made : ofDimacs d = .ok f := by rfl
  have few : f.numClauses < 2 ^ 32 := by decide
  obtain ⟨⟨-, listed⟩, ⟨-, longest, -⟩, -⟩ := occurrences_exact made few
  obtain ⟨-, third, -⟩ := listed (.of 2 false) (by decide)
  obtain ⟨-, second, -⟩ := listed (.of 1 false) (by decide)
  refine ⟨made, few, (third 1).mpr ⟨_, rfl, by decide⟩, ?_, longest (by decide)⟩
  rw [second 1]
  rintro ⟨c, here, member⟩
  cases here
  exact absurd member (by decide)

end Formula

end TrialFarm
