import Mathlib.Data.Nat.Bitwise
import TrialFarm.Cnf.Literal

/-!
# Packed literals

A word holds a variable and a polarity and nothing else, so literals may be taken apart and put
together again. What a literal says of an assignment is what its signed number says.

## Main definitions

* `Literal.signedHolds`: the truth of a signed number under an assignment.

## Main statements

* `Literal.code_toNat`: the word of a literal.
* `Literal.ext_iff_parts`: a literal is its variable and its polarity.
* `Literal.holds_of_ofSigned`: packing keeps the meaning.
-/

namespace TrialFarm.Literal

variable {l m : Literal} {v : UInt32} {negative : Bool}

/-- The truth of a signed number, as a literal is written, under an assignment. -/
def signedHolds (assignment : Array Bool) (n : Int) : Bool :=
  assignment.getD (n.natAbs - 1) false == decide (0 < n)

theorem varIndex_eq (l : Literal) : l.varIndex = l.code.toNat / 2 := by
  simp [varIndex, var, UInt32.toNat_shiftRight, Nat.shiftRight_eq_div_pow]

theorem isNegative_eq (l : Literal) : l.isNegative = decide (l.code.toNat % 2 = 1) := by
  simp only [isNegative, beq_eq_decide, ← UInt32.toNat_inj, UInt32.toNat_and]
  simp [Nat.and_one_is_mod]

/-- The word of a literal is twice its variable, plus one if it is negated. -/
theorem code_toNat (l : Literal) : l.code.toNat = 2 * l.varIndex + l.isNegative.toNat := by
  rw [varIndex_eq, isNegative_eq]
  rcases Nat.mod_two_eq_zero_or_one l.code.toNat with even | odd
  · simp [even]
    omega
  · simp [odd]
    omega

theorem index_eq (l : Literal) : l.index = 2 * l.varIndex + l.isNegative.toNat :=
  l.code_toNat

/-- A table with two places for every variable has one for each of its literals. -/
theorem index_lt {n : Nat} (inRange : l.varIndex < n) : l.index < n * 2 := by
  rw [index_eq]
  cases l.isNegative <;> simp <;> omega

theorem varIndex_le (l : Literal) : l.varIndex < 2147483648 := by
  have := l.code.toNat_lt
  rw [varIndex_eq]
  omega

/-- A literal is its variable and its polarity. -/
theorem ext_iff_parts : l = m ↔ l.varIndex = m.varIndex ∧ l.isNegative = m.isNegative := by
  constructor
  · rintro rfl
    exact ⟨rfl, rfl⟩
  · rintro ⟨sameVar, sameSign⟩
    have sameCode : l.code.toNat = m.code.toNat := by
      rw [code_toNat, code_toNat, sameVar, sameSign]
    cases l
    cases m
    exact congrArg mk (UInt32.toNat_inj.mp sameCode)

/-- No two literals share an index. -/
theorem index_inj : l.index = m.index ↔ l = m := by
  constructor
  · intro same
    cases l
    cases m
    exact congrArg mk (UInt32.toNat_inj.mp same)
  · rintro rfl
    rfl

theorem code_of (small : v.toNat < 2147483648) :
    (of v negative).code.toNat = 2 * v.toNat + negative.toNat := by
  have shifted : (v <<< 1).toNat = 2 * v.toNat := by
    rw [UInt32.toNat_shiftLeft]
    simp [Nat.shiftLeft_eq]
    omega
  cases negative with
  | false => simp [of, shifted]
  | true =>
    rw [of, if_pos rfl, UInt32.toNat_or, shifted]
    simpa using (Nat.two_pow_add_eq_or_of_lt (i := 1) (b := 1) (by decide) v.toNat).symm

theorem varIndex_of (small : v.toNat < 2147483648) : (of v negative).varIndex = v.toNat := by
  rw [varIndex_eq, code_of small]
  cases negative with
  | false => simp
  | true =>
    simp
    omega

theorem isNegative_of (small : v.toNat < 2147483648) : (of v negative).isNegative = negative := by
  rw [isNegative_eq, code_of small]
  cases negative with
  | false => simp
  | true => simp

theorem code_negate (l : Literal) :
    l.negate.code.toNat = 2 * l.varIndex + (!l.isNegative).toNat := by
  have parts := l.code_toNat
  rw [negate, UInt32.toNat_xor, parts]
  change (2 * l.varIndex + l.isNegative.toNat) ^^^ 1 = _
  cases l.isNegative with
  | false => simp
  | true =>
    have odd : Odd (2 * l.varIndex + 1) := ⟨l.varIndex, rfl⟩
    simpa using Nat.xor_one_of_odd odd

@[simp] theorem varIndex_negate (l : Literal) : l.negate.varIndex = l.varIndex := by
  rw [varIndex_eq, code_negate]
  cases l.isNegative with
  | false =>
    simp
    omega
  | true => simp

@[simp] theorem isNegative_negate (l : Literal) : l.negate.isNegative = !l.isNegative := by
  rw [isNegative_eq, code_negate]
  cases l.isNegative with
  | false => simp
  | true => simp

theorem negate_ne (l : Literal) : l.negate ≠ l := by
  intro same
  have := l.isNegative_negate
  rw [same] at this
  cases sign : l.isNegative <;> simp [sign] at this

/-- A variable has two literals. -/
theorem eq_or_eq_negate (sameVar : m.varIndex = l.varIndex) : m = l ∨ m = l.negate := by
  by_cases sameSign : m.isNegative = l.isNegative
  · exact Or.inl (ext_iff_parts.mpr ⟨sameVar, sameSign⟩)
  · refine Or.inr (ext_iff_parts.mpr ⟨sameVar.trans l.varIndex_negate.symm, ?_⟩)
    rw [isNegative_negate]
    cases sign : l.isNegative <;> simpa [sign] using sameSign

/-- A negated literal has the other value. -/
@[simp] theorem holds_negate (l : Literal) (a : Array Bool) : l.negate.holds a = !l.holds a := by
  rw [holds, holds, varIndex_negate, isNegative_negate]
  cases a.getD l.varIndex false <;> cases l.isNegative <;> rfl

/-- The literal of a number has its variable and its sign. -/
theorem ofSigned_eq_some {n : Int} (read : ofSigned n = some l) :
    l.varIndex = n.natAbs - 1 ∧ l.isNegative = decide (n < 0) ∧ n ≠ 0 := by
  unfold ofSigned at read
  split at read
  · cases read
  · next inRange =>
    rw [not_or] at inRange
    obtain ⟨nonzero, few⟩ := inRange
    rw [maxVars] at few
    have exact : (UInt32.ofNat (n.natAbs - 1)).toNat = n.natAbs - 1 := by
      rw [UInt32.toNat_ofNat_of_lt']
      have : UInt32.size = 4294967296 := rfl
      omega
    obtain rfl := Option.some.inj read
    refine ⟨?_, ?_, nonzero⟩
    · rw [varIndex_of (by omega), exact]
    · exact isNegative_of (by omega)

/-- Packing keeps the meaning. -/
theorem holds_of_ofSigned {n : Int} (read : ofSigned n = some l) (a : Array Bool) :
    l.holds a = signedHolds a n := by
  obtain ⟨sameVar, sameSign, nonzero⟩ := ofSigned_eq_some read
  rw [holds, signedHolds, sameVar, sameSign]
  by_cases positive : 0 < n
  · have : ¬ n < 0 := by omega
    simp [positive, this]
  · have : n < 0 := by omega
    simp [positive, this]

end TrialFarm.Literal
