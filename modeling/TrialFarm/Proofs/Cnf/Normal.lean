import TrialFarm.Cnf.Formula
import TrialFarm.Proofs.Cnf.Literals

/-!
# Prepared clauses

Preparing a clause sorts its literals and drops repetitions, which changes nothing about when it is
true. A clause that is left out holds both literals of some variable and is always true. So an
assignment satisfies the prepared clauses exactly if it satisfies the written ones.

## Main definitions

* `Formula.Below`: the order of literals by their words.
* `Formula.Prepared`: what all prepared clauses have in common.

## Main statements

* `Formula.isTautology_iff`: which clauses are left out.
* `Formula.readClauses_spec`: what comes of preparing all clauses.
-/

namespace TrialFarm.Formula

variable {l m : Literal} {c : List Literal} {numVars : Nat}

/-- The order in which the literals of a clause are kept. -/
def Below (l m : Literal) : Prop := l.code < m.code

/-- A prepared clause is sorted, not empty and not always true, and all its variables are there. -/
structure Prepared (numVars : Nat) (c : List Literal) : Prop where
  sorted : c.Pairwise Below
  nonempty : c ≠ []
  consistent : ∀ l ∈ c, l.negate ∉ c
  inRange : ∀ l ∈ c, l.varIndex < numVars

theorem Below.ne (below : Below l m) : l ≠ m := by
  rintro rfl
  exact absurd below (by simp [Below])

theorem Prepared.nodup (prepared : Prepared numVars c) : c.Nodup :=
  prepared.sorted.imp Below.ne

/-! ### Sorting -/

theorem mem_insertLiteral : m ∈ insertLiteral l c ↔ m = l ∨ m ∈ c := by
  induction c with
  | nil => simp [insertLiteral]
  | cons other rest ih =>
    rw [insertLiteral]
    split
    · simp
    · split
      · next same =>
        subst same
        simp
      · simp only [List.mem_cons, ih]
        exact or_left_comm

/-- A clause in normal form has the same literals. -/
theorem mem_normalize : m ∈ normalize c ↔ m ∈ c := by
  induction c with
  | nil => rfl
  | cons l c ih =>
    change m ∈ insertLiteral l (normalize c) ↔ _
    rw [mem_insertLiteral, ih, List.mem_cons]

theorem pairwise_insertLiteral (l : Literal) (sorted : c.Pairwise Below) :
    (insertLiteral l c).Pairwise Below := by
  induction c with
  | nil => simp [insertLiteral]
  | cons other rest ih =>
    rw [List.pairwise_cons] at sorted
    rw [insertLiteral]
    split
    · next first =>
      refine List.pairwise_cons.mpr ⟨fun m member => ?_, List.pairwise_cons.mpr sorted⟩
      rcases List.mem_cons.mp member with rfl | later
      · exact first
      · exact UInt32.lt_trans first (sorted.1 m later)
    · next notFirst =>
      split
      · exact List.pairwise_cons.mpr sorted
      · next different =>
        refine List.pairwise_cons.mpr ⟨fun m member => ?_, ih sorted.2⟩
        rcases mem_insertLiteral.mp member with rfl | later
        · have : m.code.toNat ≠ other.code.toNat := fun same =>
            different (Literal.index_inj.mp same)
          simp only [Below, UInt32.lt_iff_toNat_lt] at notFirst ⊢
          omega
        · exact sorted.1 m later

/-- A clause in normal form is sorted. -/
theorem pairwise_normalize (c : List Literal) : (normalize c).Pairwise Below := by
  induction c with
  | nil => exact List.Pairwise.nil
  | cons l c ih => exact pairwise_insertLiteral l ih

/-! ### Clauses that are always true -/

/-- Of two literals of one variable the first one in order is the other one's negation. -/
theorem negate_of_below (below : Below l m) (sameVar : m.varIndex = l.varIndex) :
    m = l.negate := by
  have order : l.code.toNat < m.code.toNat := below
  rw [l.code_toNat, m.code_toNat, sameVar] at order
  refine Literal.ext_iff_parts.mpr ⟨by simpa using sameVar, ?_⟩
  rw [Literal.isNegative_negate]
  cases signL : l.isNegative <;> cases signM : m.isNegative <;> simp [signL, signM] at order ⊢

/-- Whatever follows a literal of a variable in order has a larger variable, except one literal. -/
theorem varIndex_le_of_below (below : Below l m) : l.varIndex ≤ m.varIndex := by
  have order : l.code.toNat < m.code.toNat := below
  rw [l.varIndex_eq, m.varIndex_eq]
  omega

/-- In a sorted clause the two literals of a variable are neighbours, so that looking at neighbours
finds them. -/
theorem isTautology_iff (sorted : c.Pairwise Below) :
    isTautology c = true ↔ ∃ l ∈ c, l.negate ∈ c := by
  induction c with
  | nil => simp [isTautology]
  | cons a rest ih =>
    rw [List.pairwise_cons] at sorted
    cases rest with
    | nil => simp [isTautology, a.negate_ne]
    | cons b rest =>
      have first : Below a b := sorted.1 b List.mem_cons_self
      -- What follows `a` and has the same variable leaves no room for another literal between.
      have neighbour {m : Literal} (later : m ∈ b :: rest) (sameVar : m.varIndex = a.varIndex) :
          a.var == b.var := by
        have lower := varIndex_le_of_below first
        have upper : b.varIndex ≤ m.varIndex := by
          rcases List.mem_cons.mp later with rfl | last
          · exact Nat.le_refl _
          · exact varIndex_le_of_below ((List.pairwise_cons.mp sorted.2).1 m last)
        have same : a.varIndex = b.varIndex := by omega
        exact beq_iff_eq.mpr (UInt32.toNat_inj.mp same)
      rw [isTautology, Bool.or_eq_true, ih sorted.2]
      constructor
      · rintro (same | ⟨l, member, negated⟩)
        · have sameVar : b.varIndex = a.varIndex :=
            congrArg UInt32.toNat (beq_iff_eq.mp same).symm
          exact ⟨a, List.mem_cons_self, by simp [← negate_of_below first sameVar]⟩
        · exact ⟨l, List.mem_cons_of_mem a member, List.mem_cons_of_mem a negated⟩
      · rintro ⟨l, member, negated⟩
        rcases List.mem_cons.mp member with rfl | later
        · rcases List.mem_cons.mp negated with same | later
          · exact absurd same l.negate_ne
          · exact Or.inl (neighbour later l.varIndex_negate)
        · rcases List.mem_cons.mp negated with same | later'
          · exact Or.inl (neighbour later (by rw [← same, Literal.varIndex_negate]))
          · exact Or.inr ⟨l, later, later'⟩

/-- A sorted clause that is found tautological holds under every assignment. -/
theorem holds_of_isTautology (sorted : c.Pairwise Below) (always : isTautology c = true)
    (a : Array Bool) : ∃ l ∈ c, l.holds a = true := by
  obtain ⟨l, member, negated⟩ := (isTautology_iff sorted).mp always
  by_cases true : l.holds a = true
  · exact ⟨l, member, true⟩
  · exact ⟨l.negate, negated, by simpa using true⟩

/-! ### Reading clauses -/

/-- Literals that are read are those of the numbers, one by one. -/
theorem readLiterals_eq_ok {raw : List Int} {ls : List Literal} (read : readLiterals raw = .ok ls) :
    List.Forall₂ (fun n l => Literal.ofSigned n = some l) raw ls := by
  induction raw generalizing ls with
  | nil =>
    cases read
    exact .nil
  | cons n ns ih =>
    rw [readLiterals] at read
    split at read
    · cases read
    · next l found =>
      split at read
      · cases read
      · next rest reads =>
        cases read
        exact .cons found (ih reads)

/-- Literals that are read hold when the numbers do. -/
theorem holds_of_readLiterals {raw : List Int} {ls : List Literal}
    (read : readLiterals raw = .ok ls) (a : Array Bool) :
    (∃ l ∈ ls, l.holds a = true) ↔ ∃ n ∈ raw, Literal.signedHolds a n = true := by
  have pairs := readLiterals_eq_ok read
  clear read
  induction pairs with
  | nil => simp
  | cons found _ ih =>
    simp only [List.mem_cons, exists_eq_or_imp, ih, Literal.holds_of_ofSigned found]

/-- A clause is sorted, and true exactly when the written one is. -/
theorem readClause_spec {raw : List Int} (read : readClause numVars raw = .ok c) :
    c.Pairwise Below ∧ c ≠ [] ∧ (∀ l ∈ c, l.varIndex < numVars) ∧
      ∀ a, (∃ l ∈ c, l.holds a = true) ↔ ∃ n ∈ raw, Literal.signedHolds a n = true := by
  unfold readClause at read
  split at read
  · cases read
  · next ls reads =>
    by_cases large : ls.any (fun l => numVars ≤ l.varIndex) = true
    · rw [if_pos large] at read
      cases read
    · rw [if_neg large] at read
      by_cases none : ls.isEmpty = true
      · rw [if_pos none] at read
        cases read
      · rw [if_neg none] at read
        cases read
        refine ⟨pairwise_normalize ls, ?_, ?_, ?_⟩
        · intro empty
          refine none (List.isEmpty_iff.mpr (List.eq_nil_iff_forall_not_mem.mpr fun l member => ?_))
          rw [← mem_normalize, empty] at member
          cases member
        · intro l member
          simp only [List.any_eq_true, decide_eq_true_eq, not_exists, not_and, not_le] at large
          exact large l (mem_normalize.mp member)
        · intro a
          simp only [mem_normalize]
          exact holds_of_readLiterals reads a

/-- The prepared clauses are satisfied by the same assignments as the written ones. -/
theorem readClauses_spec {raws : List (List Int)} {cs : List (List Literal)}
    (read : readClauses numVars raws = .ok cs) :
    (∀ c ∈ cs, Prepared numVars c) ∧
      ∀ a, (∀ c ∈ cs, ∃ l ∈ c, l.holds a = true) ↔
        ∀ raw ∈ raws, ∃ n ∈ raw, Literal.signedHolds a n = true := by
  induction raws generalizing cs with
  | nil =>
    cases read
    simp
  | cons raw raws ih =>
    rw [readClauses] at read
    split at read
    · cases read
    · next c first =>
      split at read
      · cases read
      · next cs rest =>
        cases read
        obtain ⟨sorted, nonempty, inRange, same⟩ := readClause_spec first
        obtain ⟨prepared, agree⟩ := ih rest
        by_cases always : isTautology c = true
        · rw [if_pos always]
          refine ⟨prepared, fun a => ?_⟩
          have true := (same a).mp (holds_of_isTautology sorted always a)
          simp only [List.mem_cons, forall_eq_or_imp, ← agree a]
          exact ⟨fun all => ⟨true, all⟩, fun all => all.2⟩
        · rw [if_neg always]
          rw [isTautology_iff sorted] at always
          refine ⟨?_, fun a => ?_⟩
          · intro c' member
            rcases List.mem_cons.mp member with rfl | later
            · exact ⟨sorted, nonempty, fun l inside negated => always ⟨l, inside, negated⟩, inRange⟩
            · exact prepared c' later
          · simp only [List.mem_cons, forall_eq_or_imp, agree a, same a]

/-- A formula that is made from a text is made of the clauses that are read from it. -/
theorem ofDimacs_eq_ok {d : Dimacs} {f : Formula} (made : ofDimacs d = .ok f) :
    ∃ cs, readClauses d.numVars d.clauses = .ok cs ∧ f = ofClauses d.numVars cs := by
  unfold ofDimacs at made
  split at made
  · cases made
  · split at made
    · cases made
    · next cs read =>
      cases made
      exact ⟨cs, read, rfl⟩

end TrialFarm.Formula
