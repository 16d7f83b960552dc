import Mathlib.Data.List.Induction
import TrialFarm.Proofs.Cnf.Normal

/-!
# Occurrences

The table of a formula lists for every literal the clauses that hold it. It is filled clause by
clause, so a list of the table is the list of all clauses, in order, without those that do not hold
the literal.

## Main definitions

* `Formula.Sound`: the clauses are prepared and the table belongs to them.

## Main statements

* `Formula.reverse_noteClauses`: what the table holds.
* `Formula.sound_of_ofDimacs`: every formula that comes of a written one is sound.
* `Formula.satisfies_iff`: it is satisfied exactly if the written one is.
-/

namespace TrialFarm.Formula

variable {table : Array (List Nat)} {l : Literal} {c : List Literal} {cs : List (List Literal)}
  {numVars k : Nat}

/-- All clauses are prepared, and the table lists for each literal the clauses that hold it. -/
structure Sound (f : Formula) : Prop where
  prepared : ∀ c < f.numClauses, Prepared f.numVars (f.clause c)
  occurrences : ∀ l : Literal,
    f.occurrencesOf l = (List.range f.numClauses).filter fun c => l ∈ f.clause c

theorem noteClause_cons (table : Array (List Nat)) (k : Nat) (l : Literal) (c : List Literal) :
    noteClause table k (l :: c) = noteClause (table.modify l.index (k :: ·)) k c := rfl

@[simp] theorem size_noteClause : (noteClause table k c).size = table.size := by
  induction c generalizing table with
  | nil => rfl
  | cons l c ih => rw [noteClause_cons, ih, Array.size_modify]

/-- Noting a clause puts it first on the lists of its literals, and on no other. -/
theorem getD_noteClause (nodup : c.Nodup) (inRange : ∀ m ∈ c, m.index < table.size) :
    (noteClause table k c).getD l.index [] =
      if l ∈ c then k :: table.getD l.index [] else table.getD l.index [] := by
  induction c generalizing table with
  | nil => simp [noteClause]
  | cons m c ih =>
    rw [List.nodup_cons] at nodup
    have first := inRange m List.mem_cons_self
    have later : ∀ m' ∈ c, m'.index < (table.modify m.index (k :: ·)).size := fun m' member => by
      simpa using inRange m' (List.mem_cons_of_mem m member)
    rw [noteClause_cons, ih nodup.2 later]
    by_cases same : m = l
    · subst same
      simp [nodup.1, Array.getD_eq_getD_getElem?, Array.getElem_modify, first]
    · have other : m.index ≠ l.index := mt Literal.index_inj.mp same
      simp [Ne.symm same, other, Array.getD_eq_getD_getElem?, Array.getElem?_modify]

/-- The last clause is noted after the others. -/
theorem noteClauses_concat (table : Array (List Nat)) (k : Nat) (cs : List (List Literal))
    (c : List Literal) :
    noteClauses table k (cs ++ [c]) = noteClause (noteClauses table k cs) (k + cs.length) c := by
  induction cs generalizing table k with
  | nil => rfl
  | cons first cs ih =>
    simp only [List.cons_append, noteClauses, ih, List.length_cons]
    rw [Nat.add_assoc, Nat.add_comm 1]

@[simp] theorem size_noteClauses : (noteClauses table k cs).size = table.size := by
  induction cs generalizing table k with
  | nil => rfl
  | cons c cs ih => rw [noteClauses, ih, size_noteClause]

theorem Prepared.index_lt (prepared : Prepared numVars c) (member : l ∈ c) :
    l.index < numVars * 2 :=
  Literal.index_lt (prepared.inRange l member)

/-- Every list of the table, read backwards, is the list of the clauses that hold its literal. -/
theorem reverse_noteClauses (prepared : ∀ c ∈ cs, Prepared numVars c) (l : Literal) :
    ((noteClauses (Array.replicate (numVars * 2) []) 0 cs).getD l.index []).reverse =
      (List.range cs.length).filter fun i => l ∈ cs.getD i [] := by
  induction cs using List.reverseRecOn with
  | nil =>
    simp only [noteClauses, Array.getD_eq_getD_getElem?, Array.getElem?_replicate]
    split <;> rfl
  | append_singleton cs c ih =>
    have last : Prepared numVars c := prepared c (by simp)
    rw [noteClauses_concat, getD_noteClause last.nodup fun m member => by
      simpa using last.index_lt member]
    -- The clauses before the last one keep their numbers.
    have before : ((List.range cs.length).filter fun i => l ∈ (cs ++ [c]).getD i []) =
        (List.range cs.length).filter fun i => l ∈ cs.getD i [] := by
      refine List.filter_congr fun i inside => ?_
      rw [List.getD_append _ _ _ _ (List.mem_range.mp inside)]
    have ih := ih fun c' member => prepared c' (List.mem_append_left _ member)
    rw [List.length_append, List.length_singleton, List.range_succ, List.filter_append, before,
      ← ih]
    by_cases member : l ∈ c
    · simp [member]
    · simp [member]

section OfClauses

variable {i : Nat}

@[simp] theorem numClauses_ofClauses : (ofClauses numVars cs).numClauses = cs.length := by
  simp [numClauses, ofClauses]

@[simp] theorem clause_ofClauses : (ofClauses numVars cs).clause i = cs.getD i [] := by
  simp [clause, ofClauses, Array.getD_eq_getD_getElem?]

theorem sound_ofClauses (prepared : ∀ c ∈ cs, Prepared numVars c) :
    (ofClauses numVars cs).Sound where
  prepared i inside := by
    rw [numClauses_ofClauses] at inside
    rw [clause_ofClauses, List.getD_eq_getElem _ _ inside]
    exact prepared _ (List.getElem_mem inside)
  occurrences l := by
    simp only [numClauses_ofClauses, clause_ofClauses, ← reverse_noteClauses prepared l]
    simp only [occurrencesOf, ofClauses, Array.getD_eq_getD_getElem?, Array.getElem?_map]
    exact Option.getD_map List.reverse [] _

end OfClauses

variable {d : Dimacs} {f : Formula}

theorem clause_of_le {i : Nat} (beyond : f.numClauses ≤ i) : f.clause i = [] := by
  simp [clause, Array.getD_eq_getD_getElem?, Array.getElem?_eq_none beyond]

/-- A clause is in the list of a literal as often as the literal is in the clause. -/
theorem Sound.count_occurrences (sound : f.Sound) (l : Literal) (i : Nat) :
    (f.occurrencesOf l).count i = (f.clause i).count l := by
  rw [sound.occurrences l]
  by_cases inside : i < f.numClauses
  · have once : ((List.range f.numClauses).filter fun c => l ∈ f.clause c).Nodup :=
      List.nodup_range.filter _
    rw [(sound.prepared i inside).nodup.count, once.count]
    simp [inside]
  · rw [clause_of_le (Nat.not_lt.mp inside), List.count_nil, List.count_eq_zero]
    simp [inside]

theorem Sound.lt_of_mem_occurrences (sound : f.Sound) {l : Literal} {i : Nat}
    (member : i ∈ f.occurrencesOf l) : i < f.numClauses := by
  rw [sound.occurrences l, List.mem_filter, List.mem_range] at member
  exact member.1

/-- A clause is on the list of a literal if the literal is in it. -/
theorem Sound.mem_occurrences (sound : f.Sound) {l : Literal} {i : Nat} :
    i ∈ f.occurrencesOf l ↔ l ∈ f.clause i := by
  rw [← List.count_pos_iff, sound.count_occurrences, List.count_pos_iff]

/-- A clause is on the list of a literal once. -/
theorem Sound.nodup_occurrences (sound : f.Sound) (l : Literal) : (f.occurrencesOf l).Nodup := by
  rw [sound.occurrences l]
  exact List.nodup_range.filter _

theorem sound_of_ofDimacs (made : ofDimacs d = .ok f) : f.Sound := by
  obtain ⟨cs, read, rfl⟩ := ofDimacs_eq_ok made
  exact sound_ofClauses (readClauses_spec read).1

theorem numVars_of_ofDimacs (made : ofDimacs d = .ok f) : f.numVars = d.numVars := by
  obtain ⟨cs, -, rfl⟩ := ofDimacs_eq_ok made
  rfl

theorem size_occurrences (made : ofDimacs d = .ok f) : f.occurrences.size = f.numVars * 2 := by
  obtain ⟨cs, -, rfl⟩ := ofDimacs_eq_ok made
  simp [ofClauses]

/-- An assignment makes all prepared clauses true exactly if it makes all written ones true. -/
theorem satisfies_iff (made : ofDimacs d = .ok f) (a : Array Bool) :
    (∀ c < f.numClauses, ∃ l ∈ f.clause c, l.holds a = true) ↔
      ∀ raw ∈ d.clauses, ∃ n ∈ raw, Literal.signedHolds a n = true := by
  obtain ⟨cs, read, rfl⟩ := ofDimacs_eq_ok made
  rw [← (readClauses_spec read).2 a, numClauses_ofClauses]
  simp only [clause_ofClauses]
  constructor
  · intro all c member
    obtain ⟨i, inside, rfl⟩ := List.getElem_of_mem member
    have held := all i inside
    rwa [List.getD_eq_getElem _ _ inside] at held
  · intro all i inside
    rw [List.getD_eq_getElem _ _ inside]
    exact all _ (List.getElem_mem inside)

end TrialFarm.Formula
