import Mathlib.Data.List.Count
import TrialFarm.Proofs.Search.Consistency

/-!
# Critical variables and break counts

Besides counts and lists a trial keeps two more tables: for each clause the exclusive or of the
variables of its true literals, and for each variable the number of clauses that only a literal of
this variable makes true. While a flip goes through the clauses of its variable, some of them are
counted under the new assignment and the others still under the old one. So the tables are told
under a view, which has an assignment for each clause.

## Main definitions

* `Trial.trueVars`, `Trial.crux`: the variables of the true literals and their exclusive or.
* `Trial.hangsOn`: a variable whose flip breaks a clause.
* `Trial.Gauged`: all tables are those of a view.

## Main statements

* `Trial.hangsOn_iff`: count and exclusive or tell which variable a clause hangs on.
* `Trial.Gauged.gain`, `Trial.Gauged.lose`, `Trial.Gauged.enter`: one clause changes its view.
-/

namespace TrialFarm.Trial

variable {f : Formula} {t : Trial} {view : Nat → Array Bool} {a a' : Array Bool}
  {clause : List Literal} {c k v : Nat}

/-! ### The true literals of a clause -/

/-- The variables of the true literals of a clause. -/
def trueVars (a : Array Bool) (clause : List Literal) : List Nat :=
  (clause.filter (·.holds a)).map Literal.varIndex

/-- The mark of a clause: the exclusive or of the variables of its true literals. -/
def crux (a : Array Bool) (clause : List Literal) : Nat :=
  (trueVars a clause).foldr (· ^^^ ·) 0

/-- Whether the only true literal of a clause is one of the variable. -/
def hangsOn (a : Array Bool) (clause : List Literal) (v : Nat) : Bool :=
  trueVars a clause == [v]

/-- A clause has as many true variables as true literals. -/
theorem length_trueVars (a : Array Bool) (clause : List Literal) :
    (trueVars a clause).length = tally a clause := by
  rw [trueVars, List.length_map, tally, List.countP_eq_length_filter]

theorem crux_cons (a : Array Bool) (l : Literal) (clause : List Literal) :
    crux a (l :: clause) =
      if l.holds a = true then l.varIndex ^^^ crux a clause else crux a clause := by
  by_cases true_ : l.holds a = true
  · simp [crux, trueVars, true_]
  · simp [crux, trueVars, true_]

/-- A clause without true literals has the mark 0. -/
theorem crux_of_tally_zero (none : tally a clause = 0) : crux a clause = 0 := by
  rw [← length_trueVars, List.length_eq_zero_iff] at none
  rw [crux, none, List.foldr_nil]

/-- A single true literal is one of the variable that the clause is marked with. -/
theorem hangsOn_iff : hangsOn a clause v = true ↔ tally a clause = 1 ∧ crux a clause = v := by
  rw [hangsOn, beq_iff_eq, ← length_trueVars, crux]
  constructor
  · intro single
    simp [single]
  · rintro ⟨one, rfl⟩
    obtain ⟨u, single⟩ := List.length_eq_one_iff.mp one
    simp [single]

/-- The mark of a clause with a single true literal is the variable of one of its literals. -/
theorem exists_of_tally_one (one : tally a clause = 1) :
    ∃ l ∈ clause, l.holds a = true ∧ crux a clause = l.varIndex := by
  rw [← length_trueVars] at one
  obtain ⟨u, single⟩ := List.length_eq_one_iff.mp one
  have member : u ∈ trueVars a clause := by simp [single]
  obtain ⟨l, kept, rfl⟩ := List.mem_map.mp member
  obtain ⟨inside, held⟩ := List.mem_filter.mp kept
  exact ⟨l, inside, held, by simp [crux, single]⟩

/-- A clause hangs on a variable when it has one true literal, of that variable. -/
theorem toNat_hangsOn (a : Array Bool) (clause : List Literal) (u : Nat) :
    (hangsOn a clause u).toNat = if tally a clause = 1 ∧ crux a clause = u then 1 else 0 := by
  split
  · next hangs => rw [hangsOn_iff.mpr hangs, Bool.toNat_true]
  · next free => rw [Bool.eq_false_iff.mpr (mt hangsOn_iff.mp free), Bool.toNat_false]

/-- A survey of a clause ends with the variables of its true literals folded together. -/
theorem snd_survey (a : Array Bool) (clause : List Literal) :
    (survey a clause).2 = crux a clause := by
  have folded (n x : Nat) : (clause.foldl (fun (p : Nat × Nat) l =>
      if l.holds a then (p.1 + 1, p.2 ^^^ l.varIndex) else (p.1, p.2)) (n, x)).2 =
        x ^^^ crux a clause := by
    induction clause generalizing n x with
    | nil => simp [crux, trueVars]
    | cons l clause ih =>
      rw [List.foldl_cons, crux_cons]
      split
      · rw [ih, Nat.xor_assoc]
      · rw [ih]
  have := folded 0 0
  rwa [Nat.zero_xor] at this

/-! ### The other value of a variable -/

/-- The assignment with the other value of one variable. -/
def flipped (a : Array Bool) (v : Nat) : Array Bool :=
  a.setIfInBounds v (!a.getD v false)

section Flipped

variable {l : Literal} {n : Nat}

/-- A literal of the flipped variable changes its value. -/
theorem holds_flipped (inside : l.varIndex < a.size) :
    l.holds (flipped a l.varIndex) = !l.holds a := by
  rw [flipped, Literal.holds, Literal.holds, getD_setIfInBounds a inside, if_pos rfl]
  cases a.getD l.varIndex false <;> cases l.isNegative <;> rfl

/-- A clause without the variable keeps its true literals. -/
theorem trueVars_flipped (inside : v < a.size) (without : ∀ m ∈ clause, m.varIndex ≠ v) :
    trueVars (flipped a v) clause = trueVars a clause := by
  rw [trueVars, trueVars, flipped]
  congr 1
  exact List.filter_congr fun m member =>
    holds_setIfInBounds_of_ne inside (without m member).symm _

/-- Count and mark of a clause depend on its true variables alone. -/
theorem tally_eq_of_trueVars (same : trueVars a' clause = trueVars a clause) :
    tally a' clause = tally a clause ∧ crux a' clause = crux a clause := by
  rw [← length_trueVars, ← length_trueVars, crux, crux, same]
  exact ⟨rfl, rfl⟩

/-- The mark of a clause does not depend on the order of its literals. -/
theorem crux_perm {clause' : List Literal} (perm : clause.Perm clause') :
    crux a clause = crux a clause' := by
  refine ((perm.filter _).map _).foldr_eq' ?_ 0
  intro x _ y _ z
  rw [← Nat.xor_assoc, ← Nat.xor_assoc, Nat.xor_comm x y]

/-- A prepared clause holds a variable once at most. -/
theorem varIndex_ne_of_mem_erase (prepared : Formula.Prepared n clause) (member : l ∈ clause)
    {m : Literal} (other : m ∈ clause.erase l) : m.varIndex ≠ l.varIndex := by
  obtain ⟨differs, inside⟩ := prepared.nodup.mem_erase_iff.mp other
  intro sameVar
  rcases Literal.eq_or_eq_negate sameVar with rfl | rfl
  · exact differs rfl
  · exact prepared.consistent l member inside

/-- A clause with a literal of the variable gains or loses it. -/
theorem flipped_of_mem (prepared : Formula.Prepared n clause) (member : l ∈ clause)
    (inside : l.varIndex < a.size) :
    tally (flipped a l.varIndex) clause + (l.holds a).toNat =
        tally a clause + (!l.holds a).toNat ∧
      crux (flipped a l.varIndex) clause = crux a clause ^^^ l.varIndex := by
  have split := List.perm_cons_erase member
  have kept : trueVars (flipped a l.varIndex) (clause.erase l) = trueVars a (clause.erase l) :=
    trueVars_flipped inside fun m other => varIndex_ne_of_mem_erase prepared member other
  have rest := tally_eq_of_trueVars kept
  rw [tally, tally, split.countP_eq, split.countP_eq, ← tally, ← tally, crux_perm split,
    crux_perm split, tally_cons, tally_cons, crux_cons, crux_cons, holds_flipped inside, rest.1,
    rest.2]
  cases l.holds a with
  | false => simp [Nat.xor_comm]
  | true => simp [Nat.xor_comm l.varIndex]

end Flipped

/-! ### Tables under a view -/

/-- How many of the first `k` clauses, each under its own assignment, hang on a variable. -/
def breaks (f : Formula) (view : Nat → Array Bool) (k v : Nat) : Nat :=
  (List.range k).countP fun c => hangsOn (view c) (f.clause c) v

theorem breaks_succ (f : Formula) (view : Nat → Array Bool) (k v : Nat) :
    breaks f view (k + 1) v = breaks f view k v + (hangsOn (view k) (f.clause k) v).toNat := by
  rw [breaks, List.range_succ, List.countP_append, List.countP_singleton, breaks]
  cases hangsOn (view k) (f.clause k) v <;> rfl

/-- Among so many clauses no more hang on a variable. -/
theorem breaks_le (f : Formula) (view : Nat → Array Bool) (k v : Nat) : breaks f view k v ≤ k := by
  simpa [breaks] using
    List.countP_le_length (p := fun c => hangsOn (view c) (f.clause c) v) (l := List.range k)

/-- A clause that hangs on a variable is counted for it. -/
theorem breaks_pos (below : c < k) (hangs : hangsOn (view c) (f.clause c) v = true) :
    0 < breaks f view k v :=
  List.countP_pos_iff.mpr ⟨c, List.mem_range.mpr below, hangs⟩

/-- A clause that does not hang on a variable leaves room in its count. -/
theorem breaks_lt (below : c < k) (free : hangsOn (view c) (f.clause c) v = false) :
    breaks f view k v < k := by
  have fewer : breaks f view k v < (List.range k).length :=
    List.countP_lt_length_iff.mpr ⟨c, List.mem_range.mpr below, free⟩
  rwa [List.length_range] at fewer

/-- Only the clause whose view changes makes a difference. -/
theorem breaks_update (f : Formula) (view : Nat → Array Bool) (a' : Array Bool) (below : c < k)
    (u : Nat) :
    breaks f (Function.update view c a') k u + (hangsOn (view c) (f.clause c) u).toNat =
      breaks f view k u + (hangsOn a' (f.clause c) u).toNat := by
  induction k with
  | zero => exact absurd below (Nat.not_lt_zero c)
  | succ k ih =>
    rw [breaks_succ, breaks_succ]
    by_cases last : c = k
    · subst last
      have before : breaks f (Function.update view c a') c u = breaks f view c u := by
        refine List.countP_congr fun d inside => ?_
        rw [Function.update_of_ne (Nat.ne_of_lt (List.mem_range.mp inside))]
      rw [before, Function.update_self]
      omega
    · have := ih (by omega)
      rw [Function.update_of_ne (Ne.symm last)]
      omega

/-- The tables of a trial are those of a view of the first `k` clauses. -/
structure Gauged (f : Formula) (view : Nat → Array Bool) (k : Nat) (t : Trial) : Prop where
  tallied : t.Tallied k fun c => tally (view c) (f.clause c)
  all : t.unsatPos.size = f.numClauses
  marks : t.critical.size = f.numClauses
  marked : ∀ c < k, t.critical[c]? = some (crux (view c) (f.clause c))
  vars : t.breakCount.size = f.numVars
  broken : ∀ v < f.numVars, t.breakCount[v]? = some (breaks f view k v)

theorem Gauged.count (gauged : Gauged f view k t) (below : c < k) :
    t.trueCount.getD c 0 = tally (view c) (f.clause c) :=
  gauged.tallied.getD below

theorem Gauged.mark (gauged : Gauged f view k t) (below : c < k) :
    t.critical.getD c 0 = crux (view c) (f.clause c) := by
  rw [Array.getD_eq_getD_getElem?, gauged.marked c below, Option.getD_some]

theorem getElem?_set_of_some {b : Array Nat} {x : Nat} (found : b[c]? = some x) (y d : Nat) :
    (b.setIfInBounds c y)[d]? = if d = c then some y else b[d]? := by
  have inside := (Array.getElem?_eq_some_iff.mp found).1
  rw [Array.getElem?_setIfInBounds]
  by_cases same : c = d
  · simp [same, same ▸ inside]
  · simp [same, Ne.symm same]

theorem getElem?_modify_of_some {b : Array Nat} {x : Nat} (found : b[c]? = some x)
    (g : Nat → Nat) (d : Nat) :
    (b.modify c g)[d]? = if d = c then some (g x) else b[d]? := by
  rw [Array.getElem?_modify]
  by_cases same : c = d
  · subst same
    simp [found]
  · simp [same, Ne.symm same]

/-- One clause is counted under another assignment now, and the break counts follow. -/
theorem Gauged.change {t' : Trial} {n : Nat} (gauged : Gauged f view k t) (below : c < k)
    (tallied : t'.Tallied k (Function.update (fun d => tally (view d) (f.clause d)) c n))
    (count : n = tally a' (f.clause c)) (aside : t.Aside t')
    (marks : t'.critical.size = t.critical.size) (vars : t'.breakCount.size = t.breakCount.size)
    (marked : ∀ d, t'.critical[d]? =
      if d = c then some (crux a' (f.clause c)) else t.critical[d]?)
    (broken : ∀ u < f.numVars, ∃ b, t'.breakCount[u]? = some b ∧
      b + (hangsOn (view c) (f.clause c) u).toNat =
        breaks f view k u + (hangsOn a' (f.clause c) u).toNat) :
    Gauged f (Function.update view c a') k t' where
  tallied := tallied.congr fun d => by
    by_cases same : d = c
    · subst same
      rw [Function.update_self, Function.update_self, count]
    · rw [Function.update_of_ne same, Function.update_of_ne same]
  all := aside.size.trans gauged.all
  marks := marks.trans gauged.marks
  marked d inside := by
    rw [marked d]
    by_cases same : d = c
    · subst same
      rw [if_pos rfl, Function.update_self]
    · rw [if_neg same, gauged.marked d inside, Function.update_of_ne same]
  vars := vars.trans gauged.vars
  broken u inside := by
    obtain ⟨b, found, changed⟩ := broken u inside
    have updated := breaks_update f view a' below u
    rw [found]
    congr 1
    omega

/-! ### One clause -/

@[simp] theorem marks_markSat (t : Trial) (c : Nat) :
    (t.markSat c).critical = t.critical ∧ (t.markSat c).breakCount = t.breakCount := by
  unfold markSat
  dsimp only
  split
  · split <;> exact ⟨rfl, rfl⟩
  · exact ⟨rfl, rfl⟩

/-- What a clause that gains a true literal does to the marks and to the break counts. -/
theorem marks_gain (v : Nat) (t : Trial) (c : Nat) :
    (gain v t c).critical =
        (if t.trueCount.getD c 0 = 0 then t.critical.setIfInBounds c v
          else t.critical.modify c (· ^^^ v)) ∧
      (gain v t c).breakCount =
        (if t.trueCount.getD c 0 = 0 then t.breakCount.modify v (· + 1)
          else if t.trueCount.getD c 0 = 1 then
            t.breakCount.modify (t.critical.getD c 0) (· - 1)
          else t.breakCount) := by
  unfold gain
  dsimp only
  split
  · next none =>
    rw [if_pos none, if_pos none]
    simp
  · next one =>
    rw [if_neg (by omega), if_neg (by omega), if_pos one]
    exact ⟨rfl, rfl⟩
  · next more notOne =>
    rw [if_neg more, if_neg more, if_neg notOne]
    exact ⟨rfl, rfl⟩

/-- A clause gains a true literal. -/
theorem Gauged.gain (gauged : Gauged f view k t) (below : c < k)
    (count : tally a' (f.clause c) = tally (view c) (f.clause c) + 1)
    (mark : crux a' (f.clause c) = crux (view c) (f.clause c) ^^^ v) :
    Gauged f (Function.update view c a') k (gain v t c) := by
  obtain ⟨critical, breakCount⟩ := marks_gain v t c
  rw [gauged.count below] at critical breakCount
  rw [gauged.mark below] at breakCount
  refine gauged.change below (gauged.tallied.gain below) count.symm (aside_gain v t c) ?_ ?_
    (fun d => ?_) fun u var => ?_
  · rw [critical]
    split <;> simp
  · rw [breakCount]
    split
    · simp
    · split <;> simp
  · rw [critical, mark]
    split
    · next none =>
      rw [getElem?_set_of_some (gauged.marked c below), crux_of_tally_zero none, Nat.zero_xor]
    · rw [getElem?_modify_of_some (gauged.marked c below)]
  · have found := gauged.broken u var
    rw [breakCount, toNat_hangsOn, toNat_hangsOn, count, mark]
    split
    · -- The clause hangs on the new literal.
      next none =>
      rw [Array.getElem?_modify, found, none, crux_of_tally_zero none, Nat.zero_xor]
      by_cases here : v = u <;> simp [here]
    · split
      · -- The clause no longer hangs on the literal that was the only true one.
        next one =>
        rw [Array.getElem?_modify, found, one]
        by_cases here : crux (view c) (f.clause c) = u
        · have := breaks_pos below (hangsOn_iff.mpr ⟨one, here⟩)
          simp [here]
          omega
        · simp [here]
      · next more notOne => simp [found, more, notOne]

/-- What a clause that loses a true literal does to the marks and to the break counts. -/
theorem marks_lose (v : Nat) (t : Trial) (c : Nat) :
    (lose v t c).critical = t.critical.modify c (· ^^^ v) ∧
      (lose v t c).breakCount =
        (if t.trueCount.getD c 0 - 1 = 0 then t.breakCount.modify v (· - 1)
          else if t.trueCount.getD c 0 - 1 = 1 then
            t.breakCount.modify ((t.critical.modify c (· ^^^ v)).getD c 0) (· + 1)
          else t.breakCount) := by
  unfold lose
  dsimp only
  split
  · next none =>
    rw [if_pos none]
    exact ⟨rfl, rfl⟩
  · next one =>
    rw [if_neg (by omega), if_pos one]
    exact ⟨rfl, rfl⟩
  · next more notOne =>
    rw [if_neg more, if_neg notOne]
    exact ⟨rfl, rfl⟩

/-- A clause without true literals hung on the one that it lost. -/
theorem crux_eq_of_lost (none : tally a' clause = 0) (mark : crux a' clause = crux a clause ^^^ v) :
    crux a clause = v := by
  rwa [crux_of_tally_zero none, eq_comm, Nat.xor_eq_zero_iff] at mark

/-- The mark of a clause after the variable came into it or left it. -/
theorem Gauged.remarked (gauged : Gauged f view k t) (below : c < k)
    (mark : crux a' (f.clause c) = crux (view c) (f.clause c) ^^^ v) :
    (t.critical.modify c (· ^^^ v))[c]? = some (crux a' (f.clause c)) := by
  rw [getElem?_modify_of_some (gauged.marked c below), if_pos rfl, mark]

/-- A clause loses a true literal. -/
theorem Gauged.lose (gauged : Gauged f view k t) (below : c < k)
    (count : tally (view c) (f.clause c) = tally a' (f.clause c) + 1)
    (mark : crux a' (f.clause c) = crux (view c) (f.clause c) ^^^ v) :
    Gauged f (Function.update view c a') k (lose v t c) := by
  obtain ⟨critical, breakCount⟩ := marks_lose v t c
  have after : (t.critical.modify c (· ^^^ v)).getD c 0 = crux a' (f.clause c) := by
    rw [Array.getD_eq_getD_getElem?, gauged.remarked below mark, Option.getD_some]
  rw [gauged.count below, count, Nat.add_sub_cancel, after] at breakCount
  refine gauged.change below (gauged.tallied.lose below (by omega))
    (by rw [count, Nat.add_sub_cancel]) (aside_lose v t c) ?_ ?_ (fun d => ?_) fun u var => ?_
  · simp [critical]
  · rw [breakCount]
    split
    · simp
    · split <;> simp
  · rw [critical, mark, getElem?_modify_of_some (gauged.marked c below)]
  · have found := gauged.broken u var
    rw [breakCount, toNat_hangsOn, toNat_hangsOn, count]
    split
    · -- The clause hung on the literal that became false.
      next none =>
      have hung := crux_eq_of_lost none mark
      rw [Array.getElem?_modify, found, none, hung]
      by_cases here : v = u
      · have := breaks_pos below (hangsOn_iff.mpr ⟨by rw [count, none], hung.trans here⟩)
        simp [here]
        omega
      · simp [here]
    · split
      · -- The clause hangs on the literal that is left.
        next one =>
        rw [Array.getElem?_modify, found, one]
        by_cases here : crux a' (f.clause c) = u <;> simp [here]
      · next more notOne => simp [found, more, notOne]

/-- What a clause that is entered does to the marks and to the break counts. -/
theorem marks_enter (f : Formula) (t : Trial) (c : Nat) :
    (enter f t c).critical = t.critical.setIfInBounds c (crux t.assignment (f.clause c)) ∧
      (enter f t c).breakCount =
        if tally t.assignment (f.clause c) = 1 then
          t.breakCount.modify (crux t.assignment (f.clause c)) (· + 1)
        else t.breakCount := by
  rw [← fst_survey, ← snd_survey]
  unfold enter
  dsimp only
  split
  · next none =>
    rw [if_neg (by omega)]
    exact ⟨rfl, rfl⟩
  · next one =>
    rw [if_pos one]
    exact ⟨rfl, rfl⟩
  · next notOne =>
    rw [if_neg notOne]
    exact ⟨rfl, rfl⟩

/-- The next clause is counted. -/
theorem Gauged.enter (gauged : Gauged f view k t) (inside : k < f.numClauses)
    (same : view k = t.assignment) : Gauged f view (k + 1) (enter f t k) := by
  obtain ⟨critical, breakCount⟩ := marks_enter f t k
  rw [← same] at critical breakCount
  constructor
  · exact gauged.tallied.enter (by rw [gauged.all]; exact inside) (by rw [same])
  · rw [(aside_enter f t k).size, gauged.all]
  · rw [critical, Array.size_setIfInBounds, gauged.marks]
  · intro c below
    rw [critical, Array.getElem?_setIfInBounds]
    by_cases last : k = c
    · subst last
      simp [gauged.marks, inside]
    · rw [if_neg last]
      exact gauged.marked c (by omega)
  · rw [breakCount]
    split <;> simp [gauged.vars]
  · intro u var
    rw [breakCount, breaks_succ, toNat_hangsOn]
    split
    · next one =>
      rw [Array.getElem?_modify, gauged.broken u var]
      by_cases here : crux (view k) (f.clause k) = u <;> simp [here, one]
    · next notOne => simp [gauged.broken u var, notOne]

end TrialFarm.Trial
