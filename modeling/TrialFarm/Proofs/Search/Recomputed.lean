import TrialFarm.Proofs.Search.Checked
import TrialFarm.Proofs.Search.Runs

/-!
# What a trial keeps up with

All that a trial keeps is what one would find by going through the formula again, after any number
of flips and under any weights. On the way no table is asked for a place that it does not have, and
no counter leaves its word: the checked trial gives what the trial gives.

## Main definitions

* `Trial.Faithful`: all tables are those of the assignment.
* `Trial.Recomputed`: what this means, table by table.

## Main statements

* `Trial.Gauged.sweep`: going through the clauses of a variable changes the view of all of them.
* `Trial.Faithful.flip`, `Trial.Faithful.step`: a flip does not fail and keeps all tables right.
* `Trial.incremental_exact`: neither does any sequence of calls.
-/

namespace TrialFarm.Trial

variable {f : Formula} {t t' : Trial} {view : Nat → Array Bool} {a a' : Array Bool}
  {clause : List Literal} {c k v : Nat}

/-- All tables are those of the assignment, which has a value for each variable. -/
structure Faithful (f : Formula) (t : Trial) : Prop where
  assigned : t.assignment.size = f.numVars
  gauged : Gauged f (fun _ => t.assignment) f.numClauses t

/-- Whether the tables are right depends on the tables alone. -/
theorem Gauged.of_eq (gauged : Gauged f view k t) (counts : t'.trueCount = t.trueCount)
    (critical : t'.critical = t.critical) (breakCount : t'.breakCount = t.breakCount)
    (list : t'.unsat = t.unsat) (table : t'.unsatPos = t.unsatPos) : Gauged f view k t' where
  tallied := gauged.tallied.of_eq counts list table
  all := by rw [table, gauged.all]
  marks := by rw [critical, gauged.marks]
  marked := by rw [critical]; exact gauged.marked
  vars := by rw [breakCount, gauged.vars]
  broken := by rw [breakCount]; exact gauged.broken

/-- Two views under which all clauses look the same have the same tables. -/
theorem Gauged.congr_view {view' : Nat → Array Bool} (gauged : Gauged f view k t)
    (same : ∀ c, tally (view' c) (f.clause c) = tally (view c) (f.clause c) ∧
      crux (view' c) (f.clause c) = crux (view c) (f.clause c)) : Gauged f view' k t where
  tallied := gauged.tallied.congr fun c => (same c).1.symm
  all := gauged.all
  marks := gauged.marks
  marked c below := by rw [(same c).2, gauged.marked c below]
  vars := gauged.vars
  broken v inside := by
    rw [gauged.broken v inside, breaks, breaks]
    congr 1
    refine List.countP_congr fun c _ => ?_
    rw [hangsOn_iff, hangsOn_iff, (same c).1, (same c).2]

/-- A loop that changes the view of each of its clauses once. -/
theorem Gauged.loop {step : Trial → Nat → Trial} {step? : Trial → Nat → Option Trial}
    {cs : List Nat} (gauged : Gauged f view k t) (once : cs.Nodup)
    (one : ∀ c ∈ cs, ∀ view' t, view' c = view c → Gauged f view' k t →
      step? t c = some (step t c) ∧ Gauged f (Function.update view' c a') k (step t c)) :
    cs.foldlM step? t = some (cs.foldl step t) ∧
      Gauged f (fun c => if c ∈ cs then a' else view c) k (cs.foldl step t) := by
  -- The clauses that are left are still as the view has them.
  let needs (t : Trial) (rest : List Nat) : Prop := (rest.Nodup ∧ rest ⊆ cs) ∧
    Gauged f (fun c => if c ∈ cs ∧ c ∉ rest then a' else view c) k t
  have start : needs t cs := ⟨⟨once, List.Subset.refl cs⟩, by simpa using gauged⟩
  have one' (t : Trial) (c : Nat) (rest : List Nat) (before : needs t (c :: rest)) :
      step? t c = some (step t c) ∧ needs (step t c) rest := by
    obtain ⟨⟨once, inside⟩, gauged⟩ := before
    rw [List.nodup_cons] at once
    have member := inside List.mem_cons_self
    obtain ⟨stepped, next⟩ := one c member _ t (by simp) gauged
    refine ⟨stepped, ⟨once.2, fun d later => inside (List.mem_cons_of_mem c later)⟩, ?_⟩
    convert next using 1
    funext d
    by_cases same : d = c
    · subst same
      simp [member, once.1]
    · simp [same]
  simpa [needs] using foldlM_eq_some needs one' start

/-! ### Flips -/

section Flip

variable {m : Literal}

/-- What a clause of a literal's list is like after its variable is flipped. -/
theorem flipped_of_mem_occurrences (sound : f.Sound) (on : m.varIndex = v) (inside : v < a.size)
    (member : c ∈ f.occurrencesOf m) :
    tally (flipped a v) (f.clause c) + (m.holds a).toNat =
        tally a (f.clause c) + (!m.holds a).toNat ∧
      crux (flipped a v) (f.clause c) = crux a (f.clause c) ^^^ v := by
  subst on
  exact flipped_of_mem (sound.prepared c (sound.lt_of_mem_occurrences member))
    (sound.mem_occurrences.mp member) inside

/-- All clauses of a literal that becomes true. -/
theorem Gauged.gainAll (gauged : Gauged f view f.numClauses t) (compact : f.Compact)
    (on : m.varIndex = v) (inRange : v < f.numVars) (inside : v < a.size)
    (untrue : m.holds a = false) (old : ∀ c ∈ f.occurrencesOf m, view c = a) :
    (f.occurrencesOf m).foldlM (gain? v) t = some ((f.occurrencesOf m).foldl (Trial.gain v) t) ∧
      Gauged f (fun c => if c ∈ f.occurrencesOf m then flipped a v else view c) f.numClauses
        ((f.occurrencesOf m).foldl (Trial.gain v) t) := by
  refine gauged.loop (compact.nodup_occurrences m) fun c member view' t same gauged => ?_
  have below := compact.lt_of_mem_occurrences member
  obtain ⟨count, mark⟩ := flipped_of_mem_occurrences compact.toSound on inside member
  rw [untrue] at count
  have was := same.trans (old c member)
  exact ⟨gauged.gain?_eq compact below inRange (was ▸ count),
    gauged.gain below (was ▸ count) (was ▸ mark)⟩

/-- All clauses of a literal that becomes false. -/
theorem Gauged.loseAll (gauged : Gauged f view f.numClauses t) (compact : f.Compact)
    (on : m.varIndex = v) (inside : v < a.size) (held : m.holds a = true)
    (old : ∀ c ∈ f.occurrencesOf m, view c = a) :
    (f.occurrencesOf m).foldlM (lose? v) t = some ((f.occurrencesOf m).foldl (Trial.lose v) t) ∧
      Gauged f (fun c => if c ∈ f.occurrencesOf m then flipped a v else view c) f.numClauses
        ((f.occurrencesOf m).foldl (Trial.lose v) t) := by
  refine gauged.loop (compact.nodup_occurrences m) fun c member view' t same gauged => ?_
  have below := compact.lt_of_mem_occurrences member
  obtain ⟨count, mark⟩ := flipped_of_mem_occurrences compact.toSound on inside member
  rw [held] at count
  have was := same.trans (old c member)
  exact ⟨gauged.lose?_eq compact below (was ▸ count.symm) (was ▸ mark),
    gauged.lose below (was ▸ count.symm) (was ▸ mark)⟩

/-- A clause that holds neither literal of a variable does not care about its value. -/
theorem trueVars_of_not_mem (sound : f.Sound) (on : m.varIndex = v) (inside : v < a.size)
    (gains : c ∉ f.occurrencesOf m) (loses : c ∉ f.occurrencesOf m.negate) :
    trueVars (flipped a v) (f.clause c) = trueVars a (f.clause c) := by
  refine trueVars_flipped inside fun l member sameVar => ?_
  rcases Literal.eq_or_eq_negate (sameVar.trans on.symm) with rfl | rfl
  · exact gains (sound.mem_occurrences.mpr member)
  · exact loses (sound.mem_occurrences.mpr member)

/-- After the clauses of the literal that becomes true and those of its negation, all clauses are
counted under the new assignment. -/
theorem Gauged.sweep (gauged : Gauged f (fun _ => a) f.numClauses t) (compact : f.Compact)
    (on : m.varIndex = v) (inRange : v < f.numVars) (inside : v < a.size)
    (untrue : m.holds a = false) :
    let t' := (f.occurrencesOf m.negate).foldl (Trial.lose v)
      ((f.occurrencesOf m).foldl (Trial.gain v) t)
    ((f.occurrencesOf m).foldlM (gain? v) t).bind
        ((f.occurrencesOf m.negate).foldlM (lose? v)) = some t' ∧
      Gauged f (fun _ => flipped a v) f.numClauses t' := by
  have held : m.negate.holds a = true := by
    rw [Literal.holds_negate, untrue, Bool.not_false]
  obtain ⟨gained, between⟩ := gauged.gainAll compact on inRange inside untrue fun _ _ => rfl
  obtain ⟨lost, after⟩ := between.loseAll compact (m.varIndex_negate.trans on) inside held
    fun c member => by
      -- No clause holds both literals, so this one is still as it was.
      have prepared := compact.prepared c (compact.lt_of_mem_occurrences member)
      exact if_neg fun both => prepared.consistent m (compact.mem_occurrences.mp both)
        (compact.mem_occurrences.mp member)
  refine ⟨by rw [gained, Option.bind_some, lost], after.congr_view fun c => ?_⟩
  split
  · exact ⟨rfl, rfl⟩
  · next loses =>
    split
    · exact ⟨rfl, rfl⟩
    · next gains =>
      exact tally_eq_of_trueVars (trueVars_of_not_mem compact.toSound on inside gains loses)

theorem assignment_flip (f : Formula) (t : Trial) (v : UInt32) :
    (Trial.flip f t v).assignment = flipped t.assignment v.toNat :=
  (aside_flip f t v).assignment

/-- A flip is safe and keeps all tables right. -/
theorem Faithful.flip (faithful : Faithful f t) (compact : f.Compact) {l : Literal}
    (inRange : l.varIndex < f.numVars) :
    flip? f t l.var = some (Trial.flip f t l.var) ∧ Faithful f (Trial.flip f t l.var) := by
  have inside : l.varIndex < t.assignment.size := faithful.assigned ▸ inRange
  obtain ⟨made, madeTrue⟩ : ∃ made, made = Literal.of l.var (t.assignment.getD l.varIndex false) :=
    ⟨_, rfl⟩
  have on : made.varIndex = l.varIndex := madeTrue ▸ Literal.varIndex_of l.varIndex_le
  have sign : made.isNegative = t.assignment.getD l.varIndex false :=
    madeTrue ▸ Literal.isNegative_of l.varIndex_le
  have untrue : made.holds t.assignment = false := by
    rw [Literal.holds, on, sign, bne_self_eq_false]
  let t₀ : Trial := { t with assignment := flipped t.assignment l.varIndex }
  have begun : Gauged f (fun _ => t.assignment) f.numClauses t₀ :=
    faithful.gauged.of_eq rfl rfl rfl rfl rfl
  obtain ⟨checked, gauged⟩ := begun.sweep compact on inRange inside untrue
  have flips : Trial.flip f t l.var = (f.occurrencesOf made.negate).foldl (Trial.lose l.varIndex)
      ((f.occurrencesOf made).foldl (Trial.gain l.varIndex) t₀) := by
    rw [madeTrue]
    rfl
  have assignment : (Trial.flip f t l.var).assignment = flipped t.assignment l.varIndex :=
    assignment_flip f t l.var
  rw [← flips] at checked gauged
  refine ⟨?_, ?_, ?_⟩
  · have read := getElem?_eq_getD inside false
    have written : write? t.assignment l.varIndex (!t.assignment.getD l.varIndex false) =
        some (flipped t.assignment l.varIndex) := write?_eq inside _
    have negated : made.negate.varIndex = l.varIndex := made.varIndex_negate.trans on
    have gains := compact.getElem?_occurrences (on ▸ inRange)
    have loses := compact.getElem?_occurrences (negated ▸ inRange)
    rw [flip?, ← Literal.varIndex]
    simp only [read, written, ← madeTrue, gains, loses, Option.bind_eq_bind, Option.bind_some]
    exact checked
  · rw [assignment, flipped, Array.size_setIfInBounds, faithful.assigned]
  · rw [assignment]
    exact gauged

end Flip

/-! ### The start -/

/-- Empty tables are right before any clause is entered. -/
theorem gauged_blank (f : Formula) (view : Nat → Array Bool) (seed : UInt64) (random : Random)
    (a : Array Bool) : Gauged f view 0 (blank f seed random a) where
  tallied :=
    { places := Places.empty f.numClauses
      size := by simp [blank]
      within := Nat.zero_le _
      counted := fun c below => absurd below (Nat.not_lt_zero c)
      listed := by simp [blank] }
  all := by simp [blank]
  marks := by simp [blank]
  marked c below := absurd below (Nat.not_lt_zero c)
  vars := by simp [blank]
  broken v inside := by simp [blank, breaks, inside]

/-- Setting up a trial is safe and gets all tables right. -/
theorem faithful_start (compact : f.Compact) (seed : UInt64) :
    start? f seed = some (start f seed) ∧ Faithful f (start f seed) := by
  let tossed := Random.tosses f.numVars (Random.ofSeed seed)
  let a := tossed.1.toArray
  let t₀ := blank f seed tossed.2 a
  have assigned : a.size = f.numVars := by simp [a, tossed, length_tosses]
  have aside (k : Nat) := Aside.foldl (aside_enter f) t₀ (List.range k)
  have entered (k : Nat) (within : k ≤ f.numClauses) :
      (List.range k).foldlM (enter? f) t₀ = some ((List.range k).foldl (enter f) t₀) ∧
        Gauged f (fun _ => a) k ((List.range k).foldl (enter f) t₀) := by
    induction k with
    | zero => exact ⟨rfl, gauged_blank f _ seed tossed.2 a⟩
    | succ k ih =>
      obtain ⟨before, gauged⟩ := ih (by omega)
      have same : ((List.range k).foldl (enter f) t₀).assignment = a := (aside k).assignment
      have next := gauged.enter?_eq compact within (by rw [same, assigned])
      rw [List.range_succ, List.foldlM_append, List.foldl_append, before]
      refine ⟨?_, gauged.enter within same.symm⟩
      simpa using next
  obtain ⟨checked, gauged⟩ := entered f.numClauses (Nat.le_refl _)
  have same : (start f seed).assignment = a := (aside f.numClauses).assignment
  refine ⟨checked, ?_, ?_⟩
  · rw [same, assigned]
  · rw [same]
    exact gauged

/-! ### Any calls -/

section Weigher

variable {σ : Type} {w : Weigher σ} {s : σ}

/-- Weighing the literals of a clause is safe if all its variables have a break count. -/
theorem weights?_eq {breakCount : Array Nat} (known : ∀ l ∈ clause, l.varIndex < breakCount.size)
    (s : σ) (total : Float) :
    weights? w breakCount s total clause = some (weights w breakCount s total clause) := by
  induction clause generalizing s total with
  | nil => rfl
  | cons l clause ih =>
    have found := getElem?_eq_getD (known l List.mem_cons_self) 0
    have later := ih fun m member => known m (List.mem_cons_of_mem l member)
    simp only [weights?, found, later, Option.bind_eq_bind, Option.bind_some]
    rfl

/-- A step is safe and keeps all tables right. -/
theorem Faithful.step (faithful : Faithful f t) (compact : f.Compact) (s : σ) :
    step? w f s t = some (Trial.step w f s t) ∧ Faithful f (Trial.step w f s t).1 := by
  by_cases solved : t.isSolved = true
  · rw [step_of_solved solved, step?, if_pos solved]
    exact ⟨rfl, faithful⟩
  · have unsolved : t.isSolved = false := by simpa using solved
    have below : t.picked < f.numClauses :=
      ((faithful.gauged.tallied.listed _).mp (picked_mem unsolved)).1
    have prepared := compact.prepared _ below
    have weighed : weights? w t.breakCount s 0.0 (f.clause t.picked) =
        some (weights w t.breakCount s 0.0 (f.clause t.picked)) :=
      weights?_eq (fun l member => faithful.gauged.vars ▸ prepared.inRange l member) s 0.0
    obtain ⟨l, member, chosen⟩ := choose_of_ne_nil
      (t.random.fraction.1 * (weights w t.breakCount s 0.0 (f.clause t.picked)).2.1)
      prepared.nonempty (weights w t.breakCount s 0.0 (f.clause t.picked)).1
    let t₀ : Trial := { t with random := t.random.fraction.2 }
    have drawn : Faithful f t₀ :=
      ⟨faithful.assigned, faithful.gauged.of_eq rfl rfl rfl rfl rfl⟩
    obtain ⟨flipped, after⟩ := drawn.flip compact (prepared.inRange l member)
    have stepped : Trial.step w f s t =
        ({ Trial.flip f t₀ l.var with flips := (Trial.flip f t₀ l.var).flips + 1 },
          (weights w t.breakCount s 0.0 (f.clause t.picked)).2.2) := by
      simp [Trial.step, unsolved, chosen, t₀]
    rw [stepped]
    refine ⟨?_, after.assigned, after.gauged.of_eq rfl rfl rfl rfl rfl⟩
    rw [step?, if_neg solved]
    simp only [getElem?_picked unsolved, Formula.getElem?_clauses below, weighed, chosen,
      Option.bind_eq_bind, Option.bind_some]
    rw [flipped]
    rfl

theorem Faithful.runFor (faithful : Faithful f t) (compact : f.Compact) (budget : UInt64)
    (fuel : Nat) (s : σ) :
    runFor? w f budget fuel s t = some (Trial.runFor w f budget fuel s t) ∧
      Faithful f (Trial.runFor w f budget fuel s t).1 := by
  induction fuel generalizing s t with
  | zero => exact ⟨rfl, faithful⟩
  | succ fuel ih =>
    obtain ⟨stepped, after⟩ := faithful.step (w := w) compact s
    rw [runFor?, Trial.runFor]
    split
    · exact ⟨rfl, faithful⟩
    · rw [stepped]
      exact ih after _

theorem Faithful.call (faithful : Faithful f t) (compact : f.Compact) (s : σ)
    (call : TrialCall) :
    call? w f s t call = some (Trial.call w f s t call) ∧
      Faithful f (Trial.call w f s t call).1 := by
  cases call with
  | step => exact faithful.step compact s
  | run budget => exact faithful.runFor compact budget _ s

/-- Any calls on a trial are safe and keep all tables right. -/
theorem Faithful.perform (faithful : Faithful f t) (compact : f.Compact) (calls : List TrialCall)
    (s : σ) :
    perform? w f calls s t = some (Trial.perform w f calls s t) ∧
      Faithful f (Trial.perform w f calls s t).1 := by
  induction calls generalizing s t with
  | nil => exact ⟨rfl, faithful⟩
  | cons call calls ih =>
    obtain ⟨called, after⟩ := faithful.call (w := w) compact s call
    rw [perform?, called]
    exact ih after _

end Weigher

/-! ### Table by table -/

/-- What a trial keeps, against what one finds by going through the formula again. -/
structure Recomputed (f : Formula) (t : Trial) : Prop where
  assigned : t.assignment.size = f.numVars
  /-- The tables have a place for each clause or for each variable. -/
  sizes : t.trueCount.size = f.numClauses ∧ t.critical.size = f.numClauses ∧
    t.unsatPos.size = f.numClauses ∧ t.breakCount.size = f.numVars
  /-- The number of true literals. -/
  counts : ∀ c < f.numClauses,
    t.trueCount[c]? = some ((f.clause c).countP (·.holds t.assignment))
  /-- The exclusive or of the variables of the true literals. -/
  criticals : ∀ c < f.numClauses, t.critical[c]? = some
    ((((f.clause c).filter (·.holds t.assignment)).map Literal.varIndex).foldr (· ^^^ ·) 0)
  /-- A single true literal is one of the critical variable. -/
  single : ∀ c < f.numClauses, ∀ l, (f.clause c).filter (·.holds t.assignment) = [l] →
    t.critical[c]? = some l.varIndex
  /-- The number of clauses that have a single true literal, which is one of the variable. -/
  breakCounts : ∀ v < f.numVars, t.breakCount[v]? = some ((List.range f.numClauses).countP fun c =>
    ((f.clause c).filter (·.holds t.assignment)).map Literal.varIndex == [v])
  /-- The clauses without a true literal are listed, and no others. -/
  listed : ∀ c, c ∈ t.unsat ↔
    c < f.numClauses ∧ ∀ l ∈ f.clause c, l.holds t.assignment = false
  once : t.unsat.toList.Nodup
  /-- A listed clause has its place in the list. -/
  placed : ∀ i c : Nat, t.unsatPos[c]? = some (some i) ↔ t.unsat[i]? = some c
  /-- All other clauses have no place. -/
  unplaced : ∀ c < f.numClauses, c ∉ t.unsat → t.unsatPos[c]? = some none

/-- The tables of a faithful trial are those that are computed afresh from its assignment. -/
theorem Faithful.recomputed (faithful : Faithful f t) : Recomputed f t where
  assigned := faithful.assigned
  sizes := ⟨faithful.gauged.tallied.size.trans faithful.gauged.all, faithful.gauged.marks,
    faithful.gauged.all, faithful.gauged.vars⟩
  counts := faithful.gauged.tallied.counted
  criticals := faithful.gauged.marked
  single c below l single := by
    rw [faithful.gauged.marked c below, crux, trueVars, single]
    simp
  breakCounts := faithful.gauged.broken
  listed c := by
    rw [faithful.gauged.tallied.listed c, tally, List.countP_eq_zero]
    simp
  once := faithful.gauged.tallied.places.nodup
  placed i c := (faithful.gauged.tallied.places i c).symm
  unplaced c below absent := by
    obtain ⟨place, found⟩ : ∃ place, t.unsatPos[c]? = some place :=
      ⟨_, Array.getElem?_eq_getElem (faithful.gauged.all ▸ below)⟩
    cases place with
    | none => exact found
    | some i => exact absurd (faithful.gauged.tallied.places.mem_iff.mpr ⟨i, found⟩) absent

/-- A trial of a formula with fewer than `2 ^ 32` clauses keeps what one would find by going through
the formula again, whatever flips were asked of it and whatever the weights are. Its checked
counterpart does not fail. So no table was asked for a place that it does not have, no counter was
taken below 0 or out of its word, and no clause was taken from the list that was not in it. -/
theorem incremental_exact {σ : Type} (w : Weigher σ) (s : σ) {d : Dimacs} {f : Formula}
    (made : Formula.ofDimacs d = .ok f) (few : f.numClauses < 2 ^ 32) (seed : UInt64)
    (calls : List TrialCall) :
    let t := (perform w f calls s (start f seed)).1
    ((start? f seed).bind fun t => perform? w f calls s t) =
        some (perform w f calls s (start f seed)) ∧
      Recomputed f t := by
  have compact := Formula.compact_of_ofDimacs made few
  obtain ⟨started, begun⟩ := faithful_start compact seed
  obtain ⟨performed, faithful⟩ := begun.perform (w := w) compact calls s
  exact ⟨by rw [started, Option.bind_some, performed], faithful.recomputed⟩

/-- A clause with a repeated literal, one that is always true and one more. No weight is a
number. -/
theorem incremental_exact_repeated :
    let d : Dimacs := ⟨2, 3, [[1, 1, -2], [2, -2], [2, 1]]⟩
    let f := Formula.ofClauses 2 [[⟨0⟩, ⟨3⟩], [⟨0⟩, ⟨2⟩]]
    let w := Weigher.direct fun _ => 0.0 / 0.0
    let calls := [.step, .run 5, .step]
    let t := (perform w f calls () (start f 7)).1
    Formula.ofDimacs d = .ok f ∧ f.numClauses < 2 ^ 32 ∧
      ((start? f 7).bind fun t => perform? w f calls () t) =
        some (perform w f calls () (start f 7)) ∧
      Recomputed f t := by
  intro d f w calls t
  have made : Formula.ofDimacs d = .ok f := by rfl
  have few : f.numClauses < 2 ^ 32 := by decide
  exact ⟨made, few, incremental_exact w () made few 7 calls⟩

end TrialFarm.Trial
