import TrialFarm.Proofs.Search.Breaks
import TrialFarm.Search.Sharing

/-!
# Checked trials

A trial reads and writes its tables at numbers that it finds in other tables, and counts up and down
in words of 32 bits. Here is the same trial with every access checked: an access to a place that a
table does not have fails, so does a counter that leaves its word and a clause that is taken from
the list without having a place there. What a checked operation needs is what the tables of a view
provide.

## Main definitions

* `Trial.write?`, `Trial.change?`, `Trial.up?`, `Trial.down?`: accesses that may fail.
* `Trial.start?`, `Trial.flip?`, `Trial.step?`, `Trial.perform?`: trials that may fail.
* `Formula.Compact`: what a formula needs for its trials not to fail.

## Main statements

* `Trial.Gauged.enter?_eq`, `Trial.Gauged.gain?_eq`, `Trial.Gauged.lose?_eq`: counting one clause
  does not fail.
-/

namespace TrialFarm

namespace Trial

/-! ### Accesses -/

/-- A counter goes up, unless it would leave its word. -/
def up? (x : Nat) : Option Nat := if x + 1 < 2 ^ 32 then some (x + 1) else none

/-- A counter goes down, unless it is at 0. -/
def down? : Nat → Option Nat
  | 0 => none
  | x + 1 => some x

/-- The first place behind a list. The last word stands for having no place. -/
def place? (n : Nat) : Option Nat := if n < 2 ^ 32 - 1 then some n else none

/-- Writes to a place of a table. -/
def write? {α : Type} (b : Array α) (i : Nat) (x : α) : Option (Array α) :=
  if i < b.size then some (b.setIfInBounds i x) else none

/-- Changes the number at a place of a table. -/
def change? (b : Array Nat) (i : Nat) (g : Nat → Option Nat) : Option (Array Nat) := do
  write? b i (← g (← b[i]?))

/-! ### Operations with all accesses checked -/

/-- Puts a clause on the list of unsatisfied ones. -/
def markUnsat? (t : Trial) (c : Nat) : Option Trial := do
  let unsatPos ← write? t.unsatPos c (some (← place? t.unsat.size))
  return { t with unsatPos, unsat := t.unsat.push c }

/-- Takes a clause off the list of unsatisfied ones. The last one moves to its place. -/
def markSat? (t : Trial) (c : Nat) : Option Trial := do
  let place ← (← t.unsatPos[c]?)
  let unsatPos ← write? t.unsatPos c none
  match t.unsat.back? with
  | none => return { t with unsatPos }
  | some last =>
    let t := { t with unsatPos, unsat := t.unsat.pop }
    if last = c then return t
    else
      let unsat ← write? t.unsat place last
      let unsatPos ← write? t.unsatPos last (some place)
      return { t with unsat, unsatPos }

/-- The number of true literals of a clause, and all their variables in one word. -/
def survey? (assignment : Array Bool) (clause : List Literal) : Option (Nat × Nat) :=
  clause.foldlM
    (fun (count, critical) l => do
      if (← assignment[l.varIndex]?) != l.isNegative then
        return (← up? count, critical ^^^ l.varIndex)
      else return (count, critical))
    (0, 0)

/-- Counts a clause under the assignment, and lists it if it is unsatisfied. -/
def enter? (f : Formula) (t : Trial) (c : Nat) : Option Trial := do
  let (count, mark) ← survey? t.assignment (← f.clauses[c]?)
  let trueCount ← write? t.trueCount c count
  let critical ← write? t.critical c mark
  let t := { t with trueCount, critical }
  match count with
  | 0 => t.markUnsat? c
  | 1 =>
    let breakCount ← change? t.breakCount mark up?
    return { t with breakCount }
  | _ => return t

/-- A trial that has not looked at any clause. -/
def blank (f : Formula) (seed : UInt64) (random : Random) (assignment : Array Bool) : Trial where
  random := random
  seed := seed
  assignment := assignment
  trueCount := Array.replicate f.numClauses 0
  critical := Array.replicate f.numClauses 0
  breakCount := Array.replicate f.numVars 0
  unsat := #[]
  unsatPos := Array.replicate f.numClauses none
  flips := 0

/-- A trial from a random assignment, with all clauses counted. -/
def start? (f : Formula) (seed : UInt64) : Option Trial :=
  let (coins, random) := Random.tosses f.numVars (Random.ofSeed seed)
  (List.range f.numClauses).foldlM (enter? f) (blank f seed random coins.toArray)

/-- Counts a literal of a clause that has become true. -/
def gain? (v : Nat) (t : Trial) (c : Nat) : Option Trial := do
  let before ← t.trueCount[c]?
  let trueCount ← write? t.trueCount c (← up? before)
  let t := { t with trueCount }
  match before with
  | 0 =>
    let t ← t.markSat? c
    let breakCount ← change? t.breakCount v up?
    let critical ← write? t.critical c v
    return { t with breakCount, critical }
  | 1 =>
    let breakCount ← change? t.breakCount (← t.critical[c]?) down?
    let critical ← change? t.critical c fun mark => some (mark ^^^ v)
    return { t with breakCount, critical }
  | _ =>
    let critical ← change? t.critical c fun mark => some (mark ^^^ v)
    return { t with critical }

/-- Counts a literal of a clause that has become false. -/
def lose? (v : Nat) (t : Trial) (c : Nat) : Option Trial := do
  let after ← down? (← t.trueCount[c]?)
  let trueCount ← write? t.trueCount c after
  let critical ← change? t.critical c fun mark => some (mark ^^^ v)
  let t := { t with trueCount, critical }
  match after with
  | 0 =>
    let t ← t.markUnsat? c
    let breakCount ← change? t.breakCount v down?
    return { t with breakCount }
  | 1 =>
    let breakCount ← change? t.breakCount (← t.critical[c]?) up?
    return { t with breakCount }
  | _ => return t

/-- Flips a variable and counts the clauses in which it occurs. -/
def flip? (f : Formula) (t : Trial) (v : UInt32) : Option Trial := do
  let wasTrue ← t.assignment[v.toNat]?
  let assignment ← write? t.assignment v.toNat (!wasTrue)
  let madeTrue := Literal.of v wasTrue
  let t ← (← f.occurrences[madeTrue.index]?).foldlM (gain? v.toNat) { t with assignment }
  (← f.occurrences[madeTrue.negate.index]?).foldlM (lose? v.toNat) t

section Weigher

variable {σ : Type} (w : Weigher σ)

/-- The running sums of the weights of literals, and their total. -/
def weights? (breakCount : Array Nat) :
    σ → Float → List Literal → Option (List Float × Float × σ)
  | s, total, [] => some ([], total, s)
  | s, total, l :: ls => do
    let (weight, s) := w.weigh s (← breakCount[l.varIndex]?)
    let total := total + weight
    let (sums, last, s) ← weights? breakCount s total ls
    return (total :: sums, last, s)

/-- The clause whose turn it is has to have a literal. -/
def step? (f : Formula) (s : σ) (t : Trial) : Option (Trial × σ) :=
  if t.isSolved then some (t, s)
  else do
    let picked ← t.unsat[(t.flips % t.unsat.size.toUInt64).toNat]?
    let clause ← f.clauses[picked]?
    let (sums, total, s) ← weights? w t.breakCount s 0.0 clause
    let (fraction, random) := t.random.fraction
    let l ← choose (fraction * total) clause sums
    let t ← flip? f { t with random } l.var
    return ({ t with flips := t.flips + 1 }, s)

/-- At most so many steps, up to a solution or to the end of the budget. -/
def runFor? (f : Formula) (budget : UInt64) : Nat → σ → Trial → Option (Trial × σ)
  | 0, s, t => some (t, s)
  | fuel + 1, s, t =>
    if t.isSolved || budget ≤ t.flips then some (t, s)
    else do
      let (t, s) ← step? w f s t
      runFor? f budget fuel s t

/-- Carries out a call. -/
def call? (f : Formula) (s : σ) (t : Trial) : TrialCall → Option (Trial × σ)
  | .step => step? w f s t
  | .run budget => runFor? w f budget (budget.toNat - t.flips.toNat) s t

/-- Carries out calls, one after the other. -/
def perform? (f : Formula) : List TrialCall → σ → Trial → Option (Trial × σ)
  | [], s, t => some (t, s)
  | call :: calls, s, t => do
    let (t, s) ← call? w f s t call
    perform? f calls s t

end Weigher

end Trial

theorem getElem?_eq_getD {α : Type} {b : Array α} {i : Nat} (inside : i < b.size) (y : α) :
    b[i]? = some (b.getD i y) := by
  rw [Array.getD_eq_getD_getElem?, Array.getElem?_eq_getElem inside, Option.getD_some]

/-- The formula is sound, its table has a list for each literal, and its clauses have numbers that
are words. -/
structure Formula.Compact (f : Formula) : Prop extends f.Sound where
  table : f.occurrences.size = f.numVars * 2
  few : f.numClauses < 2 ^ 32

namespace Formula

variable {f : Formula} {d : Dimacs}

/-- A formula that was read has tables of the right sizes, and its clauses have distinct variables.
-/
theorem compact_of_ofDimacs (made : ofDimacs d = .ok f) (few : f.numClauses < 2 ^ 32) :
    f.Compact where
  toSound := sound_of_ofDimacs made
  table := size_occurrences made
  few := few

theorem getElem?_clauses {c : Nat} (below : c < f.numClauses) :
    f.clauses[c]? = some (f.clause c) :=
  getElem?_eq_getD below []

/-- Every literal in range has its list of clauses. -/
theorem Compact.getElem?_occurrences (compact : f.Compact) {l : Literal}
    (inRange : l.varIndex < f.numVars) :
    f.occurrences[l.index]? = some (f.occurrencesOf l) := by
  have inside : l.index < f.occurrences.size := compact.table ▸ Literal.index_lt inRange
  exact getElem?_eq_getD inside []

end Formula

namespace Trial

variable {f : Formula} {t : Trial} {view : Nat → Array Bool} {a a' : Array Bool}
  {clause : List Literal} {c k v : Nat}

/-! ### Accesses that do not fail -/

section Accesses

variable {α : Type} {i x : Nat}

/-- Counting up is safe below the greatest word. -/
theorem up?_eq (word : x + 1 < 2 ^ 32) : up? x = some (x + 1) := if_pos word

/-- Counting down is safe above zero. -/
theorem down?_eq (positive : 0 < x) : down? x = some (x - 1) := by
  cases x with
  | zero => exact absurd positive (Nat.lt_irrefl 0)
  | succ x => rfl

theorem place?_eq (word : x < 2 ^ 32 - 1) : place? x = some x := if_pos word

theorem write?_eq {b : Array α} (inside : i < b.size) (y : α) :
    write? b i y = some (b.setIfInBounds i y) := if_pos inside

/-- A change is safe at an index that is inside, if it is safe on what is there. -/
theorem change?_eq {b : Array Nat} {g : Nat → Option Nat} {h : Nat → Nat}
    (found : b[i]? = some x) (changed : g x = some (h x)) :
    change? b i g = some (b.modify i h) := by
  have inside := (Array.getElem?_eq_some_iff.mp found).1
  have same : b.setIfInBounds i (h x) = b.modify i h := Array.ext_getElem? fun j => by
    rw [getElem?_set_of_some found, getElem?_modify_of_some found]
  simp [change?, found, changed, write?_eq inside, same]

/-- A loop whose steps do not fail does not fail. What the steps need may depend on what is left. -/
theorem foldlM_eq_some {β : Type} {step? : β → α → Option β} {step : β → α → β}
    (needs : β → List α → Prop) (one : ∀ b x rest, needs b (x :: rest) →
      step? b x = some (step b x) ∧ needs (step b x) rest) {b : β} {l : List α}
    (start : needs b l) : l.foldlM step? b = some (l.foldl step b) ∧ needs (l.foldl step b) [] := by
  induction l generalizing b with
  | nil => exact ⟨rfl, start⟩
  | cons x rest ih =>
    obtain ⟨stepped, after⟩ := one b x rest start
    rw [List.foldlM_cons, stepped]
    exact ih after

end Accesses

/-- Listing a clause is safe while the list is short and the clause has its place in the table. -/
theorem markUnsat?_eq (inside : c < t.unsatPos.size) (word : t.unsat.size < 2 ^ 32 - 1) :
    markUnsat? t c = some (markUnsat t c) := by
  simp [markUnsat?, place?_eq word, write?_eq inside, markUnsat]

/-- A clause of the list has a place in it, and so has the last clause. -/
theorem markSat?_eq (places : Places t.unsat t.unsatPos) (member : c ∈ t.unsat) :
    markSat? t c = some (markSat t c) := by
  obtain ⟨i, z, here, place, last⟩ := places.exists_place member
  have inTable : c < t.unsatPos.size := places.lt_size member
  simp only [markSat?, place, write?_eq inTable, last, Option.bind_eq_bind, Option.bind_some]
  by_cases same : z = c
  · subst same
    simp [markSat, last, place]
  · have moved : i < t.unsat.pop.size := by
      have := Places.succ_lt here last same
      rw [Array.size_pop]
      omega
    have inTable' : z < (t.unsatPos.setIfInBounds c none).size := by
      rw [Array.size_setIfInBounds]
      exact places.lt_size (Array.mem_of_back? last)
    rw [if_neg same, write?_eq moved, Option.bind_some, write?_eq inTable', Option.bind_some]
    simp [markSat, last, same, place]

/-- The variables of the true literals differ, so a clause has fewer than words can count. -/
theorem tally_lt {n : Nat} (prepared : Formula.Prepared n clause) (a : Array Bool) :
    tally a clause < 2 ^ 32 := by
  have once : (trueVars a clause).Nodup := by
    refine (prepared.nodup.filter _).map_on fun l kept m kept' same => ?_
    rw [List.mem_filter] at kept kept'
    rcases Literal.eq_or_eq_negate same with rfl | rfl
    · rfl
    · exact absurd kept.1 (prepared.consistent m kept'.1)
  have small : trueVars a clause ⊆ List.range 2147483648 := by
    intro u member
    obtain ⟨l, -, rfl⟩ := List.mem_map.mp member
    exact List.mem_range.mpr l.varIndex_le
  have fewer := (List.subperm_of_subset once small).length_le
  rw [length_trueVars, List.length_range] at fewer
  omega

/-- Every count of clauses fits a word. -/
theorem Gauged.word (gauged : Gauged f view k t) (compact : f.Compact) : k < 2 ^ 32 := by
  have := gauged.tallied.within
  have := gauged.all
  have := compact.few
  omega

/-- A clause that hangs on a variable hangs on one that the formula has. -/
theorem crux_lt {n : Nat} (prepared : Formula.Prepared n clause) (one : tally a clause = 1) :
    crux a clause < n := by
  obtain ⟨l, inside, -, marked⟩ := exists_of_tally_one one
  rw [marked]
  exact prepared.inRange l inside

theorem Gauged.prepared (gauged : Gauged f view k t) (sound : f.Sound) (below : c < k) :
    Formula.Prepared f.numVars (f.clause c) := by
  refine sound.prepared c ?_
  have := gauged.tallied.within
  have := gauged.all
  omega

/-- A break count leaves room for one more clause as long as some clause is not in it. -/
theorem Gauged.raise (gauged : Gauged f view k t) (compact : f.Compact) (below : c < k)
    (var : v < f.numVars) (free : tally (view c) (f.clause c) ≠ 1) :
    change? t.breakCount v up? = some (t.breakCount.modify v (· + 1)) := by
  have hangs : hangsOn (view c) (f.clause c) v = false :=
    Bool.eq_false_iff.mpr fun hangs => free (hangsOn_iff.mp hangs).1
  have fewer := breaks_lt below hangs
  have := gauged.word compact
  exact change?_eq (gauged.broken v var) (up?_eq (by omega))

/-- A break count is not at 0 if some clause is in it. -/
theorem Gauged.lower (gauged : Gauged f view k t) (compact : f.Compact) (below : c < k)
    (one : tally (view c) (f.clause c) = 1) :
    change? t.breakCount (crux (view c) (f.clause c)) down? =
      some (t.breakCount.modify (crux (view c) (f.clause c)) (· - 1)) :=
  change?_eq (gauged.broken _ (crux_lt (gauged.prepared compact.toSound below) one))
    (down?_eq (breaks_pos below (hangsOn_iff.mpr ⟨one, rfl⟩)))

theorem Gauged.remark (gauged : Gauged f view k t) (below : c < k) (v : Nat) :
    change? t.critical c (fun mark => some (mark ^^^ v)) =
      some (t.critical.modify c (· ^^^ v)) :=
  change?_eq (gauged.marked c below) rfl

/-- Nothing overflows and no index is outside when a clause gains a true literal. -/
theorem Gauged.gain?_eq (gauged : Gauged f view k t) (compact : f.Compact) (below : c < k)
    (var : v < f.numVars) (count : tally a' (f.clause c) = tally (view c) (f.clause c) + 1) :
    gain? v t c = some (Trial.gain v t c) := by
  have word : tally (view c) (f.clause c) + 1 < 2 ^ 32 :=
    count ▸ tally_lt (gauged.prepared compact.toSound below) a'
  have counted := gauged.tallied.counted c below
  have inside := (Array.getElem?_eq_some_iff.mp counted).1
  have marked := gauged.marked c below
  simp only [gain?, counted, up?_eq word, write?_eq inside, marked, gauged.remark below,
    Option.bind_eq_bind, Option.bind_some]
  rw [Trial.gain, gauged.count below]
  rcases number : tally (view c) (f.clause c) with _ | _ | n
  · have sat := markSat?_eq (t := { t with trueCount := t.trueCount.setIfInBounds c 1 })
      gauged.tallied.places ((gauged.tallied.listed c).mpr ⟨below, number⟩)
    have raised := gauged.raise compact below var (by omega)
    have inTable := (Array.getElem?_eq_some_iff.mp marked).1
    simp [sat, raised, write?_eq inTable]
  · have lowered := gauged.lower compact below number
    simp [lowered, gauged.mark below]
  · simp

/-- Nothing underflows and no index is outside when a clause loses a true literal. -/
theorem Gauged.lose?_eq (gauged : Gauged f view k t) (compact : f.Compact) (below : c < k)
    (count : tally (view c) (f.clause c) = tally a' (f.clause c) + 1)
    (mark : crux a' (f.clause c) = crux (view c) (f.clause c) ^^^ v) :
    lose? v t c = some (Trial.lose v t c) := by
  have counted := gauged.tallied.counted c below
  have inside := (Array.getElem?_eq_some_iff.mp counted).1
  have marked := gauged.remarked below mark
  have after : (t.critical.modify c (· ^^^ v)).getD c 0 = crux a' (f.clause c) := by
    rw [Array.getD_eq_getD_getElem?, marked, Option.getD_some]
  rw [count] at counted
  simp only [lose?, counted, down?, write?_eq inside, gauged.remark below, Option.bind_eq_bind,
    Option.bind_some]
  rw [Trial.lose, gauged.count below, count, Nat.add_sub_cancel]
  rcases number : tally a' (f.clause c) with _ | _ | n
  · -- The clause hung on the literal that became false.
    have hung := crux_eq_of_lost number mark
    have short := gauged.tallied.size_lt (Nat.le_refl k) below (by omega)
    have := gauged.word compact
    have lowered := gauged.lower compact below (by omega)
    rw [hung] at lowered
    have unsat := markUnsat?_eq (t := { t with
        trueCount := t.trueCount.setIfInBounds c 0, critical := t.critical.modify c (· ^^^ v) })
      (Nat.lt_of_lt_of_le below gauged.tallied.within) (c := c) (by simp; omega)
    simp [unsat, markUnsat, lowered]
  · -- The clause hangs on the literal that is left.
    have var := crux_lt (gauged.prepared compact.toSound below) number
    have raised := gauged.raise compact below var (by omega)
    simp [marked, raised, after]
  · simp

/-- Surveying a clause is safe if all its variables have a value and the count fits a word. -/
theorem survey?_eq (known : ∀ l ∈ clause, l.varIndex < a.size) (word : tally a clause < 2 ^ 32) :
    survey? a clause = some (survey a clause) := by
  refine (foldlM_eq_some (fun p rest =>
    (∀ l ∈ rest, l.varIndex < a.size) ∧ p.1 + tally a rest < 2 ^ 32) ?_
    ⟨known, by simpa using word⟩).1
  rintro ⟨count, mark⟩ l rest ⟨known, word⟩
  have found := getElem?_eq_getD (known l List.mem_cons_self) false
  have later : ∀ m ∈ rest, m.varIndex < a.size := fun m member =>
    known m (List.mem_cons_of_mem l member)
  have value : (a.getD l.varIndex false != l.isNegative) = l.holds a := rfl
  rw [tally_cons] at word
  by_cases held : l.holds a = true
  · rw [if_pos held] at word
    have counted : up? count = some (count + 1) := up?_eq (by omega)
    simp only [found, value, held, counted, Option.bind_eq_bind, Option.bind_some, if_true]
    exact ⟨rfl, later, by omega⟩
  · rw [if_neg held] at word
    simp only [found, value, held, Option.bind_eq_bind, Option.bind_some, Bool.false_eq_true,
      if_false]
    exact ⟨rfl, later, word⟩

/-- Entering the next clause is safe. -/
theorem Gauged.enter?_eq (gauged : Gauged f view k t) (compact : f.Compact)
    (inside : k < f.numClauses) (assigned : t.assignment.size = f.numVars) :
    enter? f t k = some (Trial.enter f t k) := by
  have prepared := compact.prepared k inside
  have surveyed : survey? t.assignment (f.clause k) = some (survey t.assignment (f.clause k)) :=
    survey?_eq (fun l member => assigned ▸ prepared.inRange l member) (tally_lt prepared _)
  have counts : k < t.trueCount.size := by
    rw [gauged.tallied.size, gauged.all]
    exact inside
  have marks : k < t.critical.size := gauged.marks ▸ inside
  simp only [enter?, Formula.getElem?_clauses inside, surveyed, write?_eq counts, write?_eq marks,
    Option.bind_eq_bind, Option.bind_some]
  rw [Trial.enter]
  dsimp only
  rcases number : (survey t.assignment (f.clause k)).1 with _ | _ | n
  · have short := gauged.tallied.size_lt (Nat.le_succ k) (Nat.lt_succ_self k) (by omega)
    have := compact.few
    exact markUnsat?_eq (by rw [gauged.all]; exact inside) (by dsimp only; omega)
  · rw [fst_survey] at number
    rw [snd_survey]
    have raised : change? t.breakCount (crux t.assignment (f.clause k)) up? =
        some (t.breakCount.modify (crux t.assignment (f.clause k)) (· + 1)) := by
      have fewer := breaks_le f view k (crux t.assignment (f.clause k))
      have := compact.few
      exact change?_eq (gauged.broken _ (crux_lt prepared number)) (up?_eq (by omega))
    simp [raised]
  · rfl

end Trial

end TrialFarm
