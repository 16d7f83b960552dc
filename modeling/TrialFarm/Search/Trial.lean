import TrialFarm.Cnf.Formula
import TrialFarm.Random
import TrialFarm.Search.Weight

/-!
# Trials

A trial starts from a random assignment and flips one variable after the other until every clause
is true. Each flip is of a variable of some unsatisfied clause, chosen with weights that depend on
how many clauses the flip would break.

The trial keeps up with the formula clause by clause: how many literals of a clause are true, and
the exclusive or of the variables that make it true. When exactly one literal is true, that is the
variable whose flip would break the clause.

## Main definitions

* `Trial`: the state of a trial.
* `Trial.start`: a trial from a seed.
* `Trial.flip`: flips one variable and updates all counts.
* `Trial.step`, `Trial.run`: single flips, and flips up to a budget.
-/

namespace TrialFarm

/-- The state of a trial of a formula. -/
structure Trial where
  random : Random
  seed : UInt64
  assignment : Array Bool
  /-- For each clause, how many of its literals are true. -/
  trueCount : Array Nat
  /-- For each clause, the exclusive or of the variables of its true literals. -/
  critical : Array Nat
  /-- For each variable, how many clauses its flip would break. -/
  breakCount : Array Nat
  /-- The clauses without a true literal. -/
  unsat : Array Nat
  /-- For each clause, its place among the clauses without a true literal. -/
  unsatPos : Array (Option Nat)
  flips : UInt64
  deriving Repr, Inhabited

namespace Trial

/-- Adds a clause to those without a true literal. -/
def markUnsat (t : Trial) (c : Nat) : Trial :=
  { t with
    unsatPos := t.unsatPos.setIfInBounds c (some t.unsat.size)
    unsat := t.unsat.push c }

/-- Takes a clause from those without a true literal. The last of them takes its place. -/
def markSat (t : Trial) (c : Nat) : Trial :=
  let place := t.unsatPos.getD c none
  let last := t.unsat.back?
  let t := { t with unsatPos := t.unsatPos.setIfInBounds c none, unsat := t.unsat.pop }
  match last, place with
  | some last, some place =>
    if last = c then t
    else
      { t with
        unsat := t.unsat.setIfInBounds place last
        unsatPos := t.unsatPos.setIfInBounds last (some place) }
  | _, _ => t

/-- The number of true literals of a clause and the exclusive or of their variables. -/
def survey (assignment : Array Bool) (clause : List Literal) : Nat × Nat :=
  clause.foldl
    (fun (count, critical) l =>
      if l.holds assignment then (count + 1, critical ^^^ l.varIndex) else (count, critical))
    (0, 0)

/-- Enters the counts of one clause. -/
def enter (f : Formula) (t : Trial) (c : Nat) : Trial :=
  let (count, critical) := survey t.assignment (f.clause c)
  let t :=
    { t with
      trueCount := t.trueCount.setIfInBounds c count
      critical := t.critical.setIfInBounds c critical }
  match count with
  | 0 => t.markUnsat c
  | 1 => { t with breakCount := t.breakCount.modify critical (· + 1) }
  | _ => t

/-- A trial with a given assignment and the counts that belong to it. -/
def ofAssignment (f : Formula) (seed : UInt64) (random : Random) (assignment : Array Bool) :
    Trial :=
  (List.range f.numClauses).foldl (enter f)
    { random := random
      seed := seed
      assignment := assignment
      trueCount := Array.replicate f.numClauses 0
      critical := Array.replicate f.numClauses 0
      breakCount := Array.replicate f.numVars 0
      unsat := #[]
      unsatPos := Array.replicate f.numClauses none
      flips := 0 }

/-- A trial from a random assignment drawn from a seed. -/
def start (f : Formula) (seed : UInt64) : Trial :=
  let (coins, random) := Random.tosses f.numVars (Random.ofSeed seed)
  ofAssignment f seed random coins.toArray

/-- A literal of variable `v` in clause `c` becomes true. -/
def gain (v : Nat) (t : Trial) (c : Nat) : Trial :=
  let before := t.trueCount.getD c 0
  let t := { t with trueCount := t.trueCount.setIfInBounds c (before + 1) }
  match before with
  | 0 =>
    let t := t.markSat c
    { t with
      breakCount := t.breakCount.modify v (· + 1)
      critical := t.critical.setIfInBounds c v }
  | 1 =>
    { t with
      breakCount := t.breakCount.modify (t.critical.getD c 0) (· - 1)
      critical := t.critical.modify c (· ^^^ v) }
  | _ => { t with critical := t.critical.modify c (· ^^^ v) }

/-- A literal of variable `v` in clause `c` becomes false. -/
def lose (v : Nat) (t : Trial) (c : Nat) : Trial :=
  let after := t.trueCount.getD c 0 - 1
  let t :=
    { t with
      trueCount := t.trueCount.setIfInBounds c after
      critical := t.critical.modify c (· ^^^ v) }
  match after with
  | 0 =>
    let t := t.markUnsat c
    { t with breakCount := t.breakCount.modify v (· - 1) }
  | 1 => { t with breakCount := t.breakCount.modify (t.critical.getD c 0) (· + 1) }
  | _ => t

/-- Flips a variable. -/
def flip (f : Formula) (t : Trial) (v : UInt32) : Trial :=
  let wasTrue := t.assignment.getD v.toNat false
  let t := { t with assignment := t.assignment.setIfInBounds v.toNat (!wasTrue) }
  let madeTrue := Literal.of v wasTrue
  let t := (f.occurrencesOf madeTrue).foldl (gain v.toNat) t
  (f.occurrencesOf madeTrue.negate).foldl (lose v.toNat) t

/-- Whether every clause is true. -/
def isSolved (t : Trial) : Bool := t.unsat.isEmpty

/-- The number of clauses without a true literal. -/
def numUnsat (t : Trial) : Nat := t.unsat.size

/-- The running sums of the weights of the literals of a clause, starting from `total`. -/
def weights {σ : Type} (w : Weigher σ) (breakCount : Array Nat) :
    σ → Float → List Literal → List Float × Float × σ
  | s, total, [] => ([], total, s)
  | s, total, l :: ls =>
    let (weight, s) := w.weigh s (breakCount.getD l.varIndex 0)
    let total := total + weight
    let (sums, last, s) := weights w breakCount s total ls
    (total :: sums, last, s)

/-- The literal at which the running sums first exceed `target`, or else the last literal. -/
def choose (target : Float) : List Literal → List Float → Option Literal
  | [], _ => none
  | [l], _ => some l
  | l :: _, [] => some l
  | l :: ls, sum :: sums => if target < sum then some l else choose target ls sums

/-- The unsatisfied clause whose turn it is. -/
def picked (t : Trial) : Nat :=
  t.unsat.getD (t.flips % t.unsat.size.toUInt64).toNat 0

/-- Makes one flip, if there is an unsatisfied clause. -/
def step {σ : Type} (w : Weigher σ) (f : Formula) (s : σ) (t : Trial) : Trial × σ :=
  if t.isSolved then (t, s)
  else
    let clause := f.clause t.picked
    let (sums, total, s) := weights w t.breakCount s 0.0 clause
    let (fraction, random) := t.random.fraction
    let t := { t with random := random }
    match choose (fraction * total) clause sums with
    | none => (t, s)
    | some l =>
      let t := flip f t l.var
      ({ t with flips := t.flips + 1 }, s)

/-- Makes at most `fuel` flips as long as the trial is not solved and has made fewer than `budget`
flips in all. -/
def runFor {σ : Type} (w : Weigher σ) (f : Formula) (budget : UInt64) :
    Nat → σ → Trial → Trial × σ
  | 0, s, t => (t, s)
  | fuel + 1, s, t =>
    if t.isSolved || budget ≤ t.flips then (t, s)
    else
      let (t, s) := step w f s t
      runFor w f budget fuel s t

/-- Makes flips until every clause is true or `budget` flips were made in all. The answer of a run
is whether the trial is solved then. -/
def run {σ : Type} (w : Weigher σ) (f : Formula) (budget : UInt64) (s : σ) (t : Trial) :
    Trial × σ :=
  runFor w f budget (budget.toNat - t.flips.toNat) s t

end Trial

end TrialFarm
