import TrialFarm.Config
import TrialFarm.Search.Trial
import TrialFarm.Worker.Job

/-!
# The engine

The engine makes a trial of a file: it loads the formula, starts from a seed, and flips until the
formula is satisfied or the budget is used up. Weights may be remembered between trials.

## Main definitions

* `Engine`: the weights and, unless remembering is off, their table.
* `Engine.execute`: one trial of a formula.
-/

namespace TrialFarm

/-- A search with given weights. -/
structure Engine where
  weights : WeightFunction
  /-- The remembered weights, unless nothing is remembered. -/
  table : Option WeightTable
  deriving Repr, Inhabited

namespace Engine

/-- An engine that has not yet made a trial. -/
def of (weights : WeightFunction) (cache : CachePolicy) : Engine :=
  ⟨weights, if cache = .off then none else some WeightTable.empty⟩

/-- The engine that a worker section describes. -/
def ofConfig (c : WorkerConfig) : Engine :=
  of c.weights c.cache

/-- Makes a trial of a formula from a seed. -/
def search (e : Engine) (f : Formula) (seed budget : UInt64) : Trial × Engine :=
  match e.table with
  | none => ((Trial.run (Weigher.direct e.weights.eval) f budget () (Trial.start f seed)).1, e)
  | some table =>
    let (t, table) :=
      Trial.run (Weigher.shared e.weights.eval) f budget table (Trial.start f seed)
    (t, { e with table := some table })

/-- What a trial of a formula is reported as. The times are left to the caller's clock. -/
def outcome (f : Formula) (t : Trial) (init solve : Span) : Outcome where
  solved := t.isSolved
  seed := t.seed
  flips := t.flips
  init := init
  solve := solve
  numVars := UInt64.ofNat f.numVars
  numClauses := UInt64.ofNat f.numClauses

/-- Makes a trial of a file from a seed. The clock stands still. -/
def execute (e : Engine) (files : Files) (path : String) (seed budget : UInt64) :
    Except Error Outcome × Engine :=
  match Formula.load files path with
  | .error error => (.error error, e)
  | .ok f =>
    let (t, e) := e.search f seed budget
    (.ok (outcome f t Span.zero Span.zero), e)

end Engine

end TrialFarm
