import TrialFarm.Config
import TrialFarm.Search.Trial

/-!
# Sharing remembered weights

The trials of a worker run at the same time and share one table of weights. Only one trial at a
time holds the table. A trial that finds it held waits or computes the weight by itself, as the
policy says. In which order the trials come to the table nobody knows.

## Main definitions

* `Look`: a trial comes to the table.
* `WeightTable.attend`: what it finds and what it leaves.
* `Company`: what all other trials do.
* `Weigher.among`: the weights that a trial finds in company.
-/

namespace TrialFarm

/-- A trial comes to the table for the weight of a break count. -/
structure Look where
  breaks : Nat
  /-- Whether another trial holds the table at this moment. -/
  busy : Bool
  deriving DecidableEq, Repr

/-- The weight that a look finds, and the table after it. -/
def WeightTable.attend (policy : CachePolicy) (eval : Nat → Float) (t : WeightTable) (look : Look) :
    Float × WeightTable :=
  match policy with
  | .off => (eval look.breaks, t)
  | .blocking => t.lookup eval look.breaks
  | .tryLock => if look.busy then (eval look.breaks, t) else t.lookup eval look.breaks

/-- What the other trials do while one trial runs. -/
structure Company where
  /-- The looks of the others before each look of the trial. -/
  between : Nat → List Look
  /-- Whether the trial finds the table held, at each of its looks. -/
  busy : Nat → Bool

/-- The shared table as a trial sees it. -/
structure SharedTable where
  table : WeightTable
  /-- How often the trial has come to the table. -/
  looks : Nat
  deriving Repr

/-- The table of a worker that has just started. -/
def SharedTable.fresh : SharedTable := ⟨WeightTable.empty, 0⟩

/-- Finds weights in a table that others use in the meantime. -/
def Weigher.among (policy : CachePolicy) (eval : Nat → Float) (company : Company) :
    Weigher SharedTable where
  weigh s breaks :=
    let others := company.between s.looks
    let table := others.foldl (fun t look => (t.attend policy eval look).2) s.table
    let (weight, table) := table.attend policy eval ⟨breaks, company.busy s.looks⟩
    (weight, ⟨table, s.looks + 1⟩)

/-- What is asked of a trial from outside. -/
inductive TrialCall where
  /-- One flip. -/
  | step
  /-- Flips up to a budget. -/
  | run (budget : UInt64)
  deriving DecidableEq, Repr

/-- The trial after a call. -/
def Trial.call {σ : Type} (w : Weigher σ) (f : Formula) (s : σ) (t : Trial) : TrialCall → Trial × σ
  | .step => t.step w f s
  | .run budget => t.run w f budget s

/-- The trial after calls, one after the other. -/
def Trial.perform {σ : Type} (w : Weigher σ) (f : Formula) :
    List TrialCall → σ → Trial → Trial × σ
  | [], s, t => (t, s)
  | call :: calls, s, t => perform w f calls (t.call w f s call).2 (t.call w f s call).1

end TrialFarm
