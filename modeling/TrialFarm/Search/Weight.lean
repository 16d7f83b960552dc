/-!
# Weights of break counts

A search flips a variable with a probability that falls with the number of clauses the flip would
break. Two families of weights are known, and their values may be remembered in a table that all
trials share.

## Main definitions

* `WeightFunction`: the two families.
* `WeightFunction.eval`: the weight of a break count.
* `WeightTable`: remembered weights.
* `WeightTable.lookup`: a weight by way of the table.
-/

namespace TrialFarm

/-- A family of weights with its parameters. -/
inductive WeightFunction where
  /-- The weight `(eps + breaks) ^ -cb`. -/
  | polynomial (eps cb : Float)
  /-- The weight `cb ^ -breaks`. -/
  | exponential (cb : Float)
  deriving Repr, Inhabited

namespace WeightFunction

/-- The family and the parameters used where nothing else is said. -/
def standard : WeightFunction := .polynomial 0.9 2.06

/-- The weight of a break count. -/
def eval (w : WeightFunction) (breaks : Nat) : Float :=
  match w with
  | polynomial eps cb => (eps + breaks.toFloat).pow (-cb)
  | exponential cb => cb.pow (-breaks.toFloat)

end WeightFunction

/-- The weights remembered for the break counts from 0 on. A slot that holds no positive number is
not used. -/
structure WeightTable where
  slots : Array Float
  deriving Repr, Inhabited

namespace WeightTable

/-- A table without slots. -/
def empty : WeightTable := ⟨#[]⟩

/-- The number of slots. -/
def size (t : WeightTable) : Nat := t.slots.size

/-- The table with the weight of a break count. Slots that are missing before it hold zero. -/
def store (t : WeightTable) (breaks : Nat) (weight : Float) : WeightTable :=
  let slots :=
    if breaks < t.slots.size then t.slots
    else t.slots ++ Array.replicate (breaks + 1 - t.slots.size) 0.0
  ⟨slots.setIfInBounds breaks weight⟩

/-- The weight of a break count: the remembered one, or else the computed one, which is
remembered. -/
def lookup (eval : Nat → Float) (t : WeightTable) (breaks : Nat) : Float × WeightTable :=
  match t.slots[breaks]? with
  | some held =>
    if held > 0.0 then (held, t)
    else
      let weight := eval breaks
      (weight, t.store breaks weight)
  | none =>
    let weight := eval breaks
    (weight, t.store breaks weight)

end WeightTable

/-- How a search finds the weight of a break count, passing on a state of type `σ`. -/
structure Weigher (σ : Type) where
  weigh : σ → Nat → Float × σ

namespace Weigher

/-- Computes every weight. -/
def direct (eval : Nat → Float) : Weigher Unit :=
  ⟨fun _ breaks => (eval breaks, ())⟩

/-- Uses a table that nobody else holds. -/
def shared (eval : Nat → Float) : Weigher WeightTable :=
  ⟨fun table breaks => WeightTable.lookup eval table breaks⟩

end Weigher

end TrialFarm
