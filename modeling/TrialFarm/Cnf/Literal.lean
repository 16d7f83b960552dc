import TrialFarm.Error

/-!
# Literals

A literal is a variable, counted from 0, with a polarity. Both are packed into one word, so that
the two literals of a variable are neighbours and each literal is an index into tables.

## Main definitions

* `Literal`: a packed literal.
* `Literal.ofSigned`: the literal of a signed number, whose sign is the polarity.
* `Literal.holds`: the truth of a literal under an assignment.
-/

namespace TrialFarm

/-- A literal: twice the variable, plus one if it is negated. -/
structure Literal where
  code : UInt32
  deriving DecidableEq, Repr, Inhabited

namespace Literal

/-- The literal of a variable, negated or not. -/
def of (var : UInt32) (negative : Bool) : Literal :=
  ⟨(var <<< 1) ||| (if negative then 1 else 0)⟩

/-- The variable of a literal. -/
def var (l : Literal) : UInt32 := l.code >>> 1

/-- Whether the literal is negated. -/
def isNegative (l : Literal) : Bool := l.code &&& 1 == 1

/-- The literal of the same variable with the other polarity. -/
def negate (l : Literal) : Literal := ⟨l.code ^^^ 1⟩

/-- The place of the literal in tables over literals. -/
def index (l : Literal) : Nat := l.code.toNat

/-- The place of the literal's variable in tables over variables. -/
def varIndex (l : Literal) : Nat := l.var.toNat

/-- The largest number of variables. -/
def maxVars : Nat := 0x7fffffff

/-- The literal of a signed number other than 0, if the variable can be packed. -/
def ofSigned (n : Int) : Option Literal :=
  if n = 0 ∨ n.natAbs > maxVars then none
  else some (of (UInt32.ofNat (n.natAbs - 1)) (decide (n < 0)))

/-- The signed number of a literal: its variable, counted from 1, negative if it is negated. -/
def toSigned (l : Literal) : Int :=
  if l.isNegative then -(l.varIndex + 1 : Int) else l.varIndex + 1

/-- Whether a literal is true under an assignment. -/
def holds (l : Literal) (assignment : Array Bool) : Bool :=
  assignment.getD l.varIndex false != l.isNegative

/-- A number that is the sign of no literal. -/
def outOfRange (n : Int) : Error :=
  .parse ("literal " ++ toString n ++ " out of range")

end Literal

end TrialFarm
