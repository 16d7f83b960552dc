import TrialFarm.Cnf.Dimacs
import TrialFarm.Cnf.Literal

/-!
# Formulas

A formula that is ready for search has clauses without repeated literals, no clause that is true
under every assignment, and for every literal the list of the clauses it occurs in.

## Main definitions

* `Formula`: clauses and occurrences.
* `Formula.ofDimacs`: the formula of a written one.
* `Formula.isSatisfiedBy`: whether an assignment makes every clause true.
-/

namespace TrialFarm

/-- A formula prepared for search. -/
structure Formula where
  numVars : Nat
  clauses : Array (List Literal)
  /-- For each literal, the clauses it occurs in, in increasing order. -/
  occurrences : Array (List Nat)
  deriving Repr, Inhabited

namespace Formula

/-- Why a written formula cannot be prepared. -/
inductive Fault where
  | tooManyVars (numVars : Nat)
  | outOfRange (literal : Int)
  | exceeds (clause : List Int) (numVars : Nat)
  | emptyClause
  deriving DecidableEq, Repr

/-- A list of numbers between brackets. -/
def shownList (ns : List Int) : String :=
  "[" ++ ", ".intercalate (ns.map toString) ++ "]"

/-- The fault as an error of the library. -/
def Fault.toError : Fault → Error
  | tooManyVars numVars => .parse (toString numVars ++ " variables are too many")
  | outOfRange lit => Literal.outOfRange lit
  | exceeds clause numVars =>
    .parse ("clause " ++ shownList clause ++ " exceeds " ++ toString numVars ++ " variables")
  | emptyClause => .parse "empty clause"

/-- Puts a literal in its place in a sorted clause, unless it is there. -/
def insertLiteral (l : Literal) : List Literal → List Literal
  | [] => [l]
  | other :: rest =>
    if l.code < other.code then l :: other :: rest
    else if l = other then other :: rest
    else other :: insertLiteral l rest

/-- The literals of a clause in increasing order, each once. -/
def normalize (clause : List Literal) : List Literal :=
  clause.foldr insertLiteral []

/-- Whether a sorted clause holds both literals of a variable, which are neighbours then. -/
def isTautology : List Literal → Bool
  | a :: b :: rest => a.var == b.var || isTautology (b :: rest)
  | _ => false

/-- The literals of a written clause. -/
def readLiterals : List Int → Except Fault (List Literal)
  | [] => .ok []
  | n :: ns =>
    match Literal.ofSigned n with
    | none => .error (.outOfRange n)
    | some l =>
      match readLiterals ns with
      | .error fault => .error fault
      | .ok ls => .ok (l :: ls)

/-- Prepares one clause: sorted and without repetitions. -/
def readClause (numVars : Nat) (raw : List Int) : Except Fault (List Literal) :=
  match readLiterals raw with
  | .error fault => .error fault
  | .ok ls =>
    if ls.any (fun l => numVars ≤ l.varIndex) then .error (.exceeds raw numVars)
    else if ls.isEmpty then .error .emptyClause
    else .ok (normalize ls)

/-- Prepares all clauses and leaves out those that are always true. -/
def readClauses (numVars : Nat) : List (List Int) → Except Fault (List (List Literal))
  | [] => .ok []
  | raw :: raws =>
    match readClause numVars raw with
    | .error fault => .error fault
    | .ok clause =>
      match readClauses numVars raws with
      | .error fault => .error fault
      | .ok clauses => .ok (if isTautology clause then clauses else clause :: clauses)

/-- Notes that the literals occur in clause `index`. The lists are in decreasing order. -/
def noteClause (table : Array (List Nat)) (index : Nat) (clause : List Literal) :
    Array (List Nat) :=
  clause.foldl (fun table l => table.modify l.index (index :: ·)) table

/-- Notes the occurrences in clauses of which the first has the number `index`. -/
def noteClauses : Array (List Nat) → Nat → List (List Literal) → Array (List Nat)
  | table, _, [] => table
  | table, index, clause :: rest => noteClauses (noteClause table index clause) (index + 1) rest

/-- The formula of prepared clauses. -/
def ofClauses (numVars : Nat) (clauses : List (List Literal)) : Formula where
  numVars := numVars
  clauses := clauses.toArray
  occurrences := (noteClauses (Array.replicate (numVars * 2) []) 0 clauses).map List.reverse

/-- The formula of a written one. -/
def ofDimacs (f : Dimacs) : Except Fault Formula :=
  if f.numVars > Literal.maxVars then .error (.tooManyVars f.numVars)
  else
    match readClauses f.numVars f.clauses with
    | .error fault => .error fault
    | .ok clauses => .ok (ofClauses f.numVars clauses)

/-- The number of clauses. -/
def numClauses (f : Formula) : Nat := f.clauses.size

/-- A clause by its number. -/
def clause (f : Formula) (index : Nat) : List Literal := f.clauses.getD index []

/-- The clauses that hold a literal, in increasing order. -/
def occurrencesOf (f : Formula) (l : Literal) : List Nat := f.occurrences.getD l.index []

/-- The length of the longest list of occurrences. -/
def maxOccurrences (f : Formula) : Nat :=
  f.occurrences.foldl (fun most clauses => max most clauses.length) 0

/-- Whether an assignment has a value for each variable and makes every clause true. -/
def isSatisfiedBy (f : Formula) (assignment : Array Bool) : Bool :=
  assignment.size == f.numVars && f.clauses.all (fun clause => clause.any (·.holds assignment))

/-- Reads and prepares a formula from a file. -/
def load (files : Files) (path : String) : Except Error Formula :=
  match Dimacs.load files path with
  | .error e => .error e
  | .ok f => (ofDimacs f).mapError Fault.toError

end Formula

end TrialFarm
