import TrialFarm.Error
import TrialFarm.Files
import TrialFarm.Number.Integer
import TrialFarm.Text.Blank
import TrialFarm.Text.Quoted
import TrialFarm.Text.Utf8

/-!
# The DIMACS format

A formula in conjunctive normal form is written as a header line `p cnf <vars> <clauses>` and the
literals of the clauses, each clause ended by 0. Clauses may span lines. Lines that start with `c`
are comments, and a line that starts with `%` ends the formula.

## Main definitions

* `Dimacs`: a formula as it is written.
* `Dimacs.Fault`: why a text is not such a formula.
* `Dimacs.parse`, `Dimacs.parseBytes`: reading a formula.
* `Dimacs.print`: the canonical text of a formula.
-/

namespace TrialFarm

/-- A formula as it is written. -/
structure Dimacs where
  /-- Variables, as the header declares them. -/
  numVars : Nat
  /-- Clauses, as the header declares them; they may be more or fewer. -/
  declared : Nat
  clauses : List (List Int)
  deriving DecidableEq, Repr

namespace Dimacs

/-- Why a text is not a formula. Lines are counted from 1. -/
inductive Fault where
  | duplicateHeader (line : Nat)
  | header (line : Nat)
  | varCount (line : Nat) (fault : Integer.Fault)
  | clauseCount (line : Nat) (fault : Integer.Fault)
  /-- The header declares more clauses than memory has addresses for. -/
  | capacity
  | noHeader
  | literal (line : Nat) (token : String) (fault : Integer.Fault)
  | emptyClause (line : Nat)
  | range (line : Nat) (lit : Int) (numVars : Nat)
  /-- A line is not UTF-8. -/
  | undecodable
  deriving DecidableEq, Repr

/-- The text shown for a fault. -/
def Fault.message : Fault → String
  | duplicateHeader line => "line " ++ toString line ++ ": duplicate header"
  | header line => "line " ++ toString line ++ ": expected 'p cnf <vars> <clauses>'"
  | varCount line fault =>
    "line " ++ toString line ++ ": invalid variable count: " ++ fault.message
  | clauseCount line fault =>
    "line " ++ toString line ++ ": invalid clause count: " ++ fault.message
  | capacity => "capacity overflow"
  | noHeader => "DIMACS header 'p cnf ...' not found"
  | literal line token fault =>
    "line " ++ toString line ++ ": invalid literal " ++ Text.quoted token ++ ": " ++ fault.message
  | emptyClause line => "line " ++ toString line ++ ": empty clause"
  | range line lit numVars =>
    "line " ++ toString line ++ ": literal " ++ toString lit ++ " exceeds declared "
      ++ toString numVars ++ " variables"
  | undecodable => Refusal.notText.message

/-- A fault as an error of the library. Room that cannot be had is not refused but a crash. -/
def Fault.toError : Fault → Error
  | undecodable => .io undecodable.message
  | capacity => .crash capacity.message
  | fault => .parse fault.message

/-- The largest count that a header may declare. -/
def maxCount : Nat := UInt64.size - 1

/-- The most clauses that there are addresses for. A clause takes 24 bytes. -/
def maxClauses : Nat := 0x7fffffffffffffff / 24

/-- The clauses read so far, the last ones first, and the literals of the clause that is not yet
ended, also in reverse. -/
structure Progress where
  clauses : List (List Int)
  current : List Int
  deriving DecidableEq, Repr

/-- Ends the current clause. -/
def Progress.endClause (p : Progress) : Progress :=
  ⟨p.current.reverse :: p.clauses, []⟩

/-- All clauses in order. A current clause that holds literals is the last one. -/
def Progress.toClauses (p : Progress) : List (List Int) :=
  (if p.current.isEmpty then p else p.endClause).clauses.reverse

/-- Reads a literal or a 0. -/
def readToken (numVars line : Nat) (p : Progress) (token : List Char) : Except Fault Progress :=
  match Integer.readSigned 0x8000000000000000 0x7fffffffffffffff token with
  | .error fault => .error (.literal line (String.ofList token) fault)
  | .ok lit =>
    if lit = 0 then
      if p.current.isEmpty then .error (.emptyClause line) else .ok p.endClause
    else if lit.natAbs > numVars then .error (.range line lit numVars)
    else .ok { p with current := lit :: p.current }

/-- Reads the tokens of a line. -/
def readTokens (numVars line : Nat) : Progress → List (List Char) → Except Fault Progress
  | p, [] => .ok p
  | p, token :: tokens =>
    match readToken numVars line p token with
    | .error fault => .error fault
    | .ok p => readTokens numVars line p tokens

/-- Reads the counts of a header line. Room for the declared clauses is taken at once. -/
def readHeader (line : Nat) (content : List Char) : Except Fault (Nat × Nat) :=
  match Text.fields content with
  | [_, format, vars, clauses] =>
    if format = ['c', 'n', 'f'] then
      match Integer.readNatural maxCount vars with
      | .error fault => .error (.varCount line fault)
      | .ok numVars =>
        match Integer.readNatural maxCount clauses with
        | .error fault => .error (.clauseCount line fault)
        | .ok declared =>
          if maxClauses < declared then .error .capacity else .ok (numVars, declared)
    else .error (.header line)
  | _ => .error (.header line)

/-- Reads the lines after the header. `line` counts the lines before them. A line that could not
be decoded is a fault when it is reached. -/
def readBody (numVars : Nat) : Nat → Progress → List (Option (List Char)) → Except Fault Progress
  | _, p, [] => .ok p
  | _, _, none :: _ => .error .undecodable
  | line, p, some raw :: rest =>
    let content := Text.trim raw
    match content with
    | [] => readBody numVars (line + 1) p rest
    | 'c' :: _ => readBody numVars (line + 1) p rest
    | '%' :: _ => .ok p
    | 'p' :: _ => .error (.duplicateHeader (line + 1))
    | _ =>
      match readTokens numVars (line + 1) p (Text.fields content) with
      | .error fault => .error fault
      | .ok p => readBody numVars (line + 1) p rest

/-- Reads the lines up to the header and then the rest. -/
def readLines : Nat → List (Option (List Char)) → Except Fault Dimacs
  | _, [] => .error .noHeader
  | _, none :: _ => .error .undecodable
  | line, some raw :: rest =>
    let content := Text.trim raw
    match content with
    | [] => readLines (line + 1) rest
    | 'c' :: _ => readLines (line + 1) rest
    | 'p' :: _ =>
      match readHeader (line + 1) content with
      | .error fault => .error fault
      | .ok (numVars, declared) =>
        match readBody numVars (line + 1) ⟨[], []⟩ rest with
        | .error fault => .error fault
        | .ok p => .ok ⟨numVars, declared, p.toClauses⟩
    | _ => .error .noHeader

/-- Reads a formula from a text. -/
def parse (text : String) : Except Fault Dimacs :=
  readLines 0 ((Text.splitLines text.toList).map some)

/-- Reads a formula from bytes. Each line is decoded when it is reached. -/
def parseBytes (bytes : List UInt8) : Except Fault Dimacs :=
  readLines 0 ((Text.splitFrom (· == 10) [] bytes).map fun line =>
    match Utf8.decode line with
    | .error _ => none
    | .ok s => some s.toList)

/-- Reads a formula from a file. A directory can be opened but not read. -/
def load (files : Files) (path : String) : Except Error Dimacs :=
  match files.find path with
  | .error refusal => .error (.parse ("cannot open " ++ path ++ ": " ++ refusal.message))
  | .ok .folder => .error (.io Refusal.isDirectory.message)
  | .ok (.file content) => (parseBytes content).mapError Fault.toError

/-- The text of a clause. -/
def printClause (clause : List Int) : String :=
  String.join (clause.map fun lit => toString lit ++ " ") ++ "0\n"

/-- The canonical text of a formula, which declares the clauses that are there. -/
def print (f : Dimacs) : String :=
  "p cnf " ++ toString f.numVars ++ " " ++ toString f.clauses.length ++ "\n"
    ++ String.join (f.clauses.map printClause)

end Dimacs

end TrialFarm
