/-!
# Shared problems

The trials of one file share one problem, which lives as long as some trial holds it. The cache
knows the living problems by filename; it does not keep them alive.

## Main definitions

* `Problem`: a problem of a file.
* `ProblemCache`: the table of problems and the handles on them.
* `ProblemCache.get`: a handle on the problem of a file.
* `ProblemCache.drop`: gives a handle back.
-/

namespace TrialFarm

/-- A problem. Two problems of one file, made one after the other, differ in their number. -/
structure Problem where
  number : Nat
  path : String
  deriving DecidableEq, Repr

/-- The problems that were handed out. -/
structure ProblemCache where
  /-- The table, which may still name problems that nobody holds. -/
  entries : List Problem
  /-- The number of the problem behind each living handle. -/
  handles : List Nat
  /-- The number of the next problem. -/
  next : Nat
  deriving DecidableEq, Repr

namespace ProblemCache

/-- A cache without problems. -/
def empty : ProblemCache := ⟨[], [], 0⟩

/-- Whether some handle on a problem is alive. -/
def isLive (c : ProblemCache) (p : Problem) : Bool :=
  c.handles.contains p.number

/-- Another handle on a problem that is alive. -/
def clone (c : ProblemCache) (p : Problem) : ProblemCache :=
  { c with handles := p.number :: c.handles }

/-- Gives back one handle on a problem. -/
def drop (c : ProblemCache) (p : Problem) : ProblemCache :=
  { c with handles := c.handles.erase p.number }

/-- The living problem of a file in the table. -/
def find? (c : ProblemCache) (path : String) : Option Problem :=
  c.entries.find? fun p => p.path == path && c.isLive p

/-- A handle on the problem of a file. If no such problem is alive a new one is made, and the table
forgets all problems that nobody holds. -/
def get (c : ProblemCache) (path : String) : Problem × ProblemCache :=
  match c.find? path with
  | some p => (p, c.clone p)
  | none =>
    let p : Problem := ⟨c.next, path⟩
    (p, { entries := c.entries.filter c.isLive ++ [p]
          handles := c.next :: c.handles
          next := c.next + 1 })

/-- The number of problems that are alive. -/
def live (c : ProblemCache) : Nat :=
  (c.entries.filter c.isLive).length

end ProblemCache

end TrialFarm
