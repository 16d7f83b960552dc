/-!
# Verbosity

How much a program tells about what it does, chosen by how often a switch is given.

## Main definitions

* `Verbosity`: the four levels.
* `Verbosity.ofCount`: the level for a number of switches.
-/

namespace TrialFarm

/-- How much a program tells. Each level includes those before it. -/
inductive Verbosity where
  | warn
  | info
  | debug
  | trace
  deriving DecidableEq, Repr

namespace Verbosity

/-- The level for a number of switches. More than three are as good as three. -/
def ofCount : Nat → Verbosity
  | 0 => warn
  | 1 => info
  | 2 => debug
  | _ => trace

/-- The name of a level. -/
def name : Verbosity → String
  | warn => "warn"
  | info => "info"
  | debug => "debug"
  | trace => "trace"

end Verbosity

end TrialFarm
