/-!
# Reading integers

An integer is written with decimal digits and an optional sign. It must lie in the range of the
type it is read for; the first digit that leaves the range is a fault even if what follows is no
digit.

## Main definitions

* `Integer.Fault`: why a text is not an integer of the range.
* `Integer.readNatural`: an unsigned integer up to a bound; a plus sign is allowed.
* `Integer.readSigned`: a signed integer between two bounds.
-/

namespace TrialFarm.Integer

/-- Why a text is not an integer of the wanted range. -/
inductive Fault where
  | empty
  | digit
  | large
  | small
  deriving DecidableEq, Repr

/-- The text shown for a fault. -/
def Fault.message : Fault → String
  | empty => "cannot parse integer from empty string"
  | digit => "invalid digit found in string"
  | large => "number too large to fit in target type"
  | small => "number too small to fit in target type"

/-- Reads digits onto the number `read` so far. A number above `bound` is the fault `beyond`. -/
def readDigits (bound : Nat) (beyond : Fault) : Nat → List Char → Except Fault Nat
  | read, [] => .ok read
  | read, c :: cs =>
    if c.isDigit then
      let next := read * 10 + (c.toNat - '0'.toNat)
      if next > bound then .error beyond else readDigits bound beyond next cs
    else .error .digit

/-- Reads an unsigned integer of at most `bound`. -/
def readNatural (bound : Nat) : List Char → Except Fault Nat
  | [] => .error .empty
  | ['+'] => .error .digit
  | '+' :: cs => readDigits bound .large 0 cs
  | cs => readDigits bound .large 0 cs

/-- Reads an integer from `-low` to `high`. -/
def readSigned (low high : Nat) : List Char → Except Fault Int
  | [] => .error .empty
  | ['+'] => .error .digit
  | ['-'] => .error .digit
  | '+' :: cs => (readDigits high .large 0 cs).map Int.ofNat
  | '-' :: cs => (readDigits low .small 0 cs).map (fun n => -Int.ofNat n)
  | cs => (readDigits high .large 0 cs).map Int.ofNat

end TrialFarm.Integer
