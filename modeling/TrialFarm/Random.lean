/-!
# Pseudo-random numbers

A xorshift generator on 64-bit words. It is fast and has the whole range of non-zero words as its
period; it is not meant for secrets.

## Main definitions

* `Random.scramble`: the step on words.
* `Random`: a generator, with draws of words, of numbers in `[0, 1)` and of coin tosses.
-/

namespace TrialFarm

/-- A generator, which is its current word. -/
structure Random where
  state : UInt64
  deriving DecidableEq, Repr, Inhabited

namespace Random

/-- The generator of a seed. The seed 0, from which no step would leave, counts as 1. -/
def ofSeed (seed : UInt64) : Random :=
  ⟨if seed = 0 then 1 else seed⟩

/-- One step on words: three shifts, each xored into the word. -/
def scramble (x : UInt64) : UInt64 :=
  let x := x ^^^ (x <<< 13)
  let x := x ^^^ (x >>> 7)
  x ^^^ (x <<< 17)

/-- The generator after one step. -/
def next (r : Random) : Random :=
  ⟨scramble r.state⟩

/-- Draws a word. -/
def word (r : Random) : UInt64 × Random :=
  (r.next.state, r.next)

/-- The 53 leading bits of a word, which are the numerator of a draw from `[0, 1)`. -/
def numerator (x : UInt64) : UInt64 :=
  x >>> 11

/-- Draws a number from `[0, 1)` with 53 random bits. It is never rounded up to 1. -/
def fraction (r : Random) : Float × Random :=
  ((numerator r.next.state).toFloat * (1.0 / 9007199254740992.0), r.next)

/-- Draws a coin toss: the leading bit of a word. -/
def toss (r : Random) : Bool × Random :=
  (r.next.state >>> 63 == 1, r.next)

/-- Tosses `n` coins. -/
def tosses : Nat → Random → List Bool × Random
  | 0, r => ([], r)
  | n + 1, r =>
    let (coin, r) := r.toss
    let (coins, r) := tosses n r
    (coin :: coins, r)

end Random

end TrialFarm
