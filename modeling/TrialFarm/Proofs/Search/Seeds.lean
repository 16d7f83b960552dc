import Mathlib.Data.FinEnum
import TrialFarm.Proofs.Search.Runs
import TrialFarm.Search.Sharing

/-!
# Seeds are kept apart

A step of a generator xors shifted copies into its word. A shift is linear and moves every bit out
in the end, so no word but 0 is its own shift, and a step loses nothing. Hence generators that
differ go on to differ as long as the same number of draws is made from both, and none of them comes
to 0, where it would stay. A trial draws from the generator of its seed and from no other.

## Main definitions

* `Draw`: what may be drawn from a generator.
* `Random.after`: a generator after some draws.
* `Trial.DrawsTo`: a trial only draws numbers on its way to another.

## Main statements

* `Random.scramble_bijective`: a step loses no word and reaches every word.
* `Random.after_eq_iterate`: every draw is one step, whatever is drawn.
* `Trial.random_start`, `Trial.drawsTo_perform`: what a trial draws.
* `Random.seeds_never_meet`: what follows for seeds.
-/

namespace TrialFarm

/-- What may be drawn from a generator. -/
inductive Draw where
  | word
  | fraction
  | toss
  deriving DecidableEq, Repr

namespace Random

/-! ### Shifts -/

/-- Shifts are linear, add up, and move every bit out in the end. -/
structure Shifts {w : Nat} (shift : BitVec w → Nat → BitVec w) : Prop where
  xor : ∀ x y n, shift (x ^^^ y) n = shift x n ^^^ shift y n
  add : ∀ x m n, shift x (m + n) = shift (shift x m) n
  out : ∀ x n, w ≤ n → shift x n = 0#w

theorem shifts_left (w : Nat) : Shifts fun (x : BitVec w) n => x <<< n :=
  ⟨BitVec.shiftLeft_xor_distrib, BitVec.shiftLeft_add, fun _ _ => BitVec.shiftLeft_eq_zero⟩

theorem shifts_right (w : Nat) : Shifts fun (x : BitVec w) (n : Nat) => x >>> n :=
  ⟨BitVec.ushiftRight_xor_distrib, BitVec.shiftRight_add, fun _ _ => BitVec.ushiftRight_eq_zero⟩

namespace Shifts

variable {w k : Nat} {shift : BitVec w → Nat → BitVec w} {x : BitVec w}

/-- A word that is its own shift is also its own shift by any multiple, by which no bit is left. -/
theorem eq_zero (shifts : Shifts shift) (moves : 0 < k) (fixed : x = shift x k) : x = 0#w := by
  have often (n : Nat) : x = shift x (k * (n + 1)) := by
    induction n with
    | zero => rwa [Nat.zero_add, Nat.mul_one]
    | succ n ih => rw [Nat.mul_succ, shifts.add, ← ih, ← fixed]
  have far : w ≤ k * (w + 1) := Nat.le_trans (Nat.le_succ w) (Nat.le_mul_of_pos_left (w + 1) moves)
  rw [often w, shifts.out x _ far]

/-- A word can be found again after its shift has been xored into it. -/
theorem xor_injective (shifts : Shifts shift) (moves : 0 < k) :
    Function.Injective fun x => x ^^^ shift x k := by
  intro x y same
  have vanishes : (x ^^^ y) ^^^ shift (x ^^^ y) k = 0#w := by
    calc (x ^^^ y) ^^^ shift (x ^^^ y) k
      _ = (x ^^^ shift x k) ^^^ (y ^^^ shift y k) := by rw [shifts.xor]; ac_rfl
      _ = 0#w := BitVec.xor_eq_zero_iff.mpr same
  have fixed : x ^^^ y = shift (x ^^^ y) k := BitVec.xor_eq_zero_iff.mp vanishes
  exact BitVec.xor_eq_zero_iff.mp (shifts.eq_zero moves fixed)

end Shifts

/-! ### One step -/

/-- Scrambling loses nothing of the state. -/
theorem scramble_injective : Function.Injective scramble := by
  intro x y same
  -- The shifts are undone one by one, beginning with the last.
  have third : (scramble x).toBitVec = (scramble y).toBitVec := congrArg UInt64.toBitVec same
  have second := (shifts_left 64).xor_injective (k := 17) (by decide) third
  have first := (shifts_right 64).xor_injective (k := 7) (by decide) second
  exact UInt64.toBitVec_inj.mp ((shifts_left 64).xor_injective (k := 13) (by decide) first)

theorem scramble_bijective : Function.Bijective scramble :=
  Finite.injective_iff_bijective.mp scramble_injective

/-- No two states have the same successor. -/
theorem next_injective : Function.Injective next := by
  rintro ⟨x⟩ ⟨y⟩ same
  exact congrArg Random.mk (scramble_injective (congrArg state same))

/-- The step of 0 leads back to 0, so no other word leads there. -/
theorem state_next_ne_zero {r : Random} (nonzero : r.state ≠ 0) : r.next.state ≠ 0 := by
  have stays : scramble 0 = 0 := by decide
  intro zero
  exact nonzero (scramble_injective (zero.trans stays.symm))

theorem state_ofSeed (seed : UInt64) : (ofSeed seed).state = if seed = 0 then 1 else seed := rfl

/-- No seed gives the state zero, from which the generator would not move. -/
theorem state_ofSeed_ne_zero (seed : UInt64) : (ofSeed seed).state ≠ 0 := by
  rw [state_ofSeed]
  split
  · decide
  · assumption

theorem toNat_numerator (x : UInt64) : (numerator x).toNat = x.toNat / 2 ^ 11 :=
  Nat.shiftRight_eq_div_pow x.toNat 11

/-- The numerator of a draw is below the denominator. -/
theorem toNat_numerator_lt (x : UInt64) : (numerator x).toNat < 2 ^ 53 := by
  have := x.toNat_lt
  rw [toNat_numerator]
  omega

/-! ### Many draws -/

/-- A generator after a draw. -/
def afterDraw (r : Random) : Draw → Random
  | .word => r.word.2
  | .fraction => r.fraction.2
  | .toss => r.toss.2

/-- A generator after some draws. -/
def after (r : Random) (draws : List Draw) : Random := draws.foldl afterDraw r

variable {r q : Random} {draws others : List Draw}

/-- Every draw moves the generator one step. -/
theorem afterDraw_eq_next (r : Random) (draw : Draw) : r.afterDraw draw = r.next := by
  cases draw <;> rfl

theorem after_cons (r : Random) (draw : Draw) (draws : List Draw) :
    r.after (draw :: draws) = (r.afterDraw draw).after draws := rfl

/-- Draws and more draws are made one after the other. -/
theorem after_append (r : Random) (draws others : List Draw) :
    r.after (draws ++ others) = (r.after draws).after others :=
  List.foldl_append

/-- What is drawn makes no difference to the generator, only how much. -/
theorem after_eq_iterate (r : Random) (draws : List Draw) :
    r.after draws = next^[draws.length] r := by
  induction draws generalizing r with
  | nil => rfl
  | cons draw draws ih =>
    rw [after_cons, afterDraw_eq_next, ih, List.length_cons, Function.iterate_succ_apply]

/-- No draw gives the state zero. -/
theorem state_after_ne_zero (nonzero : r.state ≠ 0) : (r.after draws).state ≠ 0 := by
  induction draws generalizing r with
  | nil => exact nonzero
  | cons draw draws ih =>
    rw [after_cons, afterDraw_eq_next]
    exact ih (state_next_ne_zero nonzero)

/-- Generators give the same word after as many draws only if they are the same. -/
theorem word_after_inj (same : draws.length = others.length) :
    (r.after draws).word.1 = (q.after others).word.1 ↔ r = q := by
  rw [after_eq_iterate, after_eq_iterate, same]
  constructor
  · intro words
    have steps : (next^[others.length] r).next = (next^[others.length] q).next :=
      congrArg Random.mk words
    exact next_injective.iterate _ (next_injective steps)
  · rintro rfl
    rfl

/-- Only the seeds zero and one share a generator. -/
theorem ofSeed_inj {seed other : UInt64} : ofSeed seed = ofSeed other ↔
    (if seed = 0 then 1 else seed) = if other = 0 then 1 else other := by
  rw [ofSeed, ofSeed, Random.mk.injEq]

/-- Every toss is one draw. -/
theorem tosses_snd (n : Nat) (r : Random) : (tosses n r).2 = r.after (List.replicate n .toss) := by
  induction n generalizing r with
  | zero => rfl
  | succ n ih => exact ih r.toss.2

end Random

/-! ### Trials -/

namespace Trial

variable {σ : Type} {w : Weigher σ} {f : Formula} {s : σ} {t t' t'' : Trial}

/-- A trial only draws numbers on its way to another. -/
def DrawsTo (t t' : Trial) : Prop :=
  ∃ n, t'.random = t.random.after (List.replicate n .fraction)

theorem DrawsTo.refl (t : Trial) : t.DrawsTo t := ⟨0, rfl⟩

theorem DrawsTo.trans (first : t.DrawsTo t') (next : t'.DrawsTo t'') : t.DrawsTo t'' := by
  obtain ⟨m, drawn⟩ := first
  obtain ⟨n, drawn'⟩ := next
  refine ⟨m + n, ?_⟩
  rw [drawn', drawn, ← Random.after_append, List.replicate_append_replicate]

/-- A trial begins with one toss for every variable. -/
theorem random_start (f : Formula) (seed : UInt64) :
    (start f seed).random = (Random.ofSeed seed).after (List.replicate f.numVars .toss) := by
  rw [← Random.tosses_snd]
  exact (Aside.foldl (aside_enter f) _ _).random

/-- A step draws from the trial's own generator. -/
theorem drawsTo_step : t.DrawsTo (step w f s t).1 := by
  by_cases solved : t.isSolved = true
  · rw [step_of_solved solved]
    exact DrawsTo.refl t
  · have unsolved : t.isSolved = false := by simpa using solved
    refine ⟨1, ?_⟩
    -- The number is drawn before it turns out that a clause has no literal to flip.
    by_cases stuck : f.clause t.picked = []
    · rw [step_of_stuck unsolved stuck]
      rfl
    · obtain ⟨l, -, stepped⟩ := step_of_clause (w := w) (s := s) unsolved stuck
      rw [stepped]
      exact (aside_flip f _ l.var).random

theorem drawsTo_run (budget : UInt64) : t.DrawsTo (run w f budget s t).1 := by
  rw [run]
  generalize budget.toNat - t.flips.toNat = fuel
  induction fuel generalizing s t with
  | zero => exact DrawsTo.refl t
  | succ fuel ih =>
    rw [runFor]
    split
    · exact DrawsTo.refl t
    · exact drawsTo_step.trans ih

/-- All calls on a trial draw from its own generator. -/
theorem drawsTo_perform (calls : List TrialCall) : t.DrawsTo (perform w f calls s t).1 := by
  induction calls generalizing s t with
  | nil => exact DrawsTo.refl t
  | cons call calls ih =>
    have one : t.DrawsTo (t.call w f s call).1 := by
      cases call with
      | step => exact drawsTo_step
      | run budget => exact drawsTo_run budget
    exact one.trans ih

end Trial

/-- Every draw is one step, and steps are a bijection on words. So the generator of a seed never
comes to 0, and at the same place among any draws two seeds give different words exactly if they
differ, where 0 counts as 1. A number from `[0, 1)` is made from an integer below `2 ^ 53`. A trial
draws from the generator of its seed: a toss for every variable, and from then on only numbers. -/
theorem Random.seeds_never_meet (seed other : UInt64) :
    (Function.Bijective scramble ∧
      ∀ (r : Random) (draw : Draw), (r.afterDraw draw).state = scramble r.state) ∧
    (∀ draws, ((ofSeed seed).after draws).state ≠ 0) ∧
    (∀ draws others : List Draw, draws.length = others.length →
      (((ofSeed seed).after draws).word.1 ≠ ((ofSeed other).after others).word.1 ↔
        (if seed = 0 then 1 else seed) ≠ if other = 0 then 1 else other)) ∧
    (∀ draws, let k := numerator ((ofSeed seed).after draws).word.1
      k.toNat < 2 ^ 53 ∧
        ((ofSeed seed).after draws).fraction.1 = k.toFloat * (1.0 / 9007199254740992.0)) ∧
    ∀ f, (Trial.start f seed).random = (ofSeed seed).after (List.replicate f.numVars .toss) ∧
      ∀ {σ : Type} (w : Weigher σ) (s : σ) (calls : List TrialCall),
        ∃ n, (Trial.perform w f calls s (Trial.start f seed)).1.random =
          (Trial.start f seed).random.after (List.replicate n .fraction) := by
  have steps (r : Random) (draw : Draw) : (r.afterDraw draw).state = scramble r.state := by
    rw [afterDraw_eq_next, next]
  refine ⟨⟨scramble_bijective, steps⟩, fun draws => state_after_ne_zero (state_ofSeed_ne_zero seed),
    fun draws others same => ?_, fun draws => ⟨toNat_numerator_lt _, rfl⟩,
    fun f => ⟨Trial.random_start f seed, fun w s calls => Trial.drawsTo_perform calls⟩⟩
  exact not_congr ((word_after_inj same).trans ofSeed_inj)

/-- The seed 0 counts as 1, so it is told from 2, whatever is drawn before. -/
theorem Random.seeds_never_meet_zeroAndTwo :
    [Draw.toss, .fraction].length = [Draw.word, .word].length ∧
      (if (0 : UInt64) = 0 then (1 : UInt64) else 0) ≠ (if (2 : UInt64) = 0 then 1 else 2) ∧
      ((ofSeed 0).after [.toss, .fraction]).word.1 ≠ ((ofSeed 2).after [.word, .word]).word.1 := by
  have apart : (if (0 : UInt64) = 0 then (1 : UInt64) else 0) ≠
      if (2 : UInt64) = 0 then 1 else 2 := by decide
  have words := (seeds_never_meet 0 2).2.2.1 [.toss, .fraction] [.word, .word] rfl
  exact ⟨rfl, apart, words.mpr apart⟩

end TrialFarm
