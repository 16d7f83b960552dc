/-!
# Shortest decimals

A floating-point number is shown with the fewest digits that read back as the same number; of
several such decimals, the nearest, and of two nearest ones the larger. It is written positionally,
whatever its size.

A positive finite number is `m * 2 ^ q` with `m` and `q` integers. The reals that round to it form
an interval, which includes its ends exactly when `m` is even. For 1, 2, ... 17 digits the two
neighbours of the number on the grid of such decimals are tested against the interval with exact
integer arithmetic.

## Main definitions

* `Binary`: a positive number `m * 2 ^ q` and the interval that rounds to it.
* `shortest`: the digits and the exponent of the shortest decimal.
* `Float.shown`: the text of a number.
-/

namespace TrialFarm.Shortest

/-- A positive number and the ends of the interval of reals that round to it. All three are
numerators over the common denominator `den`. -/
structure Binary where
  low : Nat
  value : Nat
  high : Nat
  den : Nat
  /-- Whether the ends belong to the interval. -/
  closed : Bool

/-- The number `m * 2 ^ q`. `narrow` says that the gap below it is half the gap above. -/
def Binary.of (m : Nat) (q : Int) (narrow : Bool) : Binary :=
  let up := Nat.pow 2 (q - 2).toNat
  { low := (4 * m - if narrow then 1 else 2) * up
    value := 4 * m * up
    high := (4 * m + 2) * up
    den := Nat.pow 2 (2 - q).toNat
    closed := m % 2 = 0 }

/-- A decimal `digits * 10 ^ exponent`. -/
structure Decimal where
  digits : Nat
  exponent : Int
  deriving DecidableEq, Repr

/-- The numerator and the denominator of `10 ^ k`. -/
def power (k : Int) : Nat × Nat :=
  (Nat.pow 10 k.toNat, Nat.pow 10 (-k).toNat)

/-- Whether `digits * 10 ^ k` rounds to the number. -/
def Binary.accepts (b : Binary) (digits : Nat) (k : Int) : Bool :=
  let (up, down) := power k
  let point := digits * up * b.den
  if b.closed then b.low * down ≤ point && point ≤ b.high * down
  else b.low * down < point && point < b.high * down

/-- The largest `e` with `10 ^ e` at most the number, starting from a guess and moving at most
`fuel` steps. -/
def Binary.magnitude (b : Binary) : Nat → Int → Int
  | 0, guess => guess
  | fuel + 1, guess =>
    let (up, down) := power guess
    if b.value * down < up * b.den then b.magnitude fuel (guess - 1)
    else if 10 * up * b.den ≤ b.value * down then b.magnitude fuel (guess + 1)
    else guess

/-- The nearer of the two neighbours of the number on the grid of multiples of `10 ^ k` that round
to it. Of two equally near ones it is the larger. -/
def Binary.onGrid (b : Binary) (k : Int) : Option Nat :=
  let (up, down) := power k
  let below := (b.value * down) / (up * b.den)
  let above := b.value * down - below * up * b.den
  let under := (below + 1) * up * b.den - b.value * down
  match b.accepts below k && below ≠ 0, b.accepts (below + 1) k with
  | true, true =>
    some (if above < under then below else below + 1)
  | true, false => some below
  | false, true => some (below + 1)
  | false, false => none

/-- The first grid, from coarse to fine, on which a neighbour of the number rounds to it. `k` is
the exponent of the first grid. -/
def Binary.firstGrid (b : Binary) : Nat → Int → Decimal
  | 0, k => ⟨(b.value * (power k).2) / ((power k).1 * b.den), k⟩
  | fuel + 1, k =>
    match b.onGrid k with
    | some digits => ⟨digits, k⟩
    | none => b.firstGrid fuel (k - 1)

/-- The shortest decimal that rounds to `m * 2 ^ q`. -/
def shortest (m : Nat) (q : Int) (narrow : Bool) : Decimal :=
  let b := Binary.of m q narrow
  let guess := (q + Nat.log2 m) * 30103 / 100000
  let e := b.magnitude 400 guess
  b.firstGrid 18 e

/-- A decimal written positionally. -/
def Decimal.shown (d : Decimal) : String :=
  let digits := (toString d.digits).toList
  let kept := (digits.reverse.dropWhile (· == '0')).reverse
  let exponent := d.exponent + (digits.length - kept.length : Nat)
  if exponent ≥ 0 then String.ofList (kept ++ List.replicate exponent.toNat '0')
  else
    let places := (-exponent).toNat
    if kept.length > places then
      String.ofList (kept.take (kept.length - places) ++ '.' :: kept.drop (kept.length - places))
    else String.ofList ('0' :: '.' :: List.replicate (places - kept.length) '0' ++ kept)

/-- The text of the number with the given bits. -/
def shownBits (bits : UInt64) : String :=
  let negative := bits >>> 63 == 1
  let field := (bits >>> 52 &&& 0x7ff).toNat
  let mantissa := (bits &&& 0xfffffffffffff).toNat
  let sign := if negative then "-" else ""
  if field = 0x7ff then
    if mantissa = 0 then sign ++ "inf" else "NaN"
  else if field = 0 then
    if mantissa = 0 then sign ++ "0"
    else sign ++ (shortest mantissa (-1074) false).shown
  else
    sign ++
      (shortest (0x10000000000000 + mantissa) (field - 1075) (mantissa = 0 && field > 1)).shown

end TrialFarm.Shortest

namespace TrialFarm

/-- A floating-point number as text: its shortest decimal, written positionally. -/
def shownFloat (x : Float) : String :=
  Shortest.shownBits x.toBits

/-- A floating-point number kept by its 64 bits, so that equality is equality of bits. -/
structure Binary64 where
  bits : UInt64
  deriving DecidableEq, Repr, Inhabited

namespace Binary64

/-- The bits of a number. -/
def ofFloat (x : Float) : Binary64 := ⟨x.toBits⟩

/-- The number with the given bits. -/
def toFloat (x : Binary64) : Float := Float.ofBits x.bits

/-- The number as text. -/
def shown (x : Binary64) : String := Shortest.shownBits x.bits

end Binary64

end TrialFarm
