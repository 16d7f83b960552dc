/-!
# Spans of time

A span is a whole number of seconds and a rest of nanoseconds.

## Main definitions

* `Span`: a length of time.
* `Span.micros`: whole microseconds, no more than a word can hold.
* `Span.seconds`: the span in seconds as a floating-point number.
* `Span.shown`: the short text of a span, in the largest unit that keeps it at least 1.
-/

namespace TrialFarm

/-- A length of time: whole seconds and, below a second, nanoseconds. -/
structure Span where
  secs : UInt64
  nanos : UInt32
  deriving DecidableEq, Repr, Inhabited

namespace Span

/-- No time at all. -/
def zero : Span := ⟨0, 0⟩

/-- A span of whole milliseconds. -/
def ofMillis (n : UInt64) : Span :=
  ⟨n / 1000, ((n % 1000) * 1000000).toUInt32⟩

/-- A span of whole seconds. -/
def ofSecs (n : UInt64) : Span := ⟨n, 0⟩

/-- A span of nanoseconds. -/
def ofNanos (n : Nat) : Span :=
  ⟨UInt64.ofNat (n / 1000000000), UInt32.ofNat (n % 1000000000)⟩

/-- Whole microseconds, cut off at the largest word. -/
def micros (d : Span) : UInt64 :=
  (min (d.secs.toNat * 1000000 + d.nanos.toNat / 1000) (UInt64.size - 1)).toUInt64

/-- The span in seconds. -/
def seconds (d : Span) : Float :=
  d.secs.toFloat + d.nanos.toFloat / 1000000000.0

/-- The fractional digits of `rest / unit`, where `unit` is a power of ten, without trailing
zeros. -/
def fraction (rest unit : Nat) : String :=
  let digits := (toString (unit + rest)).toList.drop 1
  let kept := (digits.reverse.dropWhile (· == '0')).reverse
  if kept.isEmpty then "" else "." ++ String.ofList kept

/-- The text of a span: in seconds, else milliseconds, else microseconds, else nanoseconds,
whichever is the first to reach 1. -/
def shown (d : Span) : String :=
  let nanos := d.nanos.toNat
  if d.secs ≠ 0 then toString d.secs ++ fraction nanos 1000000000 ++ "s"
  else if nanos ≥ 1000000 then
    toString (nanos / 1000000) ++ fraction (nanos % 1000000) 1000000 ++ "ms"
  else if nanos ≥ 1000 then toString (nanos / 1000) ++ fraction (nanos % 1000) 1000 ++ "µs"
  else toString nanos ++ "ns"

end Span

end TrialFarm
