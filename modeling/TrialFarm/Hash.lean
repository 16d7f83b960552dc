/-!
# Hashes

SipHash with one compression round and three finalization rounds, keyed with zeros. A word is
hashed as its eight bytes, a text as its bytes followed by the byte 255, which no text contains.

## Main definitions

* `Sip.State`, `Sip.round`: the four words of the hash and one round on them.
* `Hash.bytes`, `Hash.word`, `Hash.text`: the hash of bytes, of a word and of a text.
-/

namespace TrialFarm

/-- The four words of a SipHash computation. -/
structure Sip where
  v0 : UInt64
  v1 : UInt64
  v2 : UInt64
  v3 : UInt64
  deriving Repr

namespace Sip

/-- A word turned left by `k` bits, for `0 < k < 64`. -/
def rotate (x k : UInt64) : UInt64 :=
  (x <<< k) ||| (x >>> (64 - k))

/-- One round of mixing. -/
def round (s : Sip) : Sip :=
  let v0 := s.v0 + s.v1
  let v1 := rotate s.v1 13 ^^^ v0
  let v0 := rotate v0 32
  let v2 := s.v2 + s.v3
  let v3 := rotate s.v3 16 ^^^ v2
  let v0 := v0 + v3
  let v3 := rotate v3 21 ^^^ v0
  let v2 := v2 + v1
  let v1 := rotate v1 17 ^^^ v2
  let v2 := rotate v2 32
  ⟨v0, v1, v2, v3⟩

/-- The state before any input, for a key of zeros. -/
def start : Sip :=
  ⟨0x736f6d6570736575, 0x646f72616e646f6d, 0x6c7967656e657261, 0x7465646279746573⟩

/-- Takes in one word of input. -/
def absorb (s : Sip) (m : UInt64) : Sip :=
  let s := round { s with v3 := s.v3 ^^^ m }
  { s with v0 := s.v0 ^^^ m }

/-- Ends the computation. -/
def finish (s : Sip) : UInt64 :=
  let s := round (round (round { s with v2 := s.v2 ^^^ 0xff }))
  s.v0 ^^^ s.v1 ^^^ s.v2 ^^^ s.v3

end Sip

namespace Hash

/-- The word whose little-endian bytes are the given ones, at most eight. -/
def pack : List UInt8 → UInt64
  | [] => 0
  | b :: bs => b.toUInt64 ||| (pack bs <<< 8)

/-- Takes in bytes in words of eight. The last word holds what is left over, at most seven bytes,
and the total length modulo 256 in its leading byte. -/
def absorbBytes (s : Sip) (length : UInt64) : List UInt8 → Sip
  | b0 :: b1 :: b2 :: b3 :: b4 :: b5 :: b6 :: b7 :: rest =>
    absorbBytes (s.absorb (pack [b0, b1, b2, b3, b4, b5, b6, b7])) length rest
  | rest => s.absorb (pack rest ||| (length <<< 56))

/-- The hash of a sequence of bytes. -/
def bytes (bs : List UInt8) : UInt64 :=
  (absorbBytes Sip.start bs.length.toUInt64 bs).finish

/-- The hash of a word. -/
def word (x : UInt64) : UInt64 :=
  let at_ (i : UInt64) : UInt8 := (x >>> (8 * i)).toUInt8
  bytes [at_ 0, at_ 1, at_ 2, at_ 3, at_ 4, at_ 5, at_ 6, at_ 7]

/-- The hash of a text. -/
def text (s : String) : UInt64 :=
  bytes (s.toByteArray.data.toList ++ [255])

end Hash

end TrialFarm
