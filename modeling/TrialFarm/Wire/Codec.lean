import TrialFarm.Error
import TrialFarm.Wire.Layout

/-!
# Payloads and frames

A payload is the layout of one value and holds at most 65536 bytes. A frame is a tag of four bytes
followed by a payload.

## Main definitions

* `maxPayload`: the most bytes a payload may hold.
* `encode`, `decode`: values as payloads of a channel.
* `frame`, `splitFrame`: payloads with their tags.
-/

namespace TrialFarm.Wire

/-- The most bytes that any payload may hold. -/
def maxPayload : Nat := 65536

/-- The bytes of the count before a text or a list. -/
def countLen : Nat := 8

/-- The size of a text or a list whose content takes `n` bytes. -/
def prefixedLen (n : Nat) : Nat := countLen + n

/-- A payload that is too large to travel. -/
def oversized (channel : Direction) : Error :=
  .rejected (channel.code ++ " payload exceeds the " ++ toString maxPayload ++ " byte maximum")

/-- A value that cannot be written because its length is not known in advance. -/
def unsized (channel : Direction) : Error :=
  .internal (channel.code ++ " payload encoding failed: Bincode can only encode sequences and maps "
    ++ "that have a knowable size ahead of time")

/-- Accepts bytes as a payload unless they are too many. -/
def limited (channel : Direction) (bytes : Bytes) : Except Error Bytes :=
  if bytes.length ≤ maxPayload then .ok bytes else .error (oversized channel)

/-- The payload of a value. -/
def encode {α : Type} [Layout α] (channel : Direction) (a : α) : Except Error Bytes :=
  limited channel (write a)

/-- The protocol violation of a malformed payload. -/
def malformed (channel : Direction) (cause : Malformed) : Error :=
  .protocol channel ("malformed payload: " ++ cause.message)

/-- The value of a payload. Truncated and left-over bytes violate the protocol. -/
def decode {α : Type} [Layout α] (channel : Direction) (payload : Bytes) : Except Error α :=
  (readAll payload).mapError (malformed channel)

/-- A payload behind its tag. -/
def frame (tag : Int32) (payload : Bytes) : Bytes :=
  write tag ++ payload

/-- Splits a frame into its tag and its payload. -/
def splitFrame (channel : Direction) (data : Bytes) : Except Error (Int32 × Bytes) :=
  match read (α := Int32) data with
  | .ok (tag, payload) => .ok (tag, payload)
  | .error _ =>
    .error (.protocol channel ("frame of " ++ toString data.length ++ " bytes has no tag"))

end TrialFarm.Wire
