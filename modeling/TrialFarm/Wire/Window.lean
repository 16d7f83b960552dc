import TrialFarm.Wire.Codec

/-!
# Windows

Each side of a channel first assumes that its peer takes payloads of 1024 bytes. A sender about to
exceed that announces the new size, and the receiver checks it and widens its own limit. Capacities
only grow, and never beyond the largest payload.

## Main definitions

* `Bounds`: the payload sizes of one kind of message.
* `SendWindow.reserve`: makes room for a payload and tells the size to announce.
* `ReceiveWindow.grow`: applies an announcement.
* `ReceiveWindow.check`: checks the size of a received payload.
-/

namespace TrialFarm.Wire

/-- The capacity of a fresh channel. -/
def freshCapacity : Nat := 1024

/-- The tag of an announcement, the same on every channel. -/
def growTag : Int32 := 1

/-- The payload size of an announcement. -/
def growLen : Nat := 4

/-- The payload sizes that one kind of message may have. -/
structure Bounds where
  /-- The smallest payload. -/
  min : Nat
  /-- The largest payload, if it is not just the capacity of the receiver. -/
  max : Option Nat
  deriving DecidableEq, Repr

/-- A payload of exactly `n` bytes. -/
def Bounds.exact (n : Nat) : Bounds := ⟨n, some n⟩

/-- A payload of at least `n` bytes. -/
def Bounds.atLeast (n : Nat) : Bounds := ⟨n, none⟩

/-- What a sender believes its peer can receive. -/
structure SendWindow where
  capacity : Nat
  deriving DecidableEq, Repr

/-- The window of a fresh channel. -/
def SendWindow.fresh : SendWindow := ⟨freshCapacity⟩

/-- Makes room for `len` bytes. The answer is the size to announce first, if there is need to. -/
def SendWindow.reserve (channel : Direction) (w : SendWindow) (len : Nat) :
    Except Error (Option Nat × SendWindow) :=
  if len > maxPayload then
    .error (.rejected (channel.code ++ " payload of " ++ toString len ++ " bytes exceeds the "
      ++ toString maxPayload ++ " byte maximum"))
  else if len ≤ w.capacity then .ok (none, w)
  else .ok (some len, ⟨len⟩)

/-- What a receiver accepts. -/
structure ReceiveWindow where
  capacity : Nat
  deriving DecidableEq, Repr

/-- The window of a fresh channel. -/
def ReceiveWindow.fresh : ReceiveWindow := ⟨freshCapacity⟩

/-- Applies an announcement. The window never shrinks. -/
def ReceiveWindow.grow (channel : Direction) (w : ReceiveWindow) (size : Int32) :
    Except Error ReceiveWindow :=
  if 1 ≤ size.toInt ∧ size.toInt ≤ maxPayload then .ok ⟨max w.capacity size.toInt.toNat⟩
  else
    .error (.protocol channel ("invalid buffer size " ++ toString size.toInt ++ " (allowed 1..="
      ++ toString maxPayload ++ ")"))

/-- The largest payload that the window allows for given bounds. -/
def ReceiveWindow.limit (w : ReceiveWindow) (bounds : Bounds) : Nat :=
  min (bounds.max.getD w.capacity) w.capacity

/-- Checks the size of a received payload against the bounds of its kind. -/
def ReceiveWindow.check (channel : Direction) (w : ReceiveWindow) (kind : String) (len : Nat)
    (bounds : Bounds) : Except Error Unit :=
  if bounds.min ≤ len ∧ len ≤ w.limit bounds then .ok ()
  else
    .error (.protocol channel (kind ++ " payload of " ++ toString len ++ " bytes outside "
      ++ toString bounds.min ++ "..=" ++ toString (w.limit bounds)))

end TrialFarm.Wire
