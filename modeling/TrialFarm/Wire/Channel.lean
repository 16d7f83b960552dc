import TrialFarm.Wire.Message

/-!
# Channel ends

An outbox turns messages into frames and an inbox turns frames back into messages. Announcements
of larger payloads are made by the one and used up by the other, so that callers see only their own
messages.

## Main definitions

* `Outbox.prepare`: the frames that send a message.
* `Inbox.accept`: what one received frame means.
-/

namespace TrialFarm.Wire

/-- The sending end of a channel. -/
structure Outbox (μ : Type) where
  window : SendWindow
  deriving DecidableEq, Repr

/-- The sending end of a fresh channel. -/
def Outbox.fresh {μ : Type} : Outbox μ := ⟨SendWindow.fresh⟩

/-- The frame that announces payloads of up to `size` bytes. -/
def growFrame (size : Nat) : Bytes :=
  frame growTag (write (Int32.ofNat size))

/-- The frames that send a message: an announcement if the payload is larger than the window, then
the message itself. -/
def Outbox.prepare {μ : Type} [MessageSet μ] (o : Outbox μ) (m : μ) :
    Except Error (List Bytes × Outbox μ) :=
  match toPayload m with
  | .error e => .error e
  | .ok payload =>
    match o.window.reserve (MessageSet.channel μ) payload.length with
    | .error e => .error e
    | .ok (none, window) => .ok ([frame (MessageSet.tag m) payload], ⟨window⟩)
    | .ok (some size, window) =>
      .ok ([growFrame size, frame (MessageSet.tag m) payload], ⟨window⟩)

/-- The receiving end of a channel. -/
structure Inbox (μ : Type) where
  window : ReceiveWindow
  deriving DecidableEq, Repr

/-- The receiving end of a fresh channel. -/
def Inbox.fresh {μ : Type} : Inbox μ := ⟨ReceiveWindow.fresh⟩

/-- What a frame means to its receiver. -/
inductive Received (μ : Type) where
  /-- An announcement, which is now in force. -/
  | grown
  | message (m : μ)
  deriving DecidableEq, Repr

/-- Reads an announcement. -/
def Inbox.acceptGrow {μ : Type} [MessageSet μ] (i : Inbox μ) (payload : Bytes) :
    Except Error (Received μ × Inbox μ) :=
  let channel := MessageSet.channel μ
  match i.window.check channel "GROW_BUFFER" payload.length (.exact growLen) with
  | .error e => .error e
  | .ok () =>
    match decode (α := Int32) channel payload with
    | .error e => .error e
    | .ok size =>
      match i.window.grow channel size with
      | .error e => .error e
      | .ok window => .ok (.grown, ⟨window⟩)

/-- Reads a message. -/
def Inbox.acceptMessage {μ : Type} [MessageSet μ] (i : Inbox μ) (tag : Int32) (payload : Bytes) :
    Except Error (Received μ × Inbox μ) :=
  let channel := MessageSet.channel μ
  match MessageSet.describe μ tag with
  | none => .error (unknownTag channel tag)
  | some kind =>
    match i.window.check channel kind.name payload.length kind.bounds with
    | .error e => .error e
    | .ok () =>
      match fromPayload tag payload with
      | .error e => .error e
      | .ok m => .ok (.message m, i)

/-- What a received frame means. A frame that is refused changes nothing. -/
def Inbox.accept {μ : Type} [MessageSet μ] (i : Inbox μ) (data : Bytes) :
    Except Error (Received μ × Inbox μ) :=
  match splitFrame (MessageSet.channel μ) data with
  | .error e => .error e
  | .ok (tag, payload) =>
    if tag = growTag then i.acceptGrow payload else i.acceptMessage tag payload

end TrialFarm.Wire
