import TrialFarm.Wire.Channel

/-!
# Links

A link is one end of a connection: an outbox, an inbox and the end's standing in the closing
handshake. Whatever the peer hands over waits in order until it is received. To close, an end
hands over a close and waits for the peer's. An end owes an answer to the peer's close, and to its
signs of life while nobody has closed; it gives the answer when it next receives, sends or closes.
A peer may also vanish without a close, and then nothing can be handed over any more.

## Main definitions

* `Parcel`: what one end hands to the other.
* `Standing`: how far an end is with closing.
* `Link`: one end of a connection.
* `Link.send`, `Link.close`, `Link.receive`: the operations of an end.
-/

namespace TrialFarm.Wire

/-- What one end of a connection hands to the other. -/
inductive Parcel where
  /-- A binary message, which should hold one frame. -/
  | binary (data : Bytes)
  /-- A text message, which no channel allows. -/
  | text (content : String)
  /-- A sign of life of so many bytes, which is not visible to the receiver. -/
  | ping (size : Nat)
  /-- The end of what this side has to say. -/
  | close
  deriving DecidableEq, Repr

/-- How far an end is with closing its connection. -/
inductive Standing where
  /-- Neither side has closed. -/
  | active
  /-- This end has closed and the peer has not answered. -/
  | closing
  /-- The peer's close was received. -/
  | asked
  /-- This end has closed first and has received the peer's answer. -/
  | answered
  /-- The connection is over. -/
  | ended
  deriving DecidableEq, Repr

/-- Whether anything may still come from the peer. -/
def Standing.canRead : Standing → Bool
  | active | closing => true
  | asked | answered | ended => false

/-- What an end owes to its peer. -/
inductive Debt where
  /-- The answer to a sign of life, which the peer does not notice. -/
  | pong
  /-- The answer to a close. -/
  | close
  deriving DecidableEq, Repr

/-- What is handed over to pay a debt. -/
def Debt.parcels : Debt → List Parcel
  | pong => []
  | close => [.close]

/-- One end of a connection, which receives `ι` and sends `ο`. -/
structure Link (ι ο : Type) where
  /-- Whether the connection was accepted here, and not begun. Such an end leaves first when the
  closing handshake is over. -/
  accepted : Bool
  outbox : Outbox ο
  inbox : Inbox ι
  standing : Standing
  owed : Option Debt
  /-- Whether something could not be handed over, and still has to be. -/
  stuck : Bool
  /-- Whether a look at the connection has failed or has found its end, so that nothing more will be
  found. -/
  exhausted : Bool
  /-- Whether the peer vanished. -/
  peerGone : Bool
  /-- What the peer handed over and nobody received yet. -/
  waiting : List Parcel
  deriving Repr

/-- What a receiver finds. -/
inductive Arrival (ι : Type) where
  /-- Nothing is there. -/
  | nothing
  /-- The peer closed the connection. -/
  | closed
  | message (m : ι)
  | failed (e : Error)
  deriving Repr

/-- How an attempt to hand things over ends. -/
inductive Handover where
  | done
  /-- The connection is over, and this end leaves. -/
  | left
  /-- The peer is not there any more. -/
  | broken
  deriving DecidableEq, Repr

namespace Link

variable {ι ο : Type}

/-- An end of a fresh connection. -/
def fresh (accepted : Bool) : Link ι ο :=
  ⟨accepted, Outbox.fresh, Inbox.fresh, .active, none, false, false, false, []⟩

/-- Puts what the peer hands over behind all that waits. -/
def deliver (l : Link ι ο) (parcels : List Parcel) : Link ι ο :=
  { l with waiting := l.waiting ++ parcels }

/-- The peer vanishes. -/
def vanish (l : Link ι ο) : Link ι ο :=
  { l with peerGone := true }

/-- An operation on a connection whose peer vanished. -/
def brokenPipe : Error := .io "broken pipe"

/-- A violation of the rules of connections. -/
def misuse (detail : String) : Error := .transport ("WebSocket protocol error: " ++ detail)

/-- Hands things over, and all that is owed behind them. -/
def handOver (l : Link ι ο) (parcels : List Parcel) : Link ι ο × List Parcel × Handover :=
  let parcels := parcels ++ (l.owed.map Debt.parcels).getD []
  let idle := parcels.isEmpty && l.owed.isNone && !l.stuck
  let l := { l with owed := none }
  if l.peerGone && !idle then ({ l with stuck := true }, [], .broken)
  else if l.accepted && !l.standing.canRead then ({ l with standing := .ended }, parcels, .left)
  else (l, parcels, .done)

/-- Sends frames. The answer holds what is handed to the peer. -/
def sendFrames (l : Link ι ο) (frames : List Bytes) : Link ι ο × Except Error (List Parcel) :=
  match l.standing with
  | .active =>
    match l.handOver (frames.map .binary) with
    | (l, _, .broken) => (l, .error brokenPipe)
    | (l, parcels, _) => (l, .ok parcels)
  | .ended => (l, .error (.disconnected "connection closed"))
  | _ => (l, .error (misuse "Sending after closing is not allowed"))

/-- Sends a message. The answer holds what is handed to the peer. A window that was widened for a
message stays wide even if the message could not be handed over. -/
def send [MessageSet ο] (l : Link ι ο) (m : ο) : Link ι ο × Except Error (List Parcel) :=
  match l.outbox.prepare m with
  | .error e => (l, .error e)
  | .ok (frames, outbox) => { l with outbox := outbox }.sendFrames frames

/-- Closes the connection from this end. The answer holds what is handed to the peer. An end that
has closed already, or that was asked to, only hands over what it owes. -/
def close (l : Link ι ο) : Link ι ο × Except Error (List Parcel) :=
  let handed := match l.standing with
    | .active => { l with standing := .closing }.handOver [.close]
    | _ => l.handOver []
  match handed with
  | (l, _, .broken) => (l, .error brokenPipe)
  | (l, parcels, _) => (l, .ok parcels)

/-- The end of all looks at the connection. -/
def exhaust (l : Link ι ο) : Link ι ο := { l with exhausted := true }

/-- Hands over what is owed before the next look at what waits. The look fails or finds the end of
the connection if there is an arrival in the answer. -/
def settleDebt (l : Link ι ο) : Link ι ο × List Parcel × Option (Arrival ι) :=
  if l.owed.isSome then
    match l.handOver [] with
    | (l, parcels, .done) => (l, parcels, none)
    | (l, parcels, .left) => (l.exhaust, parcels, some .closed)
    | (l, parcels, .broken) => (l.exhaust, parcels, some (.failed brokenPipe))
  else if l.accepted && !l.standing.canRead then
    ({ l with standing := .ended }.exhaust, [], some .closed)
  else (l, [], none)

/-- A look at a connection on which nothing waits. -/
def lookAtNothing (l : Link ι ο) : Link ι ο × Arrival ι :=
  if !l.peerGone then (l, .nothing)
  else
    ({ l with standing := .ended }.exhaust,
      if l.standing.canRead then
        .failed (misuse "Connection reset without closing handshake")
      else .closed)

/-- Receives the peer's close. -/
def hearClose (l : Link ι ο) : Link ι ο :=
  if l.standing = .active then { l with standing := .asked, owed := some .close }
  else { l with standing := .answered }

/-- The most bytes of a sign of life. -/
def mostPingBytes : Nat := 125

/-- Receives a sign of life. -/
def hearPing (l : Link ι ο) : Link ι ο :=
  if l.standing = .active then { l with owed := some .pong } else l

/-- Looks through what waits for the first thing that matters to the receiver. -/
def search [MessageSet ι] (l : Link ι ο) : List Parcel → Link ι ο × List Parcel × Arrival ι
  | [] =>
    match { l with waiting := [] }.settleDebt with
    | (l, paid, some arrival) => (l, paid, arrival)
    | (l, paid, none) =>
      let (l, arrival) := l.lookAtNothing
      (l, paid, arrival)
  | parcel :: rest =>
    match { l with waiting := parcel :: rest }.settleDebt with
    | (l, paid, some arrival) => (l, paid, arrival)
    | (l, paid, none) =>
      let l := { l with waiting := rest }
      if !l.standing.canRead then
        (l.exhaust, paid, .failed (misuse "Remote sent after having closed"))
      else
        let goOn (l : Link ι ο) : Link ι ο × List Parcel × Arrival ι :=
          let (l, more, arrival) := search l rest
          (l, paid ++ more, arrival)
        match parcel with
        | .ping size =>
          if mostPingBytes < size then
            (l.exhaust, paid, .failed (misuse
              "Control frame too big (payload must be 125 bytes or less)"))
          else goOn l.hearPing
        | .text _ =>
          (l, paid, .failed (.protocol (MessageSet.channel ι) "unexpected text message"))
        | .close => (l.hearClose, paid, .closed)
        | .binary data =>
          match l.inbox.accept data with
          | .error e => (l, paid, .failed e)
          | .ok (.grown, inbox) => goOn { l with inbox := inbox }
          | .ok (.message m, inbox) => ({ l with inbox := inbox }, paid, .message m)

/-- Receives the next message. The answer also holds what is handed to the peer, which is what this
end owes. -/
def receive [MessageSet ι] (l : Link ι ο) : Link ι ο × List Parcel × Arrival ι :=
  if l.exhausted || l.standing = .ended then (l.exhaust, [], .closed)
  else l.search l.waiting

end Link

end TrialFarm.Wire
