import TrialFarm.Wire.Link

/-!
# Senders and lines

A sender is all that whoever sends messages knows of a connection: how to send and how to close.
What a connection is, and whether sending succeeds, is left to the sender. Most often the connection
is a line: a link together with what it has handed over.

## Main definitions

* `Sender`: sending and closing on connections of some type.
* `Sender.log`: a sender that only writes down what is sent.
* `Line`, `Sender.line`: a link with what it handed over, and its sender.
-/

namespace TrialFarm.Wire

/-- Sending messages `ο` and closing, on a connection of type `ν`. -/
structure Sender (ο ν : Type) where
  send : ν → ο → ν × Except Error Unit
  close : ν → ν

/-- The sender that writes down what is sent. Sending always succeeds. -/
def Sender.log {ο : Type} : Sender ο (List ο) where
  send sent m := (sent ++ [m], .ok ())
  close sent := sent

/-- A link together with what it handed over and the peer has yet to get. -/
structure Line (ι ο : Type) where
  link : Link ι ο
  outgoing : List Parcel
  deriving Repr

namespace Line

variable {ι ο : Type}

/-- The line of a fresh connection, which was accepted here or not. -/
def fresh (accepted : Bool) : Line ι ο := ⟨Link.fresh accepted, []⟩

/-- Sends a message. -/
def send [MessageSet ο] (l : Line ι ο) (m : ο) : Line ι ο × Except Error Unit :=
  match l.link.send m with
  | (link, .error e) => ({ l with link := link }, .error e)
  | (link, .ok parcels) => (⟨link, l.outgoing ++ parcels⟩, .ok ())

/-- Closes the connection. -/
def close (l : Line ι ο) : Line ι ο × Except Error Unit :=
  match l.link.close with
  | (link, .error e) => ({ l with link := link }, .error e)
  | (link, .ok parcels) => (⟨link, l.outgoing ++ parcels⟩, .ok ())

/-- Receives the next message. -/
def receive [MessageSet ι] (l : Line ι ο) : Line ι ο × Arrival ι :=
  let (link, parcels, arrival) := l.link.receive
  (⟨link, l.outgoing ++ parcels⟩, arrival)

/-- Puts what the peer hands over behind all that waits. -/
def deliver (l : Line ι ο) (parcels : List Parcel) : Line ι ο :=
  { l with link := l.link.deliver parcels }

/-- The peer vanishes. -/
def vanish (l : Line ι ο) : Line ι ο :=
  { l with link := l.link.vanish }

/-- Takes what the peer has yet to get. -/
def takeOutgoing (l : Line ι ο) : List Parcel × Line ι ο :=
  (l.outgoing, { l with outgoing := [] })

end Line

/-- The sender of a line. That a close fails is of no interest to it. -/
def Sender.line {ι ο : Type} [MessageSet ο] : Sender ο (Line ι ο) where
  send := Line.send
  close l := l.close.1

end TrialFarm.Wire
