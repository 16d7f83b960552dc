import TrialFarm.Wire.Line

/-!
# Bare peers

A bare peer hands over whatever it likes and writes down what it is handed. Of the closing
handshake it knows only that a close is answered.

## Main definitions

* `Peer`: a bare peer.
* `Peer.say`, `Peer.hear`, `Peer.leave`: handing over, being handed, and vanishing.
* `Peer.relay`: the exchange between a line and the peer at its other end.
-/

namespace TrialFarm.Wire

/-- What a bare peer notices. -/
inductive Noticed where
  | frame (data : Bytes)
  | closed
  deriving DecidableEq, Repr

/-- A bare peer of a connection. -/
structure Peer where
  /-- Whether it has closed the connection. -/
  hasClosed : Bool
  /-- Whether it knows that the other side has closed. -/
  knowsClosed : Bool
  /-- Whether it has vanished. -/
  gone : Bool
  /-- What it noticed and nobody has looked at yet. -/
  noticed : List Noticed
  deriving Repr

namespace Peer

/-- A peer on a fresh connection. -/
def fresh : Peer := ⟨false, false, false, []⟩

/-- Hands something over, unless the peer has vanished or has closed. -/
def say (p : Peer) (parcel : Parcel) : Peer × List Parcel :=
  if p.gone || p.hasClosed then (p, [])
  else ({ p with hasClosed := parcel = .close }, [parcel])

/-- Learns that the other side has closed or is gone. -/
def hearClosed (p : Peer) : Peer :=
  if p.gone || p.knowsClosed then p
  else { p with knowsClosed := true, noticed := p.noticed ++ [.closed] }

/-- Is handed one thing. The answer holds what it hands over in turn. -/
def hearOne (p : Peer) : Parcel → Peer × List Parcel
  | .binary data => ({ p with noticed := p.noticed ++ [.frame data] }, [])
  | .close => p.hearClosed.say .close
  | .text _ | .ping _ => (p, [])

/-- Is handed several things. -/
def hear (p : Peer) : List Parcel → Peer × List Parcel
  | [] => (p, [])
  | parcel :: rest =>
    if p.gone then (p, [])
    else
      let (p, first) := p.hearOne parcel
      let (p, others) := p.hear rest
      (p, first ++ others)

/-- Is handed what a line has for it, and hands over its answers. -/
def relay {ι ο : Type} (p : Peer) (l : Line ι ο) : Peer × Line ι ο :=
  let (parcels, l) := l.takeOutgoing
  let (p, answers) := p.hear parcels
  (p, l.deliver answers)

/-- Vanishes. -/
def leave (p : Peer) : Peer := { p with gone := true }

/-- Takes what was noticed. -/
def takeNoticed (p : Peer) : List Noticed × Peer :=
  (p.noticed, { p with noticed := [] })

end Peer

end TrialFarm.Wire
