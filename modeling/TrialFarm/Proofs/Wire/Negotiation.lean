import TrialFarm.Proofs.Wire.Reception

/-!
# Buffer negotiation

A sender keeps what it believes that its peer can receive, and the peer keeps what it accepts. The
two are equal at the start, an announcement sets both to the same size, and nothing else changes
them. So they are equal again whenever everything that was sent is received, and then the next
message that can travel is received as well.

## Main definitions

* `Link.sendAll`: sending messages one after another, passing over failures.
* `Link.receiveTimes`: receiving so many times.
* `sendable`: the messages that can travel.
* `widest`: the largest payload so far.

## Main statements

* `Link.send_intact`, `Link.receive_framesFor`: one message, sent and received.
* `Link.receiveTimes_sendAll`: messages one after another, sent and then received.
* `negotiation_exact`: what is announced, sent and received, and the capacities behind it.
-/

namespace TrialFarm.Wire

variable {μ : Type} [MessageSet μ]

/-- The bytes of the payload of a message. -/
def payloadLen (m : μ) : Nat := (MessageSet.body m).length

/-- The messages that can travel. -/
def sendable (ms : List μ) : List μ := ms.filter fun m => payloadLen m ≤ maxPayload

/-- The largest payload of the messages that can travel, or `w` if that is larger. -/
def widest (w : Nat) (ms : List μ) : Nat := ((sendable ms).map payloadLen).foldl max w

/-- What a sender whose peer takes `w` bytes puts on the wire for a message. -/
def framesFor (w : Nat) (m : μ) : List Bytes :=
  (if w < payloadLen m then [growFrame (payloadLen m)] else []) ++
    [frame (MessageSet.tag m) (MessageSet.body m)]

/-- The length that the sender computes is the length that it declares. -/
theorem payloadLen_eq [CanonicalSet μ] (m : μ) : payloadLen m = encodedLen m :=
  CanonicalSet.length_body m

section Sizes

variable {w : Nat} {m : μ} {ms : List μ}

theorem sendable_cons_of_fits (fits : payloadLen m ≤ maxPayload) :
    sendable (m :: ms) = m :: sendable ms :=
  List.filter_cons_of_pos (decide_eq_true fits)

theorem sendable_cons_of_large (large : ¬payloadLen m ≤ maxPayload) :
    sendable (m :: ms) = sendable ms :=
  List.filter_cons_of_neg (by simpa using large)

theorem widest_cons_of_fits (fits : payloadLen m ≤ maxPayload) :
    widest w (m :: ms) = widest (max w (payloadLen m)) ms := by
  rw [widest, sendable_cons_of_fits fits]
  rfl

theorem widest_cons_of_large (large : ¬payloadLen m ≤ maxPayload) :
    widest w (m :: ms) = widest w ms := by
  rw [widest, sendable_cons_of_large large]
  rfl

/-- A size is larger than all so far exactly if it is larger than each. -/
theorem widest_lt_iff {n : Nat} :
    widest w ms < n ↔ w < n ∧ ∀ m ∈ sendable ms, payloadLen m < n := by
  induction ms generalizing w with
  | nil => exact (and_iff_left nofun).symm
  | cons m ms ih =>
    by_cases fits : payloadLen m ≤ maxPayload
    · rw [widest_cons_of_fits fits, sendable_cons_of_fits fits, ih, Nat.max_lt, and_assoc,
        List.forall_mem_cons]
    · rw [widest_cons_of_large fits, sendable_cons_of_large fits, ih]

end Sizes

namespace Link

variable {ι ο : Type}

/-- Sends messages one after another, and passes over those that fail. The answer holds all that is
handed to the peer. -/
def sendAll [MessageSet ο] (l : Link ι ο) : List ο → Link ι ο × List Parcel
  | [] => (l, [])
  | m :: ms =>
    match l.send m with
    | (l, .error _) => l.sendAll ms
    | (l, .ok parcels) => ((l.sendAll ms).1, parcels ++ (l.sendAll ms).2)

/-- Receives so many times. -/
def receiveTimes [MessageSet ι] (l : Link ι ο) : Nat → Link ι ο × List (Arrival ι)
  | 0 => (l, [])
  | n + 1 =>
    let (l, _, arrival) := l.receive
    ((l.receiveTimes n).1, arrival :: (l.receiveTimes n).2)

/-! ### One message -/

section One

variable [CanonicalSet μ] {accepted : Bool} {i : Inbox ι} {w : Nat} {m : μ}

/-- A message above the limit is refused, and the link is as before. -/
theorem send_intact_of_large (large : ¬payloadLen m ≤ maxPayload) {o : Outbox μ} :
    (intact accepted o i []).send m =
      (intact accepted o i [], .error (oversized (MessageSet.channel μ))) := by
  rw [payloadLen_eq] at large
  rw [send, Outbox.prepare, toPayload_of_large large]

/-- A message within the limit is framed, behind an announcement if it is wider than all before it.
-/
theorem prepare_eq (fits : payloadLen m ≤ maxPayload) :
    (⟨⟨w⟩⟩ : Outbox μ).prepare m = .ok (framesFor w m, ⟨⟨max w (payloadLen m)⟩⟩) := by
  have made : toPayload m = .ok (MessageSet.body m) :=
    toPayload_eq_ok_iff.mpr ⟨payloadLen_eq m ▸ fits, rfl⟩
  have size : (MessageSet.body m).length = payloadLen m := rfl
  rw [Outbox.prepare, made]
  dsimp only
  rw [size, SendWindow.reserve, if_neg (Nat.not_lt.mpr fits), framesFor]
  by_cases wide : payloadLen m ≤ w
  · rw [if_pos wide, if_neg (Nat.not_lt.mpr wide), Nat.max_eq_left wide]
    rfl
  · rw [if_neg wide, if_pos (Nat.lt_of_not_le wide), Nat.max_eq_right (Nat.le_of_not_le wide)]
    rfl

/-- On an intact link the frames of a message within the limit are all sent. -/
theorem send_intact (fits : payloadLen m ≤ maxPayload) :
    (intact accepted (⟨⟨w⟩⟩ : Outbox μ) i []).send m =
      (intact accepted ⟨⟨max w (payloadLen m)⟩⟩ i [], .ok ((framesFor w m).map .binary)) := by
  have prepared : (intact accepted (⟨⟨w⟩⟩ : Outbox μ) i []).outbox.prepare m = _ := prepare_eq fits
  rw [send, prepared, ← List.append_nil ((framesFor w m).map _)]
  dsimp only
  cases accepted with
  | false | true => rfl

/-- The frames of a message, received with the capacity that the sender counts on. -/
theorem receive_framesFor (fits : payloadLen m ≤ maxPayload) (least : freshCapacity ≤ w)
    (most : w ≤ maxPayload) {o : Outbox ο} {waiting : List Parcel} :
    (intact accepted o (⟨⟨w⟩⟩ : Inbox μ) ((framesFor w m).map .binary ++ waiting)).receive =
      (intact accepted o ⟨⟨max w (payloadLen m)⟩⟩ waiting, [], .message m) := by
  have heard {w' : Nat} (proper : ReceiveWindow.Proper ⟨w'⟩) (room : payloadLen m ≤ w') :
      (⟨⟨w'⟩⟩ : Inbox μ).accept (frame (MessageSet.tag m) (MessageSet.body m)) =
        .ok (.message m, ⟨⟨w'⟩⟩) :=
    (Inbox.accept_message_iff proper).mpr ⟨rfl, payloadLen_eq m ▸ room, rfl⟩
  rw [framesFor]
  -- With an announcement the window is widened to just the size of the message.
  by_cases wide : w < payloadLen m
  · have grown : (⟨⟨w⟩⟩ : Inbox μ).accept (growFrame (payloadLen m)) =
        .ok (.grown, ⟨⟨max w (payloadLen m)⟩⟩) :=
      (Inbox.accept_grown_iff ⟨least, most⟩).mpr
        ⟨payloadLen m, by omega, fits, growFrame_eq fits, rfl⟩
    rw [if_pos wide]
    change (intact _ _ _ (.binary (growFrame _) :: .binary _ :: waiting)).receive = _
    rw [receive_intact, grown]
    dsimp only
    rw [receive_intact, heard ⟨Nat.le_trans least (Nat.le_max_left ..), Nat.max_le.mpr ⟨most, fits⟩⟩
      (Nat.le_max_right ..)]
  · rw [if_neg wide, Nat.max_eq_left (Nat.le_of_not_lt wide)]
    change (intact _ _ _ (.binary _ :: waiting)).receive = _
    rw [receive_intact, heard ⟨least, most⟩ (Nat.le_of_not_lt wide)]

end One

/-! ### Messages one after another -/

section Many

variable [CanonicalSet μ] {accepted accepted' : Bool} {i : Inbox ι} {o : Outbox ο} {w : Nat}
  {m : μ} {ms : List μ}

/-- A message above the limit does not hinder those that follow. -/
theorem sendAll_cons_of_large (large : ¬payloadLen m ≤ maxPayload) {o : Outbox μ} :
    (intact accepted o i []).sendAll (m :: ms) = (intact accepted o i []).sendAll ms := by
  rw [sendAll, send_intact_of_large large]

/-- A message within the limit is sent before those that follow. -/
theorem sendAll_cons_of_fits (fits : payloadLen m ≤ maxPayload) :
    (intact accepted (⟨⟨w⟩⟩ : Outbox μ) i []).sendAll (m :: ms) =
      (((intact accepted ⟨⟨max w (payloadLen m)⟩⟩ i []).sendAll ms).1,
        (framesFor w m).map .binary ++
          ((intact accepted ⟨⟨max w (payloadLen m)⟩⟩ i []).sendAll ms).2) := by
  rw [sendAll, send_intact fits]

/-- Behind any messages the sender counts on the largest payload of them. -/
theorem sendAll_fst : ((intact accepted (⟨⟨w⟩⟩ : Outbox μ) i []).sendAll ms).1 =
    intact accepted ⟨⟨widest w ms⟩⟩ i [] := by
  induction ms generalizing w with
  | nil => rfl
  | cons m ms ih =>
    by_cases fits : payloadLen m ≤ maxPayload
    · rw [sendAll_cons_of_fits fits, ih, widest_cons_of_fits fits]
    · rw [sendAll_cons_of_large fits, ih, widest_cons_of_large fits]

/-- What was sent is received by a peer with the capacity that the sender counts on, and their
capacities are equal again behind it. -/
theorem receiveTimes_sendAll (least : freshCapacity ≤ w) (most : w ≤ maxPayload) :
    (intact accepted' o (⟨⟨w⟩⟩ : Inbox μ)
        ((intact accepted (⟨⟨w⟩⟩ : Outbox μ) i []).sendAll ms).2).receiveTimes (sendable ms).length =
      (intact accepted' o ⟨⟨widest w ms⟩⟩ [], (sendable ms).map .message) := by
  -- `w` is the capacity on both sides, and every message widens both to the same size.
  induction ms generalizing w with
  | nil => rfl
  | cons m ms ih =>
    by_cases fits : payloadLen m ≤ maxPayload
    · rw [sendAll_cons_of_fits fits, sendable_cons_of_fits fits, widest_cons_of_fits fits,
        List.length_cons, receiveTimes, receive_framesFor fits least most]
      dsimp only
      rw [ih (Nat.le_trans least (Nat.le_max_left ..)) (Nat.max_le.mpr ⟨most, fits⟩)]
      rfl
    · rw [sendAll_cons_of_large fits, sendable_cons_of_large fits, widest_cons_of_large fits]
      exact ih least most

end Many

end Link

/-- A message that is too large is refused and leaves the sender as it was. Every other one is sent,
behind an announcement exactly if its payload is larger than the capacity of a fresh channel and
than every payload sent before. A peer that receives what was sent receives the messages that can
travel in their order, and nothing else. Behind it both capacities are the largest payload sent, but
not less than on a fresh channel. -/
theorem negotiation_exact (d : Direction) (ι ο : Type) (accepted accepted' : Bool) :
    (∀ (earlier : List d.Message) (m : d.Message),
      let l := ((Link.fresh accepted : Link ι d.Message).sendAll earlier).1
      let announced := freshCapacity < payloadLen m ∧
        ∀ m' ∈ sendable earlier, payloadLen m' < payloadLen m
      (maxPayload < payloadLen m → ∃ detail, l.send m = (l, .error (.rejected detail))) ∧
      (payloadLen m ≤ maxPayload → (l.send m).2 =
        .ok ((if announced then [.binary (growFrame (payloadLen m))] else []) ++
          [.binary (frame (MessageSet.tag m) (MessageSet.body m))]))) ∧
    ∀ ms : List d.Message,
      let sent := (Link.fresh accepted : Link ι d.Message).sendAll ms
      let received := ((Link.fresh accepted' : Link d.Message ο).deliver sent.2).receiveTimes
        (sendable ms).length
      received.2 = (sendable ms).map .message ∧
      received.1.receive = (received.1, [], .nothing) ∧
      sent.1.outbox.window.capacity = widest freshCapacity ms ∧
      received.1.inbox.window.capacity = widest freshCapacity ms := by
  constructor
  · intro earlier m
    have reached : ((Link.fresh accepted : Link ι d.Message).sendAll earlier).1 =
        Link.intact accepted ⟨⟨widest freshCapacity earlier⟩⟩ Inbox.fresh [] := Link.sendAll_fst
    dsimp only
    rw [reached]
    constructor
    · intro large
      exact ⟨_, Link.send_intact_of_large (Nat.not_le.mpr large)⟩
    · intro fits
      rw [Link.send_intact fits, framesFor, List.map_append]
      by_cases wide : widest freshCapacity earlier < payloadLen m
      · rw [if_pos wide, if_pos (widest_lt_iff.mp wide)]
        rfl
      · rw [if_neg wide, if_neg (mt widest_lt_iff.mpr wide)]
        rfl
  · intro ms
    have reached : ((Link.fresh accepted : Link ι d.Message).sendAll ms).1 =
        Link.intact accepted ⟨⟨widest freshCapacity ms⟩⟩ Inbox.fresh [] := Link.sendAll_fst
    have received : ((Link.fresh accepted' : Link d.Message ο).deliver
        ((Link.fresh accepted : Link ι d.Message).sendAll ms).2).receiveTimes (sendable ms).length =
        (Link.intact accepted' Outbox.fresh ⟨⟨widest freshCapacity ms⟩⟩ [],
          (sendable ms).map .message) :=
      Link.receiveTimes_sendAll (Nat.le_refl freshCapacity) (by decide)
    dsimp only
    rw [reached, received]
    exact ⟨rfl, Link.receive_intact_nil, rfl, rfl⟩

end TrialFarm.Wire
