import TrialFarm.Proofs.Wire.Payload
import TrialFarm.Wire.Link

/-!
# What a receiver accepts

A frame determines its tag and its payload, and these determine what it means. So a receiver hears a
message exactly if the frame is the one that a sender makes of that message, and is not too large
for it; it hears an announcement exactly if the frame announces a valid size; and every other frame
violates the protocol. Whatever a peer sends, the capacity of the receiver only grows, and only to
what the protocol allows.

## Main definitions

* `Link.intact`: a link on which nothing is owed and nobody has closed or vanished.
* `Link.hear`, `Link.hearAll`: receiving after every frame that arrives.

## Main statements

* `Inbox.accept_message_iff`, `Inbox.accept_grown_iff`, `Inbox.accept_eq_error`: what frames mean.
* `Link.receive_intact`: one frame at a time, a receiver does what the frame means.
* `reception_exact`: what is heard after any frames, and the bounds of the capacity.
-/

namespace TrialFarm.Wire

/-! ### Frames -/

/-- Data is split into the tag and the payload that it was framed from. -/
theorem splitFrame_eq_ok_iff {channel : Direction} {data payload : Bytes} {tag : Int32} :
    splitFrame channel data = .ok (tag, payload) ↔ data = frame tag payload := by
  rw [splitFrame]
  constructor
  · intro done
    cases found : read (α := Int32) data with
    | error e => rw [found] at done; cases done
    | ok parts =>
      rw [found] at done
      obtain ⟨rfl, rfl⟩ := Prod.mk.inj (Except.ok.inj done)
      exact eq_write_of_read found
  · rintro rfl
    rw [frame, read_write tag payload (by rw [length_write_int32]; decide)]

/-- Data that is no frame is a breach of the protocol. -/
theorem splitFrame_eq_error {channel : Direction} {data : Bytes} {e : Error}
    (failed : splitFrame channel data = .error e) : ∃ detail, e = .protocol channel detail := by
  rw [splitFrame] at failed
  split at failed
  · cases failed
  · exact ⟨_, (Except.error.inj failed).symm⟩

theorem write_int32 {x : Int32} (natural : 0 ≤ x.toInt) :
    write x = littleEndian 4 x.toInt.toNat := by
  show littleEndian 4 x.toUInt32.toNat = _
  rw [Int32.toNat_toUInt32_of_le (Int32.le_iff_toInt_le.mpr natural), Int32.toNat_toInt]

/-- The size that an announcement carries, as the number that it is. -/
theorem growFrame_eq {size : Nat} (fits : size ≤ maxPayload) :
    growFrame size = frame growTag (littleEndian growLen size) := by
  have is : (Int32.ofNat size).toInt = size :=
    Int32.toInt_ofNat_of_lt (Nat.lt_of_le_of_lt fits (by decide))
  rw [growFrame, write_int32 (by omega), is]
  rfl

/-! ### Windows -/

section Windows

variable {channel : Direction} {w w' : ReceiveWindow} {kind : String} {n : Nat} {b : Bounds}
  {size : Int32} {e : Error}

/-- A length passes if it is allowed and the window is wide enough. -/
theorem check_eq_ok_iff : w.check channel kind n b = .ok () ↔ b.Allow n ∧ n ≤ w.capacity := by
  have limit : n ≤ w.limit b ↔ (∀ most, b.max = some most → n ≤ most) ∧ n ≤ w.capacity := by
    rw [ReceiveWindow.limit, Nat.le_min]
    cases b.max with
    | none => exact ⟨fun both => ⟨nofun, both.2⟩, fun both => ⟨both.2, both.2⟩⟩
    | some most =>
      refine and_congr_left fun _ => ⟨fun le most' same => ?_, fun all => all most rfl⟩
      exact Option.some.inj same ▸ le
  rw [ReceiveWindow.check, Bounds.Allow, and_assoc, ← limit]
  split
  · next fits => exact iff_of_true rfl fits
  · next off => exact iff_of_false nofun off

theorem check_eq_error (failed : w.check channel kind n b = .error e) :
    ∃ detail, e = .protocol channel detail := by
  rw [ReceiveWindow.check] at failed
  split at failed
  · cases failed
  · exact ⟨_, (Except.error.inj failed).symm⟩

/-- A window is widened to a size within the limit, and never narrowed. -/
theorem grow_eq_ok_iff : w.grow channel size = .ok w' ↔
    (1 ≤ size.toInt ∧ size.toInt ≤ maxPayload) ∧ w' = ⟨max w.capacity size.toInt.toNat⟩ := by
  rw [ReceiveWindow.grow]
  split
  · next valid =>
    rw [Except.ok.injEq, eq_comm]
    exact (and_iff_right valid).symm
  · next invalid => exact ⟨nofun, fun both => absurd both.1 invalid⟩

theorem grow_eq_error (failed : w.grow channel size = .error e) :
    ∃ detail, e = .protocol channel detail := by
  rw [ReceiveWindow.grow] at failed
  split at failed
  · cases failed
  · exact ⟨_, (Except.error.inj failed).symm⟩

/-- A capacity that a receiver may have. -/
def ReceiveWindow.Proper (w : ReceiveWindow) : Prop :=
  freshCapacity ≤ w.capacity ∧ w.capacity ≤ maxPayload

end Windows

/-- A payload that cannot be decoded is a breach of the protocol. -/
theorem decode_eq_error {α : Type} [Layout α] {channel : Direction} {payload : Bytes} {e : Error}
    (failed : decode (α := α) channel payload = .error e) :
    ∃ detail, e = .protocol channel detail := by
  rw [decode] at failed
  cases found : readAll (α := α) payload with
  | error cause =>
    rw [found] at failed
    exact ⟨_, (Except.error.inj failed).symm⟩
  | ok a => rw [found] at failed; cases failed

/-- A payload is decoded as the one value that is written so. -/
theorem decode_eq_ok_iff {α : Type} [Layout α] [Canonical α] {channel : Direction}
    {payload : Bytes} {a : α} (short : payload.length < 2 ^ 64) :
    decode channel payload = .ok a ↔ payload = write a := by
  rw [decode]
  constructor
  · intro done
    cases found : readAll (α := α) payload with
    | error cause => rw [found] at done; cases done
    | ok a' =>
      rw [found] at done
      obtain rfl := Except.ok.inj done
      exact eq_write_of_readAll found
  · rintro rfl
    rw [readAll_write a short]
    rfl

namespace Inbox

variable {μ : Type} [MessageSet μ] {i i' : Inbox μ} {data payload : Bytes} {tag : Int32}
  {r : Received μ} {e : Error}

/-! ### Announcements -/

/-- An announcement is accepted if it is one word within the limit, and widens the window. -/
theorem acceptGrow_eq_ok_iff (proper : i.window.Proper) :
    i.acceptGrow payload = .ok (r, i') ↔ r = .grown ∧ ∃ size, 1 ≤ size ∧ size ≤ maxPayload ∧
      payload = littleEndian growLen size ∧ i' = ⟨⟨max i.window.capacity size⟩⟩ := by
  rw [acceptGrow]
  constructor
  · intro done
    split at done
    · cases done
    next checked =>
    split at done
    · cases done
    next announced read =>
    split at done
    · cases done
    next w grown =>
    obtain ⟨rfl, rfl⟩ := Prod.mk.inj (Except.ok.inj done)
    have long : payload.length = growLen :=
      Nat.le_antisymm ((check_eq_ok_iff.mp checked).1.2 _ rfl) (check_eq_ok_iff.mp checked).1.1
    obtain rfl := (decode_eq_ok_iff (by rw [long]; decide)).mp read
    obtain ⟨⟨least, most⟩, rfl⟩ := grow_eq_ok_iff.mp grown
    refine ⟨rfl, announced.toInt.toNat, by omega, by omega, ?_, rfl⟩
    exact write_int32 (by omega)
  · rintro ⟨rfl, size, least, most, rfl, rfl⟩
    have small : size < 2 ^ 31 := Nat.lt_of_le_of_lt most (by decide)
    have is : (Int32.ofNat size).toInt = size := Int32.toInt_ofNat_of_lt small
    have checked : i.window.check (MessageSet.channel μ) "GROW_BUFFER"
        (littleEndian growLen size).length (.exact growLen) = .ok () := by
      rw [check_eq_ok_iff, length_littleEndian]
      exact ⟨Bounds.allow_exact _, Nat.le_trans (by decide) proper.1⟩
    have read : decode (MessageSet.channel μ) (littleEndian growLen size) =
        .ok (Int32.ofNat size) := by
      rw [decode_eq_ok_iff (by rw [length_littleEndian]; decide), write_int32 (by omega), is]
      rfl
    have grown : i.window.grow (MessageSet.channel μ) (Int32.ofNat size) =
        .ok ⟨max i.window.capacity size⟩ := by
      rw [grow_eq_ok_iff, is]
      exact ⟨by omega, rfl⟩
    rw [checked, read]
    dsimp only
    rw [grown]

theorem acceptGrow_eq_error (failed : i.acceptGrow payload = .error e) :
    ∃ detail, e = .protocol (MessageSet.channel μ) detail := by
  rw [acceptGrow] at failed
  split at failed
  · next refused =>
    obtain rfl := Except.error.inj failed
    exact check_eq_error refused
  split at failed
  · next garbled =>
    obtain rfl := Except.error.inj failed
    exact decode_eq_error garbled
  split at failed
  · next refused =>
    obtain rfl := Except.error.inj failed
    exact grow_eq_error refused
  · cases failed

/-! ### Messages -/

theorem acceptMessage_eq_error (failed : i.acceptMessage tag payload = .error e) :
    ∃ detail, e = .protocol (MessageSet.channel μ) detail := by
  rw [acceptMessage] at failed
  split at failed
  · exact ⟨_, (Except.error.inj failed).symm⟩
  split at failed
  · next refused =>
    obtain rfl := Except.error.inj failed
    exact check_eq_error refused
  split at failed
  · next garbled =>
    obtain rfl := Except.error.inj failed
    exact fromPayload_eq_error garbled
  · cases failed

/-! ### Frames and what they mean -/

/-- A frame is accepted as an announcement or as a message, by its tag. -/
theorem accept_eq_ok_iff : i.accept data = .ok (r, i') ↔ ∃ tag payload, data = frame tag payload ∧
    (tag = growTag ∧ i.acceptGrow payload = .ok (r, i') ∨
      tag ≠ growTag ∧ i.acceptMessage tag payload = .ok (r, i')) := by
  rw [accept]
  constructor
  · intro done
    split at done
    · cases done
    next tag payload framed =>
    refine ⟨tag, payload, splitFrame_eq_ok_iff.mp framed, ?_⟩
    split at done
    · next announces => exact Or.inl ⟨announces, done⟩
    · next other => exact Or.inr ⟨other, done⟩
  · rintro ⟨tag, payload, framed, ⟨rfl, done⟩ | ⟨other, done⟩⟩
    · rw [splitFrame_eq_ok_iff.mpr framed]
      exact done
    · rw [splitFrame_eq_ok_iff.mpr framed]
      dsimp only
      rw [if_neg other]
      exact done

/-- Every other frame violates the protocol. -/
theorem accept_eq_error (failed : i.accept data = .error e) :
    ∃ detail, e = .protocol (MessageSet.channel μ) detail := by
  rw [accept] at failed
  split at failed
  · next garbled =>
    obtain rfl := Except.error.inj failed
    exact splitFrame_eq_error garbled
  split at failed
  · exact acceptGrow_eq_error failed
  · exact acceptMessage_eq_error failed

section Messages

variable [CanonicalSet μ] {m : μ}

/-- A message is accepted if it is written in full and the window is wide enough, which stays as it
is. -/
theorem acceptMessage_eq_ok_iff (proper : i.window.Proper) :
    i.acceptMessage tag payload = .ok (r, i') ↔ i' = i ∧ ∃ m, r = .message m ∧
      tag = MessageSet.tag m ∧ payload = MessageSet.body m ∧ encodedLen m ≤ i.window.capacity := by
  rw [acceptMessage]
  constructor
  · intro done
    split at done
    · cases done
    next kind described =>
    split at done
    · cases done
    next checked =>
    split at done
    · cases done
    next m read =>
    obtain ⟨rfl, rfl⟩ := Prod.mk.inj (Except.ok.inj done)
    obtain ⟨rfl, body⟩ := fromPayload_eq_ok read
    obtain ⟨allowed, room⟩ := check_eq_ok_iff.mp checked
    have same : payload = MessageSet.body m := by
      rcases body with same | ⟨none, name, empty⟩
      · exact same.symm
      · -- the bounds of a message without fields leave only the empty payload
        obtain rfl := Option.some.inj (described.symm.trans empty)
        rw [none]
        exact List.length_eq_zero_iff.mp (Nat.le_zero.mp (allowed.2 0 rfl))
    refine ⟨rfl, m, rfl, rfl, same, ?_⟩
    rw [← CanonicalSet.length_body, ← same]
    exact room
  · rintro ⟨rfl, m, rfl, rfl, rfl, room⟩
    obtain ⟨kind, described, allowed⟩ := CanonicalSet.described m
    have checked : i'.window.check (MessageSet.channel μ) kind.name
        (MessageSet.body m).length kind.bounds = .ok () := by
      rw [check_eq_ok_iff, CanonicalSet.length_body]
      exact ⟨allowed, room⟩
    rw [described]
    dsimp only
    rw [checked, fromPayload_body (Nat.le_trans room proper.2)]

/-- A frame is heard as a message exactly if it is the message's own, within the capacity. -/
theorem accept_message_iff (proper : i.window.Proper) :
    i.accept data = .ok (.message m, i') ↔ i' = i ∧ encodedLen m ≤ i.window.capacity ∧
      data = frame (MessageSet.tag m) (MessageSet.body m) := by
  rw [accept_eq_ok_iff]
  constructor
  · rintro ⟨tag, payload, rfl, ⟨-, grown⟩ | ⟨-, heard⟩⟩
    · cases ((acceptGrow_eq_ok_iff proper).mp grown).1
    · obtain ⟨rfl, m', same, rfl, rfl, room⟩ := (acceptMessage_eq_ok_iff proper).mp heard
      obtain rfl := Received.message.inj same
      exact ⟨rfl, room, rfl⟩
  · rintro ⟨rfl, room, rfl⟩
    refine ⟨_, _, rfl, Or.inr ⟨fun announces => ?_, ?_⟩⟩
    · obtain ⟨kind, described, -⟩ := CanonicalSet.described m
      rw [announces, CanonicalSet.reserved] at described
      cases described
    · exact (acceptMessage_eq_ok_iff proper).mpr ⟨rfl, m, rfl, rfl, rfl, room⟩

/-- A frame is used up as an announcement exactly if it announces a valid size. -/
theorem accept_grown_iff (proper : i.window.Proper) :
    i.accept data = .ok (.grown, i') ↔ ∃ size, 1 ≤ size ∧ size ≤ maxPayload ∧
      data = frame growTag (littleEndian growLen size) ∧
      i' = ⟨⟨max i.window.capacity size⟩⟩ := by
  rw [accept_eq_ok_iff]
  constructor
  · rintro ⟨tag, payload, rfl, ⟨rfl, grown⟩ | ⟨-, heard⟩⟩
    · obtain ⟨-, size, least, most, rfl, rfl⟩ := (acceptGrow_eq_ok_iff proper).mp grown
      exact ⟨size, least, most, rfl, rfl⟩
    · obtain ⟨-, m, ⟨⟩, -⟩ := (acceptMessage_eq_ok_iff proper).mp heard
  · rintro ⟨size, least, most, rfl, rfl⟩
    exact ⟨_, _, rfl, Or.inl ⟨rfl,
      (acceptGrow_eq_ok_iff proper).mpr ⟨rfl, size, least, most, rfl, rfl⟩⟩⟩

/-- A frame that is accepted may only widen the window, to what the protocol allows. -/
theorem widens_accept (proper : i.window.Proper) (done : i.accept data = .ok (r, i')) :
    i'.window.Proper ∧ i.window.capacity ≤ i'.window.capacity := by
  cases r with
  | message m =>
    obtain ⟨rfl, -⟩ := (accept_message_iff proper).mp done
    exact ⟨proper, Nat.le_refl _⟩
  | grown =>
    obtain ⟨size, least, most, -, rfl⟩ := (accept_grown_iff proper).mp done
    exact ⟨⟨Nat.le_trans proper.1 (Nat.le_max_left ..), Nat.max_le.mpr ⟨proper.2, most⟩⟩,
      Nat.le_max_left ..⟩

end Messages

end Inbox

namespace Link

variable {ι ο : Type}

/-! ### Links on which only frames arrive -/

section Intact

variable {accepted : Bool} {o : Outbox ο} {i : Inbox ι} {data : Bytes} {waiting : List Parcel}

/-- A link on which nothing is owed, and nobody has closed or vanished. -/
def intact (accepted : Bool) (o : Outbox ο) (i : Inbox ι) (waiting : List Parcel) : Link ι ο :=
  ⟨accepted, o, i, .active, none, false, false, false, waiting⟩

theorem settleDebt_intact : (intact accepted o i waiting).settleDebt =
    (intact accepted o i waiting, [], none) := by
  cases accepted with
  | false | true => rfl

variable [MessageSet ι]

theorem receive_intact_nil :
    (intact accepted o i []).receive = (intact accepted o i [], [], .nothing) := by
  cases accepted with
  | false | true => rfl

/-- A receiver does what the next frame means. -/
theorem receive_intact : (intact accepted o i (.binary data :: waiting)).receive =
    match i.accept data with
    | .error e => (intact accepted o i waiting, [], .failed e)
    | .ok (.grown, i') => (intact accepted o i' waiting).receive
    | .ok (.message m, i') => (intact accepted o i' waiting, [], .message m) := by
  have settled : ({ intact accepted o i (.binary data :: waiting) with
      waiting := .binary data :: waiting } : Link ι ο).settleDebt =
      (intact accepted o i (.binary data :: waiting), [], none) := settleDebt_intact
  have reads : (!(intact (ι := ι) accepted o i (.binary data :: waiting)).standing.canRead) =
      false := rfl
  change (intact accepted o i _).search (.binary data :: waiting) = _
  rw [search, settled]
  dsimp only
  rw [reads, if_neg Bool.false_ne_true]
  change (match i.accept data with
    | .error e => _
    | .ok (.grown, i') => _
    | .ok (.message m, i') => _) = _
  split
  · rfl
  · rfl
  · rfl

end Intact

/-! ### What is heard -/

variable [MessageSet ι] [CanonicalSet ι] {l : Link ι ο} {p : Parcel}

/-- Receives after the peer has handed over one thing more. -/
def hear (l : Link ι ο) (p : Parcel) : Link ι ο × List Parcel × Arrival ι :=
  (l.deliver [p]).receive

/-- The link after all of these were handed over and heard, one by one. -/
def hearAll (l : Link ι ο) (ps : List Parcel) : Link ι ο :=
  ps.foldl (fun l p => (l.hear p).1) l

/-- A link that receives whatever is handed over, from a peer that does not vanish. -/
structure Attended (l : Link ι ο) : Prop where
  present : l.peerGone = false
  heard : l.waiting = [] ∨ l.exhausted = true
  proper : l.inbox.window.Proper

omit [MessageSet ι] [CanonicalSet ι] in
/-- A peer that does not vanish leaves two ways for a debt to be settled. -/
theorem settleDebt_of_present (present : l.peerGone = false) : ∃ paid,
    l.settleDebt = ({ l with owed := none }, paid, none) ∨
    l.settleDebt = ({ l with owed := none, standing := .ended }.exhaust, paid, some .closed) := by
  obtain ⟨accepted, o, i, standing, owed, stuck, exhausted, peerGone, waiting⟩ := l
  obtain rfl : peerGone = false := present
  cases leaves : accepted && !standing.canRead with
  | false =>
    cases owed with
    | none => exact ⟨[], Or.inl (by simp [settleDebt, leaves])⟩
    | some debt => exact ⟨debt.parcels, Or.inl (by simp [settleDebt, handOver, leaves])⟩
  | true =>
    cases owed with
    | none => exact ⟨[], Or.inr (by simp [settleDebt, leaves])⟩
    | some debt => exact ⟨debt.parcels, Or.inr (by simp [settleDebt, handOver, leaves])⟩

omit [CanonicalSet ι] in
theorem search_nil_of_present (present : l.peerGone = false) :
    (l.search []).1.inbox = l.inbox ∧ (l.search []).1.peerGone = false ∧
      (l.search []).1.waiting = [] ∧ ∀ e, (l.search []).2.2 ≠ .failed e := by
  rw [search]
  obtain ⟨paid, settled | settled⟩ := settleDebt_of_present (l := { l with waiting := [] }) present
  · rw [settled]
    dsimp only
    rw [lookAtNothing, if_pos (by simp [present])]
    exact ⟨rfl, present, rfl, nofun⟩
  · rw [settled]
    exact ⟨rfl, present, rfl, nofun⟩

/-- What receiving from such a peer does to the capacity. -/
def Widens (i : Inbox ι) (heard : Link ι ο × List Parcel × Arrival ι) : Prop :=
  heard.1.Attended ∧ i.window.capacity ≤ heard.1.inbox.window.capacity ∧
    ∀ e, heard.2.2 = .failed e → heard.1.inbox = i

omit [MessageSet ι] [CanonicalSet ι] in
theorem Widens.same {i : Inbox ι} {paid : List Parcel} {arrival : Arrival ι}
    (attended : l.Attended) (same : l.inbox = i) : Widens i (l, paid, arrival) :=
  ⟨attended, Nat.le_of_eq (by rw [same]), fun _ _ => same⟩

/-- One thing that is handed over leaves the capacity as it is or widens it. -/
theorem widens_search_single (present : l.peerGone = false) (proper : l.inbox.window.Proper)
    (p : Parcel) : Widens l.inbox (l.search [p]) := by
  rw [search]
  -- Either the debt is settled and the thing is looked at, or the connection is over.
  obtain ⟨paid, settled | settled⟩ := settleDebt_of_present (l := { l with waiting := [p] }) present
  all_goals rw [settled]; dsimp only
  · split
    · exact .same ⟨present, Or.inl rfl, proper⟩ rfl
    cases p with
    | ping size =>
      dsimp only
      split
      · exact .same ⟨present, Or.inl rfl, proper⟩ rfl
      generalize pinged : hearPing _ = l'
      have kept : l'.inbox = l.inbox ∧ l'.peerGone = false := by
        rw [← pinged, hearPing]
        split
        · exact ⟨rfl, present⟩
        · exact ⟨rfl, present⟩
      obtain ⟨same, still, none, -⟩ := search_nil_of_present kept.2
      rw [kept.1] at same
      exact .same ⟨still, Or.inl none, same ▸ proper⟩ same
    | text => exact .same ⟨present, Or.inl rfl, proper⟩ rfl
    | close =>
      dsimp only
      rw [hearClose]
      split
      · exact .same ⟨present, Or.inl rfl, proper⟩ rfl
      · exact .same ⟨present, Or.inl rfl, proper⟩ rfl
    | binary data =>
      dsimp only
      split
      · exact .same ⟨present, Or.inl rfl, proper⟩ rfl
      · next i' grown =>
        obtain ⟨proper', wider⟩ := Inbox.widens_accept proper grown
        obtain ⟨same, still, none, works⟩ :=
          search_nil_of_present (l := { l with owed := none, waiting := [], inbox := i' }) present
        refine ⟨⟨still, Or.inl none, ?_⟩, ?_, fun e failed => absurd failed (works e)⟩
        · exact same ▸ proper'
        · exact same ▸ wider
      · next m i' heard =>
        obtain ⟨proper', wider⟩ := Inbox.widens_accept proper heard
        exact ⟨⟨present, Or.inl rfl, proper'⟩, wider, nofun⟩
  · exact .same ⟨present, Or.inr rfl, proper⟩ rfl

/-- Whatever parcel arrives, the window does not get narrower. -/
theorem Attended.hear (attended : l.Attended) (p : Parcel) : Widens l.inbox (l.hear p) := by
  obtain ⟨present, heard, proper⟩ := attended
  rw [Link.hear, receive]
  split
  · exact .same ⟨present, Or.inr rfl, proper⟩ rfl
  next goesOn =>
  have none : l.waiting = [] := heard.resolve_right fun exhausted => goesOn (by
    rw [deliver, exhausted, Bool.true_or])
  rw [deliver, none, List.nil_append]
  exact widens_search_single (l := { l with waiting := [p] }) present proper p

theorem Attended.hearAll (attended : l.Attended) (ps : List Parcel) : (l.hearAll ps).Attended := by
  induction ps generalizing l with
  | nil => exact attended
  | cons p ps ih => exact ih (attended.hear p).1

/-! ### Hearing frames -/

section Frames

variable {accepted : Bool} {o : Outbox ο} {i : Inbox ι} {data : Bytes}

omit [CanonicalSet ι] in
theorem hear_frame : (intact accepted o i []).hear (.binary data) =
    match i.accept data with
    | .error e => (intact accepted o i [], [], .failed e)
    | .ok (.grown, i') => (intact accepted o i' [], [], .nothing)
    | .ok (.message m, i') => (intact accepted o i' [], [], .message m) := by
  change (intact accepted o i (.binary data :: [])).receive = _
  rw [receive_intact]
  split
  · rfl
  · exact receive_intact_nil
  · rfl

/-- However the frames were heard, the link is intact behind them. -/
theorem hearAll_frames (proper : i.window.Proper) (frames : List Bytes) : ∃ i' : Inbox ι,
    i'.window.Proper ∧
      (intact accepted o i []).hearAll (frames.map .binary) = intact accepted o i' [] := by
  induction frames generalizing i with
  | nil => exact ⟨i, proper, rfl⟩
  | cons data frames ih =>
    change ∃ i' : Inbox ι, _ ∧
      ((intact accepted o i []).hear (.binary data)).1.hearAll (frames.map .binary) = _
    rw [hear_frame]
    split
    · exact ih proper
    · next i' grown => exact ih (Inbox.widens_accept proper grown).1
    · next m i' heard => exact ih (Inbox.widens_accept proper heard).1

/-- A message is heard if its frame arrives and the window is wide enough. -/
theorem hear_message_iff (proper : i.window.Proper) {m : ι} :
    ((intact accepted o i []).hear (.binary data)).2.2 = .message m ↔
      encodedLen m ≤ i.window.capacity ∧ data = frame (MessageSet.tag m) (MessageSet.body m) := by
  rw [hear_frame]
  constructor
  · intro arrives
    split at arrives
    · cases arrives
    · cases arrives
    next m' i' heard =>
    obtain rfl := Arrival.message.inj arrives
    exact ((Inbox.accept_message_iff proper).mp heard).2
  · rintro ⟨room, framed⟩
    rw [(Inbox.accept_message_iff proper).mpr ⟨rfl, room, framed⟩]

/-- An announcement within the limit widens the window and is not passed on. -/
theorem hear_announcement (proper : i.window.Proper) {size : Nat} (least : 1 ≤ size)
    (most : size ≤ maxPayload) (framed : data = frame growTag (littleEndian growLen size)) :
    (intact accepted o i []).hear (.binary data) =
      (intact accepted o ⟨⟨max i.window.capacity size⟩⟩ [], [], .nothing) := by
  rw [hear_frame, (Inbox.accept_grown_iff proper).mpr ⟨size, least, most, framed, rfl⟩]

/-- Only announcements within the limit are heard as nothing. -/
theorem hear_nothing_iff (proper : i.window.Proper) :
    ((intact accepted o i []).hear (.binary data)).2.2 = .nothing ↔
      ∃ size, 1 ≤ size ∧ size ≤ maxPayload ∧ data = frame growTag (littleEndian growLen size) := by
  constructor
  · rw [hear_frame]
    intro arrives
    split at arrives
    · cases arrives
    · next i' grown =>
      obtain ⟨size, least, most, framed, -⟩ := (Inbox.accept_grown_iff proper).mp grown
      exact ⟨size, least, most, framed⟩
    · cases arrives
  · rintro ⟨size, least, most, framed⟩
    rw [hear_announcement proper least most framed]

omit [CanonicalSet ι] in
/-- A frame is a message, is used up, or violates the protocol. -/
theorem hear_frame_cases :
    (∃ m, ((intact accepted o i []).hear (.binary data)).2.2 = .message m) ∨
    ((intact accepted o i []).hear (.binary data)).2.2 = .nothing ∨
    ∃ detail, ((intact accepted o i []).hear (.binary data)).2.2 =
      .failed (.protocol (MessageSet.channel ι) detail) := by
  rw [hear_frame]
  split
  · next e failed =>
    obtain ⟨detail, rfl⟩ := Inbox.accept_eq_error failed
    exact Or.inr (Or.inr ⟨detail, rfl⟩)
  · exact Or.inr (Or.inl rfl)
  · exact Or.inl ⟨_, rfl⟩

/-- Only an announcement changes the capacity. -/
theorem hear_frame_kept (proper : i.window.Proper)
    (other : ((intact accepted o i []).hear (.binary data)).2.2 ≠ .nothing) :
    ((intact accepted o i []).hear (.binary data)).1.inbox = i := by
  rw [hear_frame] at other ⊢
  split
  · rfl
  · next grown =>
    rw [grown] at other
    exact absurd rfl other
  · next heard => exact ((Inbox.accept_message_iff proper).mp heard).1

end Frames

omit [MessageSet ι] [CanonicalSet ι] in
theorem attended_fresh (accepted : Bool) : (fresh accepted : Link ι ο).Attended :=
  ⟨rfl, Or.inl rfl, Nat.le_refl _, (by decide : freshCapacity ≤ maxPayload)⟩

end Link

/-- A receiver that has heard any frames hears a message from the next frame exactly if this is the
frame that a sender makes of the message, and its payload is within the capacity. It uses the frame
up as an announcement exactly if it announces a size from 1 to the maximum, to which the capacity is
widened, and every other frame violates the protocol. Only announcements change the capacity.
Whatever a peer hands over, the capacity is never less than at the start nor more than the maximum,
never shrinks, and stays as it is if receiving fails. -/
theorem reception_exact (d : Direction) (ο : Type) (accepted : Bool) :
    (∀ (frames : List Bytes) (data : Bytes),
      let l := (Link.fresh accepted : Link d.Message ο).hearAll (frames.map .binary)
      let heard := l.hear (.binary data)
      (∀ m, heard.2.2 = .message m ↔ ∃ payload, toPayload m = .ok payload ∧
        payload.length ≤ l.inbox.window.capacity ∧ data = frame (MessageSet.tag m) payload) ∧
      (heard.2.2 = .nothing ↔ ∃ size, 1 ≤ size ∧ size ≤ maxPayload ∧
        data = frame growTag (littleEndian growLen size)) ∧
      ((∃ m, heard.2.2 = .message m) ∨ heard.2.2 = .nothing ∨
        ∃ detail, heard.2.2 = .failed (.protocol d detail)) ∧
      (∀ size, 1 ≤ size → size ≤ maxPayload → data = frame growTag (littleEndian growLen size) →
        heard.1.inbox.window.capacity = max l.inbox.window.capacity size) ∧
      (heard.2.2 ≠ .nothing → heard.1.inbox = l.inbox)) ∧
    ∀ (parcels : List Parcel) (parcel : Parcel),
      let l := (Link.fresh accepted : Link d.Message ο).hearAll parcels
      let heard := l.hear parcel
      freshCapacity ≤ l.inbox.window.capacity ∧ l.inbox.window.capacity ≤ maxPayload ∧
      l.inbox.window.capacity ≤ heard.1.inbox.window.capacity ∧
      ∀ e, heard.2.2 = .failed e → heard.1.inbox = l.inbox := by
  constructor
  · intro frames data
    obtain ⟨i, proper, is⟩ : ∃ i : Inbox d.Message, i.window.Proper ∧
        (Link.fresh accepted : Link d.Message ο).hearAll (frames.map .binary) =
          Link.intact accepted Outbox.fresh i [] :=
      Link.hearAll_frames (Link.attended_fresh (ο := ο) accepted).proper frames
    dsimp only
    rw [is]
    refine ⟨fun m => ?_, Link.hear_nothing_iff proper, ?_, fun size least most framed => ?_,
      Link.hear_frame_kept proper⟩
    · rw [Link.hear_message_iff proper]
      constructor
      · rintro ⟨room, framed⟩
        refine ⟨_, toPayload_eq_ok_iff.mpr ⟨Nat.le_trans room proper.2, rfl⟩, ?_, framed⟩
        rw [CanonicalSet.length_body]
        exact room
      · rintro ⟨payload, made, room, framed⟩
        obtain ⟨-, rfl⟩ := toPayload_eq_ok_iff.mp made
        rw [CanonicalSet.length_body] at room
        exact ⟨room, framed⟩
    · refine Link.hear_frame_cases.imp_right (Or.imp_right ?_)
      rintro ⟨detail, failed⟩
      exact ⟨detail, by rw [failed, channel_message]⟩
    · rw [Link.hear_announcement proper least most framed]
      rfl
  · intro parcels parcel
    have attended := (Link.attended_fresh (ι := d.Message) (ο := ο) accepted).hearAll parcels
    obtain ⟨-, wider, kept⟩ := attended.hear parcel
    exact ⟨attended.proper.1, attended.proper.2, wider, kept⟩

end TrialFarm.Wire
