import TrialFarm.Manager.Desk
import TrialFarm.Proofs.Wire.Negotiation
import TrialFarm.Proofs.Worker.Recorded

/-!
# What the commands of a session send

Every command stands for messages to the server that can be told from the command alone, and in
surroundings that work they are what a session sends for it. A message that is too large is not sent
at all, and no workers are announced if the first announcement is too large a number.

## Main definitions

* `Command.on?`: the command on a line.
* `Command.orders`: the messages of a command.
* `Surroundings.Working`: neither the connection nor launching fails.
* `Office.Mirrors`: an office that shows what another one does.
* `Office.recorded`: writes down the messages that got through.

## Main statements

* `Session.chunks_eq`: in what numbers workers are announced.
* `Session.addWorkers_orders`, `Session.addFile_orders`: a command sends its messages.
* `Session.step_recorded`: a session does not notice that somebody writes them down.
-/

namespace TrialFarm

open Wire

/-! ### Commands and their messages -/

namespace Command

/-- The command on a line, if the line holds one that can be carried out. -/
def on? (text : String) : Option Command :=
  match parse text with
  | .ok command => command
  | .error _ => none

/-- The numbers in which workers are announced: as many as allowed each time, and at last the
rest. -/
def shares (most count : Nat) : List Nat :=
  List.replicate (count / most) most ++ if count % most = 0 then [] else [count % most]

/-- The messages of a command, for a session that announces at most so many workers at once and that
finds files under their full paths. -/
def orders (most : UInt32) (resolve : String → String) : Command → List ManagerMessage
  | addWorkers count _ =>
    if min count.toNat most.toNat < 0x80000000 then
      (shares most.toNat count.toNat).map fun share => .addWorkers (Int32.ofNat share)
    else []
  | addFile startConfigs maxFlips path =>
    let file : TaskFile := ⟨startConfigs, maxFlips, resolve path⟩
    if file.encodedLen ≤ maxPayload then [.addFile file] else []
  | help | waitForServer | exit => []

variable {most : UInt32} {resolve : String → String}

/-- No command but the last one ends the run. -/
theorem terminate_not_mem_orders (command : Command) :
    .terminate ∉ command.orders most resolve := by
  cases command with
  | help | waitForServer | exit => exact List.not_mem_nil
  | addWorkers count arguments =>
    unfold orders
    split <;> simp
  | addFile startConfigs maxFlips path =>
    unfold orders
    dsimp only
    split <;> simp

end Command

/-- A session is not started with a configuration that allows no worker at all. -/
theorem Config.maxConnections_pos {c : Config} (valid : c.validate = .ok ()) :
    0 < c.manager.maxConnections := by
  unfold validate at valid
  split at valid
  · cases valid
  · split at valid
    · cases valid
    · next some => exact UInt32.pos_iff_ne_zero.mpr some

/-! ### Writing down what is sent -/

/-- An office acts on larger surroundings, of which `view` shows a part, as another one acts on this
part alone. -/
structure Office.Mirrors {μ ν : Type} (view : μ → ν) (large : Office μ) (small : Office ν) :
    Prop where
  send : ∀ p m, small.send (view p) m = (view (large.send p m).1, (large.send p m).2)
  close : ∀ p, small.close (view p) = view (large.close p)
  launch : ∀ p count arguments, small.launch (view p) count arguments =
    (view (large.launch p count arguments).1, (large.launch p count arguments).2)
  resolve : ∀ p, small.resolve (view p) = large.resolve p

/-- Writes down the messages that got through. -/
def Office.recorded {ν : Type} (office : Office ν) : Office (ν × List ManagerMessage) where
  toSender := office.toSender.recorded
  launch := fun (n, sent) count arguments =>
    match office.launch n count arguments with
    | (n, result) => ((n, sent), result)
  resolve := fun (n, _) path => office.resolve n path

/-- The office that keeps a record of what is sent works as the office itself. -/
theorem Office.recorded_mirrors {ν : Type} (office : Office ν) :
    office.recorded.Mirrors Prod.fst office where
  send := office.toSender.send_recorded
  close _ := rfl
  launch _ _ _ := rfl
  resolve _ := rfl

namespace Session

section Mirrored

variable {μ ν : Type} {view : μ → ν} {large : Office μ} {small : Office ν}
  (mirrors : large.Mirrors view small) (s : Session) (p : μ)
include mirrors

/-- A message is sent alike through both offices. -/
theorem send_mirrored (m : ManagerMessage) :
    send small s (view p) m = (view (send large s p m).1, (send large s p m).2) := by
  unfold send
  split
  · rfl
  · exact mirrors.send p m

theorem addChunk_mirrored (arguments : List String) (count : Nat) :
    addChunk small s (view p) arguments count =
      let next := addChunk large s p arguments count
      (view next.1, next.2) := by
  unfold addChunk
  split
  · rfl
  · rw [send_mirrored mirrors]
    rcases send large s p _ with ⟨q, _ | _⟩
    · rfl
    · exact mirrors.launch q _ _

theorem addChunks_mirrored (arguments : List String) (counts : List Nat) :
    addChunks small s (view p) arguments counts =
      let next := addChunks large s p arguments counts
      (view next.1, next.2) := by
  induction counts generalizing p with
  | nil => rfl
  | cons count rest ih =>
    rw [addChunks, addChunks, addChunk_mirrored mirrors]
    rcases addChunk large s p arguments count with ⟨q, _ | _⟩
    · rfl
    · exact ih q

theorem addWorkers_mirrored (count : UInt32) (arguments : List String) :
    addWorkers small s (view p) count arguments =
      let next := addWorkers large s p count arguments
      (view next.1, next.2) := by
  unfold addWorkers
  split
  · rfl
  · exact addChunks_mirrored mirrors s p arguments _

theorem addFile_mirrored (startConfigs maxFlips : UInt32) (path : String) :
    addFile small s (view p) startConfigs maxFlips path =
      let next := addFile large s p startConfigs maxFlips path
      (view next.1, next.2) := by
  unfold addFile
  split
  · rfl
  · rw [mirrors.resolve]
    exact send_mirrored mirrors s p _

omit mirrors in
theorem afterSending_mirrored (outcome : μ × Except Error Unit) :
    afterSending s (view outcome.1, outcome.2) =
      ((afterSending s outcome).1, view (afterSending s outcome).2) := by
  obtain ⟨q, e | _⟩ := outcome
  · cases e <;> rfl
  · rfl

theorem leave_mirrored :
    leave small s (view p) = ((leave large s p).1, view (leave large s p).2) := by
  unfold leave
  split
  · rfl
  · rw [mirrors.send]

/-- Every command is executed alike through both offices. -/
theorem execute_mirrored (command : Command) :
    execute small s (view p) command =
      ((execute large s p command).1, view (execute large s p command).2) := by
  cases command with
  | help | waitForServer => rfl
  | addWorkers count arguments =>
    rw [execute, addWorkers_mirrored mirrors]
    exact afterSending_mirrored s _
  | addFile startConfigs maxFlips path =>
    rw [execute, addFile_mirrored mirrors]
    exact afterSending_mirrored s _
  | exit => exact leave_mirrored mirrors s p

theorem close_mirrored :
    close small s (view p) = ((close large s p).1, view (close large s p).2) :=
  congrArg (Prod.mk _) (mirrors.close p)

/-- A session acts on larger surroundings as it acts on the part that is shown. -/
theorem step_mirrored (e : SessionEvent) :
    s.step small (view p) e = ((s.step large p e).1, view (s.step large p e).2) := by
  unfold step
  cases s.stage with
  | commanding =>
    cases e with
    | line text =>
      dsimp only
      unfold onLine
      split
      · exact execute_mirrored mirrors s p _
      · rfl
    | inputEnded => exact leave_mirrored mirrors s p
    | received | timeout => rfl
  | waiting => cases e <;> rfl
  | leaving =>
    cases e with
    | received arrival =>
      rcases arrival with _ | _ | (_ | _ | _) | _ <;> first | rfl | exact close_mirrored mirrors _ p
    | timeout => exact close_mirrored mirrors s p
    | line | inputEnded => rfl
  | ended result => rfl

end Mirrored

/-- A session does not notice that what it sends is written down. -/
theorem step_recorded {ν : Type} (office : Office ν) (s : Session) (p : ν × List ManagerMessage)
    (e : SessionEvent) :
    s.step office p.1 e =
      ((s.step office.recorded p e).1, (s.step office.recorded p e).2.1) :=
  step_mirrored office.recorded_mirrors s p e

/-! ### Announcing workers -/

/-- Workers are announced in shares. -/
theorem chunks_eq {most count : Nat} (positive : 0 < most) :
    chunks most count = Command.shares most count := by
  fun_induction chunks most count with
  | case1 count none =>
    obtain rfl : count = 0 := by omega
    simp [Command.shares]
  | case2 count some ih =>
    rw [ih]
    by_cases whole : most ≤ count
    · rw [Nat.min_eq_right whole, Command.shares, Command.shares, Nat.div_eq_sub_div positive whole,
        Nat.mod_eq_sub_mod whole, List.replicate_succ, List.cons_append]
    · have small : count < most := Nat.lt_of_not_le whole
      have rest : count ≠ 0 := fun none => some (Or.inl none)
      rw [Nat.min_eq_left (Nat.le_of_lt small)]
      simp [Command.shares, Nat.div_eq_of_lt small, Nat.mod_eq_of_lt small, rest]

example : Command.shares 2 5 = [2, 2, 1] := rfl

/-- No share is empty, and none is larger than the first one. -/
theorem bounds_of_mem_chunks {most count share : Nat} (member : share ∈ chunks most count) :
    1 ≤ share ∧ share ≤ min count most := by
  fun_induction chunks most count with
  | case1 => cases member
  | case2 count some ih =>
    rcases List.mem_cons.mp member with rfl | member
    · omega
    · have smaller := ih member
      omega

/-- Together the shares are all workers. -/
theorem sum_chunks {most count : Nat} (positive : 0 < most) : (chunks most count).sum = count := by
  fun_induction chunks most count with
  | case1 count none =>
    rw [List.sum_nil]
    omega
  | case2 count some ih =>
    rw [List.sum_cons, ih]
    omega

end Session

/-! ### Surroundings that work -/

namespace Wire.Link

variable {ι ο : Type} {l : Link ι ο}

/-- While nobody has closed or vanished, frames are handed over. -/
theorem sendFrames_of_active (active : l.standing = .active) (present : l.peerGone = false)
    (frames : List Bytes) :
    ∃ parcels, l.sendFrames frames = ({ l with owed := none }, .ok parcels) := by
  simp [sendFrames, handOver, active, present, Standing.canRead]

/-- While nobody has closed or vanished, a message that fits into a payload is sent. -/
theorem send_of_active [MessageSet ο] [CanonicalSet ο] (active : l.standing = .active)
    (present : l.peerGone = false) {m : ο} (fits : encodedLen m ≤ maxPayload) :
    ∃ outbox parcels, l.send m = ({ l with outbox := outbox, owed := none }, .ok parcels) := by
  have prepared := prepare_eq (m := m) (w := l.outbox.window.capacity) (payloadLen_eq m ▸ fits)
  obtain ⟨parcels, handed⟩ := sendFrames_of_active
    (l := { l with outbox := ⟨⟨max l.outbox.window.capacity (payloadLen m)⟩⟩ }) active present
    (framesFor l.outbox.window.capacity m)
  exact ⟨_, parcels, by rw [send, prepared]; exact handed⟩

end Wire.Link

/-- A message that does not fit into a payload is refused. -/
theorem Surroundings.send_of_large {n : Surroundings} {m : ManagerMessage}
    (large : ¬encodedLen m ≤ maxPayload) (sent : List ManagerMessage) :
    Surroundings.office.recorded.send (n, sent) m =
      ((n, sent), .error (oversized .managerToServer)) := by
  have refused : n.line.link.send m = (n.line.link, .error (oversized .managerToServer)) := by
    rw [Link.send, Outbox.prepare, toPayload_of_large large]
    rfl
  simp only [Office.recorded, Sender.recorded, Surroundings.office, Surroundings.send, Line.send,
    refused]

/-- The connection is open, and workers can be launched. -/
structure Surroundings.Working (n : Surroundings) : Prop where
  active : n.line.link.standing = .active
  present : n.line.link.peerGone = false
  launches : ∀ arguments, n.launchFault arguments = none

namespace Surroundings.Working

variable {n : Surroundings}

/-- A message that fits into a payload is sent. -/
theorem send_of_fits (working : n.Working) {m : ManagerMessage} (fits : encodedLen m ≤ maxPayload)
    (sent : List ManagerMessage) :
    ∃ n', n'.Working ∧ office.recorded.send (n, sent) m = ((n', sent ++ [m]), .ok ()) := by
  obtain ⟨outbox, parcels, done⟩ := Link.send_of_active working.active working.present fits
  refine ⟨{ n with
      line := ⟨{ n.line.link with outbox := outbox, owed := none }, n.line.outgoing ++ parcels⟩ },
    ⟨working.active, working.present, working.launches⟩, ?_⟩
  simp only [Office.recorded, Sender.recorded, office, Surroundings.send, Line.send, done]

/-- Workers are launched, each one by a start of its own. -/
theorem launch_eq (working : n.Working) (count : UInt32) (arguments : List String)
    (sent : List ManagerMessage) :
    ∃ n', n'.Working ∧ office.recorded.launch (n, sent) count arguments = ((n', sent), .ok ()) := by
  have starts (some : Nat) {n : Surroundings} (working : n.Working) :
      ∃ n', n'.Working ∧ startEach (Surroundings.start arguments) some n = (n', .ok ()) := by
    induction some generalizing n with
    | zero => exact ⟨n, working, rfl⟩
    | succ some ih =>
      rw [startEach, Surroundings.start, working.launches arguments]
      exact ih ⟨working.active, working.present, working.launches⟩
  obtain ⟨n', working', launched⟩ := starts count.toNat working
  refine ⟨n', working', ?_⟩
  simp only [Office.recorded, office, Surroundings.launch, launched]

end Surroundings.Working

/-! ### Commands in surroundings that work -/

namespace Session

variable {s : Session} {n : Surroundings}

/-- A session may still send as long as the server is there. -/
theorem send_eq {ν : Type} {office : Office ν} {n : ν} (here : s.serverGone = false)
    (m : ManagerMessage) : send office s n m = office.send n m := by
  rw [send, here]
  rfl

/-- Shares that are no larger than a number on the wire are announced one after another. -/
theorem addChunks_of_small (here : s.serverGone = false) (arguments : List String)
    {shares : List Nat} (small : ∀ share ∈ shares, share < 0x80000000) (working : n.Working)
    (sent : List ManagerMessage) :
    ∃ n', n'.Working ∧
      addChunks Surroundings.office.recorded s (n, sent) arguments shares =
        ((n', sent ++ shares.map fun share => .addWorkers (Int32.ofNat share)), .ok ()) := by
  induction shares generalizing n sent with
  | nil => exact ⟨n, working, by rw [List.map_nil, List.append_nil]; rfl⟩
  | cons share shares ih =>
    have fits : encodedLen (ManagerMessage.addWorkers (Int32.ofNat share)) ≤ maxPayload :=
      Nat.le_of_ble_eq_true rfl
    obtain ⟨n₁, working₁, announced⟩ := working.send_of_fits fits sent
    obtain ⟨n₂, working₂, launched⟩ := working₁.launch_eq (UInt32.ofNat share) arguments
      (sent ++ [.addWorkers (Int32.ofNat share)])
    obtain ⟨n₃, working₃, rest⟩ := ih (fun _ member => small _ (List.mem_cons_of_mem _ member))
      working₂ (sent ++ [.addWorkers (Int32.ofNat share)])
    refine ⟨n₃, working₃, ?_⟩
    have one : addChunk Surroundings.office.recorded s (n, sent) arguments share =
        ((n₂, sent ++ [.addWorkers (Int32.ofNat share)]), .ok ()) := by
      rw [addChunk, if_neg (Nat.not_le.mpr (small share List.mem_cons_self)), send_eq here,
        announced]
      exact launched
    rw [List.append_assoc] at rest
    rw [addChunks, one]
    exact rest

/-- If the first share is too large a number on the wire, nothing is announced. -/
theorem addChunks_of_large {ν : Type} (office : Office ν) (s : Session) (n : ν)
    (arguments : List String) {most count : Nat} (large : 0x80000000 ≤ min count most) :
    addChunks office s n arguments (chunks most count) = (n, .error (.rejected
      ("cannot announce " ++ toString (min count most) ++ " workers at once"))) := by
  have some : ¬(count = 0 ∨ most = 0) := by omega
  rw [chunks, dif_neg some, addChunks, addChunk, if_pos large]

/-- What a command sends is what it stands for, and it does not end the session. -/
theorem addWorkers_orders (here : s.serverGone = false) (unsolved : s.solutionFound = false)
    (positive : 0 < s.settings.maxConnections) (count : UInt32) (arguments : List String)
    (working : n.Working) (sent : List ManagerMessage) :
    ∃ n', n'.Working ∧
      execute Surroundings.office.recorded s (n, sent) (.addWorkers count arguments) =
        (s, (n', sent ++ (Command.addWorkers count arguments).orders s.settings.maxConnections
          n.files.resolve)) := by
  have plan : chunks s.settings.maxConnections.toNat count.toNat = _ :=
    chunks_eq (UInt32.lt_iff_toNat_lt.mp positive)
  rw [execute, addWorkers, unsolved, if_neg Bool.false_ne_true, Command.orders]
  by_cases small : min count.toNat s.settings.maxConnections.toNat < 0x80000000
  · obtain ⟨n', working', done⟩ := addChunks_of_small here arguments
      (fun share member => Nat.lt_of_le_of_lt (bounds_of_mem_chunks member).2 small) working sent
    rw [if_pos small, done, plan]
    exact ⟨n', working', rfl⟩
  · have refused := addChunks_of_large Surroundings.office.recorded s (n, sent) arguments
      (Nat.not_lt.mp small)
    rw [if_neg small, refused, List.append_nil]
    exact ⟨n, working, rfl⟩

/-- Adding a file sends the one message that the command orders, and changes nothing else. -/
theorem addFile_orders (here : s.serverGone = false) (unsolved : s.solutionFound = false)
    (startConfigs maxFlips : UInt32) (path : String) (working : n.Working)
    (sent : List ManagerMessage) :
    ∃ n', n'.Working ∧
      execute Surroundings.office.recorded s (n, sent) (.addFile startConfigs maxFlips path) =
        (s, (n', sent ++ (Command.addFile startConfigs maxFlips path).orders
          s.settings.maxConnections n.files.resolve)) := by
  rw [execute, addFile, unsolved, if_neg Bool.false_ne_true, send_eq here, Command.orders]
  by_cases fits : (TaskFile.mk startConfigs maxFlips (n.files.resolve path)).encodedLen ≤ maxPayload
  · obtain ⟨n', working', done⟩ := working.send_of_fits
      (m := .addFile ⟨startConfigs, maxFlips, n.files.resolve path⟩) fits sent
    rw [if_pos fits]
    refine ⟨n', working', ?_⟩
    exact congrArg (afterSending s) done
  · rw [if_neg fits, List.append_nil]
    refine ⟨n, working, ?_⟩
    exact congrArg (afterSending s) (Surroundings.send_of_large
      (m := .addFile ⟨startConfigs, maxFlips, n.files.resolve path⟩) fits sent)

end Session

end TrialFarm
