import TrialFarm.Proofs.Wire.Layout
import TrialFarm.Wire.Message

/-!
# Payloads of messages

The sizes of records and messages are declared apart from their layouts. Each declared size is that
of the bytes that are written, so whether a message can travel is known before it is written, and a
message that can travel is read back as it was.

The four sets of messages obey the same laws, which are stated once for a set and proved for each.

## Main definitions

* `CanonicalSet`: a set of messages with declared sizes, whose payloads determine their messages.
* `Direction.Message`: the messages that travel in a direction.

## Main statements

* `encodedLen_le_of_fromPayload`: no message is larger than a payload that it was read from.
* `payload_exact`: sizes and round trip for every message of every direction.
-/

namespace TrialFarm

open Wire

/-! ### Declared sizes -/

instance : Canonical TaskFile :=
  .transport (g := fun f => (f.startConfigs, f.maxFlips, f.filename)) (fun _ => rfl) rfl
    (fun _ => rfl) fun _ => rfl

instance : Canonical Statistics :=
  .transport (g := fun s => (s.instancesStarted, s.totalFlips, s.avgFlipsPerSecond, s.initMicros,
    s.solveMicros, s.overallMicros, s.numVars, s.numClauses, s.timesSolved, s.minFlipsToSolve))
    (fun _ => rfl) rfl (fun _ => rfl) fun _ => rfl

instance : Canonical Batch :=
  .transport (g := fun b => (b.file, b.instances, b.taskId)) (fun _ => rfl) rfl
    (fun _ => rfl) fun _ => rfl

instance : Canonical TrialRecord :=
  .transport (g := fun r => (r.taskId, r.instancesProcessed, r.flips, r.flipsPerSecond,
    r.initMicros, r.solveMicros, r.overallMicros, r.seed, r.numVars, r.numClauses, r.solved))
    (fun _ => rfl) rfl (fun _ => rfl) fun _ => rfl

instance : Canonical Solution :=
  .transport (g := fun s => (s.seed, s.flips, s.solveMicros, s.numVars, s.numClauses, s.filename))
    (fun _ => rfl) rfl (fun _ => rfl) fun _ => rfl

@[simp] theorem TaskFile.length_write (f : TaskFile) : (write f).length = f.encodedLen := by
  show (write (f.startConfigs, f.maxFlips, f.filename)).length = _
  simp only [length_write_prod, length_write_uint32, length_write_string, encodedLen,
    minEncodedLen, prefixedLen, countLen]
  omega

@[simp] theorem Statistics.length_write (s : Statistics) : (write s).length = encodedLen := by
  show (write (s.instancesStarted, s.totalFlips, s.avgFlipsPerSecond, s.initMicros, s.solveMicros,
    s.overallMicros, s.numVars, s.numClauses, s.timesSolved, s.minFlipsToSolve)).length = _
  simp only [length_write_prod, length_write_uint64, length_write_binary64, encodedLen]

@[simp] theorem Batch.length_write (b : Batch) : (write b).length = b.encodedLen := by
  show (write (b.file, b.instances, b.taskId)).length = _
  simp only [length_write_prod, length_write_uint32, TaskFile.length_write, encodedLen]

@[simp] theorem TrialRecord.length_write (r : TrialRecord) : (write r).length = encodedLen := by
  show (write (r.taskId, r.instancesProcessed, r.flips, r.flipsPerSecond, r.initMicros,
    r.solveMicros, r.overallMicros, r.seed, r.numVars, r.numClauses, r.solved)).length = _
  simp only [length_write_prod, length_write_uint32, length_write_uint64, length_write_binary64,
    length_write_bool, encodedLen]

@[simp] theorem Solution.length_write (s : Solution) : (write s).length = s.encodedLen := by
  show (write (s.seed, s.flips, s.solveMicros, s.numVars, s.numClauses, s.filename)).length = _
  simp only [length_write_prod, length_write_uint64, length_write_string, encodedLen,
    minEncodedLen, prefixedLen, countLen]
  omega

/-- The size of a command. -/
def ManagerMessage.encodedLen : ManagerMessage → Nat
  | .addWorkers _ => 4
  | .addFile file => file.encodedLen
  | .terminate => 0

/-- The size of a report. -/
def ReportMessage.encodedLen : ReportMessage → Nat
  | .foundSolution solution => solution.encodedLen
  | .sendStatistics file _ => file.encodedLen + Statistics.encodedLen
  | .disconnect => 0

/-- The size of what is said to a worker. -/
def ServerMessage.encodedLen : ServerMessage → Nat
  | .sendInstances batches => emptyGrantLen + (batches.map Batch.encodedLen).sum
  | .activate | .terminate => 0

/-- The size of what a worker says. -/
def WorkerMessage.encodedLen : WorkerMessage → Nat
  | .foundSolution solution => solution.encodedLen
  | .doneProcessing _ => TrialRecord.encodedLen
  | .getInstances _ => 4
  | .disconnect => 0

end TrialFarm

namespace TrialFarm.Wire

/-! ### Sets of messages -/

/-- A payload of `n` bytes is within the bounds. -/
def Bounds.Allow (b : Bounds) (n : Nat) : Prop :=
  b.min ≤ n ∧ ∀ most, b.max = some most → n ≤ most

theorem Bounds.allow_exact (n : Nat) : (Bounds.exact n).Allow n :=
  ⟨Nat.le_refl n, fun _ most => Nat.le_of_eq (Option.some.inj most)⟩

theorem Bounds.allow_atLeast {n k : Nat} (enough : n ≤ k) : (Bounds.atLeast n).Allow k :=
  ⟨enough, nofun⟩

/-- Reading a payload under a tag may give the message: it is what was written for the message, or
the message has no fields and its payload has to be empty. -/
def ReadFrom {μ : Type} [MessageSet μ] (tag : Int32) (payload : Bytes) (m : μ) : Prop :=
  MessageSet.tag m = tag ∧ (MessageSet.body m = payload ∨
    MessageSet.body m = [] ∧ ∃ name, MessageSet.describe μ tag = some ⟨name, .exact 0⟩)

/-- A set of messages with declared sizes, whose payloads determine their messages. -/
class CanonicalSet (μ : Type) [MessageSet μ] where
  /-- The declared size of a message. -/
  encodedLen : μ → Nat
  length_body (m : μ) : (MessageSet.body m).length = encodedLen m
  /-- Every message is described, with bounds that it keeps to. -/
  described (m : μ) : ∃ kind, MessageSet.describe μ (MessageSet.tag m) = some kind ∧
    kind.bounds.Allow (encodedLen m)
  /-- The tag of announcements belongs to no message. -/
  reserved : MessageSet.describe μ growTag = none
  parse_body (m : μ) (short : (MessageSet.body m).length < 2 ^ 64) :
    MessageSet.parse (MessageSet.tag m) (MessageSet.body m) = some (.ok m)
  readFrom {tag : Int32} {payload : Bytes} {m : μ}
    (parsed : MessageSet.parse tag payload = some (.ok m)) : ReadFrom tag payload m

export CanonicalSet (encodedLen)

section Parsing

variable {α μ : Type} [Layout α] [Canonical α]

/-- A payload that is written is parsed as what it was made from. -/
theorem parseAs_write {make : α → μ} (a : α) (short : (write a).length < 2 ^ 64) :
    some (parseAs make (write a)) = some (.ok (make a)) := by
  rw [parseAs, readAll_write a short]
  rfl

variable [MessageSet μ] {tag known : Int32} {payload : Bytes} {m : μ}

/-- A message with fields is read from its own payload. -/
theorem ReadFrom.fields {make : α → μ} (is : tag = known)
    (parsed : some (parseAs make payload) = some (.ok m))
    (tagged : ∀ a, MessageSet.tag (make a) = known)
    (body : ∀ a, MessageSet.body (make a) = write a) : ReadFrom tag payload m := by
  rw [Option.some.injEq, parseAs] at parsed
  cases found : readAll (α := α) payload with
  | error e => rw [found] at parsed; cases parsed
  | ok a =>
    rw [found] at parsed
    obtain rfl := Except.ok.inj parsed
    refine ⟨(tagged a).trans is.symm, Or.inl ?_⟩
    rw [body, eq_write_of_readAll found]

/-- A message without fields is read from anything, but its payload has to be empty. -/
theorem ReadFrom.noFields {made : μ} (is : tag = known)
    (parsed : (some (.ok made) : Option (Except Malformed μ)) = some (.ok m))
    (tagged : MessageSet.tag made = known) (body : MessageSet.body made = []) {name : String}
    (described : MessageSet.describe μ known = some ⟨name, .exact 0⟩) : ReadFrom tag payload m := by
  obtain rfl := Except.ok.inj (Option.some.inj parsed)
  subst is
  exact ⟨tagged, Or.inr ⟨body, name, described⟩⟩

end Parsing

instance : CanonicalSet ManagerMessage where
  encodedLen := ManagerMessage.encodedLen
  length_body m := by
    cases m with
    | addWorkers count => exact length_write_int32 count
    | addFile file => exact file.length_write
    | terminate => rfl
  described m := by
    cases m with
    | addWorkers => exact ⟨_, rfl, Bounds.allow_exact 4⟩
    | addFile file => exact ⟨_, rfl, Bounds.allow_atLeast (Nat.le_add_right ..)⟩
    | terminate => exact ⟨_, rfl, Bounds.allow_exact 0⟩
  reserved := rfl
  parse_body m short := by
    cases m with
    | addWorkers count => exact parseAs_write count short
    | addFile file => exact parseAs_write file short
    | terminate => rfl
  readFrom {tag payload m} parsed := by
    change (if tag = 2 then _ else if tag = 3 then _ else if tag = 4 then _ else _) = _ at parsed
    split at parsed
    · next is => exact .fields is parsed (fun _ => rfl) fun _ => rfl
    split at parsed
    · next is => exact .fields is parsed (fun _ => rfl) fun _ => rfl
    split at parsed
    · next is => exact .noFields is parsed rfl rfl rfl
    · cases parsed

instance : CanonicalSet ReportMessage where
  encodedLen := ReportMessage.encodedLen
  length_body m := by
    cases m with
    | foundSolution solution => exact solution.length_write
    | sendStatistics file statistics =>
      show (write (file, statistics)).length = _
      rw [length_write_prod, TaskFile.length_write, Statistics.length_write]
      rfl
    | disconnect => rfl
  described m := by
    cases m with
    | foundSolution => exact ⟨_, rfl, Bounds.allow_atLeast (Nat.le_add_right ..)⟩
    | sendStatistics file =>
      exact ⟨_, rfl, Bounds.allow_atLeast (Nat.add_le_add_right (Nat.le_add_right ..) _)⟩
    | disconnect => exact ⟨_, rfl, Bounds.allow_exact 0⟩
  reserved := rfl
  parse_body m short := by
    cases m with
    | foundSolution solution => exact parseAs_write solution short
    | sendStatistics file statistics => exact parseAs_write (file, statistics) short
    | disconnect => rfl
  readFrom {tag payload m} parsed := by
    change (if tag = 2 then _ else if tag = 3 then _ else if tag = 4 then _ else _) = _ at parsed
    split at parsed
    · next is => exact .fields is parsed (fun _ => rfl) fun _ => rfl
    split at parsed
    · next is => exact .fields is parsed (fun _ => rfl) fun _ => rfl
    split at parsed
    · next is => exact .noFields is parsed rfl rfl rfl
    · cases parsed

instance : CanonicalSet ServerMessage where
  encodedLen := ServerMessage.encodedLen
  length_body m := by
    cases m with
    | activate | terminate => rfl
    | sendInstances batches =>
      show (write batches).length = _
      rw [length_write_list]
      congr 2
      exact List.map_congr_left fun b _ => b.length_write
  described m := by
    cases m with
    | activate | terminate => exact ⟨_, rfl, Bounds.allow_exact 0⟩
    | sendInstances => exact ⟨_, rfl, Bounds.allow_atLeast (Nat.le_add_right ..)⟩
  reserved := rfl
  parse_body m short := by
    cases m with
    | activate | terminate => rfl
    | sendInstances batches => exact parseAs_write batches short
  readFrom {tag payload m} parsed := by
    change (if tag = 2 then _ else if tag = 3 then _ else if tag = 4 then _ else _) = _ at parsed
    split at parsed
    · next is => exact .noFields is parsed rfl rfl rfl
    split at parsed
    · next is => exact .fields is parsed (fun _ => rfl) fun _ => rfl
    split at parsed
    · next is => exact .noFields is parsed rfl rfl rfl
    · cases parsed

instance : CanonicalSet WorkerMessage where
  encodedLen := WorkerMessage.encodedLen
  length_body m := by
    cases m with
    | foundSolution solution => exact solution.length_write
    | doneProcessing record => exact record.length_write
    | getInstances requested => exact length_write_uint32 requested
    | disconnect => rfl
  described m := by
    cases m with
    | foundSolution => exact ⟨_, rfl, Bounds.allow_atLeast (Nat.le_add_right ..)⟩
    | doneProcessing => exact ⟨_, rfl, Bounds.allow_exact _⟩
    | getInstances => exact ⟨_, rfl, Bounds.allow_exact 4⟩
    | disconnect => exact ⟨_, rfl, Bounds.allow_exact 0⟩
  reserved := rfl
  parse_body m short := by
    cases m with
    | foundSolution solution => exact parseAs_write solution short
    | doneProcessing record => exact parseAs_write record short
    | getInstances requested => exact parseAs_write requested short
    | disconnect => rfl
  readFrom {tag payload m} parsed := by
    change (if tag = 2 then _ else if tag = 3 then _ else if tag = 4 then _ else
      if tag = 5 then _ else _) = _ at parsed
    split at parsed
    · next is => exact .fields is parsed (fun _ => rfl) fun _ => rfl
    split at parsed
    · next is => exact .fields is parsed (fun _ => rfl) fun _ => rfl
    split at parsed
    · next is => exact .fields is parsed (fun _ => rfl) fun _ => rfl
    split at parsed
    · next is => exact .noFields is parsed rfl rfl rfl
    · cases parsed

/-! ### Payloads -/

section Payloads

variable {μ : Type} [MessageSet μ] {tag : Int32} {payload : Bytes} {m : μ}

/-- A payload that cannot be read violates the protocol of its channel. -/
theorem fromPayload_eq_error {e : Error}
    (failed : fromPayload (μ := μ) tag payload = .error e) :
    ∃ detail, e = .protocol (MessageSet.channel μ) detail := by
  rw [fromPayload] at failed
  split at failed
  · exact ⟨_, (Except.error.inj failed).symm⟩
  rw [decodePayload] at failed
  split at failed
  · exact ⟨_, (Except.error.inj failed).symm⟩
  next outcome parsed =>
  cases outcome with
  | error cause => exact ⟨_, (Except.error.inj failed).symm⟩
  | ok m' => cases failed

variable [CanonicalSet μ]

/-- A payload is made from exactly the messages within the limit. -/
theorem toPayload_eq_ok_iff :
    toPayload m = .ok payload ↔ encodedLen m ≤ maxPayload ∧ payload = MessageSet.body m := by
  rw [toPayload, limited, CanonicalSet.length_body]
  split
  · next fits =>
    rw [Except.ok.injEq, eq_comm]
    exact (and_iff_right fits).symm
  · next large => exact ⟨nofun, fun both => absurd both.1 large⟩

/-- A message above the limit is refused. -/
theorem toPayload_of_large (large : ¬encodedLen m ≤ maxPayload) :
    toPayload m = .error (oversized (MessageSet.channel μ)) := by
  rw [toPayload, limited, CanonicalSet.length_body, if_neg large]

/-- A message that can travel is read back. -/
theorem fromPayload_body (fits : encodedLen m ≤ maxPayload) :
    fromPayload (MessageSet.tag m) (MessageSet.body m) = .ok m := by
  obtain ⟨kind, described, -⟩ := CanonicalSet.described m
  have short : (MessageSet.body m).length < 2 ^ 64 := by
    rw [CanonicalSet.length_body]
    exact Nat.lt_of_le_of_lt fits (by decide)
  rw [fromPayload, described, Option.isNone_some, if_neg Bool.false_ne_true, decodePayload,
    CanonicalSet.parse_body m short]
  rfl

/-- A message that is read has the tag and the layout of what was sent. -/
theorem fromPayload_eq_ok (done : fromPayload tag payload = .ok m) : ReadFrom tag payload m := by
  rw [fromPayload] at done
  split at done
  · cases done
  rw [decodePayload] at done
  split at done
  · cases done
  next outcome parsed =>
  cases outcome with
  | error e => cases done
  | ok m' =>
    obtain rfl := Except.ok.inj done
    exact CanonicalSet.readFrom parsed

/-- No message is larger than a payload that it was read from. -/
theorem encodedLen_le_of_fromPayload (done : fromPayload tag payload = .ok m) :
    encodedLen m ≤ payload.length := by
  rw [← CanonicalSet.length_body]
  rcases (fromPayload_eq_ok done).2 with same | ⟨none, -⟩
  · exact Nat.le_of_eq (congrArg List.length same)
  · rw [none]
    exact Nat.zero_le _

end Payloads

end TrialFarm.Wire

namespace TrialFarm

open Wire

/-- The messages that travel in a direction. -/
abbrev Direction.Message : Direction → Type
  | .managerToServer => ManagerMessage
  | .serverToManager => ReportMessage
  | .serverToWorker => ServerMessage
  | .workerToServer => WorkerMessage

instance (d : Direction) : MessageSet d.Message :=
  match d with
  | .managerToServer => inferInstanceAs (MessageSet ManagerMessage)
  | .serverToManager => inferInstanceAs (MessageSet ReportMessage)
  | .serverToWorker => inferInstanceAs (MessageSet ServerMessage)
  | .workerToServer => inferInstanceAs (MessageSet WorkerMessage)

instance (d : Direction) : CanonicalSet d.Message :=
  match d with
  | .managerToServer => inferInstanceAs (CanonicalSet ManagerMessage)
  | .serverToManager => inferInstanceAs (CanonicalSet ReportMessage)
  | .serverToWorker => inferInstanceAs (CanonicalSet ServerMessage)
  | .workerToServer => inferInstanceAs (CanonicalSet WorkerMessage)

@[simp] theorem channel_message (d : Direction) : MessageSet.channel d.Message = d := by
  cases d with
  | managerToServer | serverToManager | serverToWorker | workerToServer => rfl

/-- Every message of every direction has a payload exactly if its declared size is within the
maximum, and is refused otherwise. The payload has the declared size, and is read back as the
message it was made of. -/
theorem payload_exact (d : Direction) (m : d.Message) :
    ((∃ payload, toPayload m = .ok payload) ↔ encodedLen m ≤ maxPayload) ∧
    (¬encodedLen m ≤ maxPayload → ∃ detail, toPayload m = .error (.rejected detail)) ∧
    ∀ payload, toPayload m = .ok payload →
      payload.length = encodedLen m ∧ fromPayload (MessageSet.tag m) payload = .ok m := by
  refine ⟨⟨?_, fun fits => ⟨_, toPayload_eq_ok_iff.mpr ⟨fits, rfl⟩⟩⟩,
    fun large => ⟨_, toPayload_of_large large⟩, fun payload made => ?_⟩
  · rintro ⟨payload, made⟩
    exact (toPayload_eq_ok_iff.mp made).1
  · obtain ⟨fits, rfl⟩ := toPayload_eq_ok_iff.mp made
    exact ⟨CanonicalSet.length_body m, fromPayload_body fits⟩

end TrialFarm
