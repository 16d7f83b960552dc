import TrialFarm.Wire.Line

/-!
# Pipes

A pipe is one direction of a connection: what was put in comes out in the same order, and when it is
finished, or its writer vanishes, its end comes out last.

## Main definitions

* `Pipe`: the messages on their way, and whether more may follow.
* `Pipe.next`: what comes out next.
* `Outlet`, `Outlet.sender`: a pipe as something to send on.
-/

namespace TrialFarm

open Wire

/-- Whether anything can still be put into a pipe. -/
inductive Flow where
  /-- More may follow. -/
  | flowing
  /-- Nothing follows, and the reader does not know it yet. -/
  | ending
  /-- The reader knows that nothing follows, or is gone. -/
  | shut
  deriving DecidableEq, Repr

/-- One direction of a connection. -/
structure Pipe (α : Type) where
  /-- The messages on their way, the oldest first. -/
  waiting : List α
  flow : Flow
  deriving Repr

/-- What comes out of a pipe. -/
inductive Parting (α : Type) where
  | message (m : α)
  | close
  deriving Repr

namespace Pipe

variable {α : Type}

/-- A pipe that nothing was put into. -/
def fresh : Pipe α := ⟨[], .flowing⟩

/-- Puts a message in. A pipe that does not flow any more loses it. -/
def put (p : Pipe α) (m : α) : Pipe α :=
  if p.flow = .flowing then { p with waiting := p.waiting ++ [m] } else p

/-- Puts messages in, the first one first. -/
def putAll (p : Pipe α) (ms : List α) : Pipe α := ms.foldl put p

/-- The writer closes the pipe behind what it has put in. -/
def finish (p : Pipe α) : Pipe α :=
  if p.flow = .flowing then { p with flow := .ending } else p

/-- The connection breaks. Only the first messages still arrive. -/
def cut (p : Pipe α) (kept : Nat) : Pipe α :=
  { waiting := p.waiting.take kept, flow := if p.flow = .flowing then .ending else p.flow }

/-- The reader goes away. -/
def abandon (_ : Pipe α) : Pipe α := ⟨[], .shut⟩

/-- What comes out next, and the pipe after that. -/
def next (p : Pipe α) : Option (Parting α × Pipe α) :=
  match p.waiting, p.flow with
  | m :: rest, flow => some (.message m, ⟨rest, flow⟩)
  | [], .ending => some (.close, ⟨[], .shut⟩)
  | [], _ => none

/-- Nothing is on its way, not even the end. -/
def Still (p : Pipe α) : Prop := p.waiting = [] ∧ p.flow ≠ .ending

variable {p p' : Pipe α} {m : α}

@[simp] theorem flow_put : (p.put m).flow = p.flow := by
  unfold put
  split
  · rfl
  · rfl

/-- A message that is put into a flowing pipe waits behind the others. -/
theorem waiting_put (flowing : p.flow = .flowing) : (p.put m).waiting = p.waiting ++ [m] := by
  rw [put, if_pos flowing]

/-- A pipe that has ended takes no message. -/
theorem put_of_not_flowing (stuck : p.flow ≠ .flowing) : p.put m = p := by
  rw [put, if_neg stuck]

/-- What waits after a message is put in waited before, or is that message. -/
theorem mem_put {x : α} (inside : x ∈ (p.put m).waiting) : x ∈ p.waiting ∨ x = m := by
  by_cases flowing : p.flow = .flowing
  · rw [waiting_put flowing] at inside
    simpa using inside
  · rw [put_of_not_flowing flowing] at inside
    exact Or.inl inside

theorem mem_put_of_mem {x : α} (inside : x ∈ p.waiting) : x ∈ (p.put m).waiting := by
  by_cases flowing : p.flow = .flowing
  · rw [waiting_put flowing]
    exact List.mem_append_left _ inside
  · rwa [put_of_not_flowing flowing]

theorem putAll_append (p : Pipe α) (ms ms' : List α) :
    p.putAll (ms ++ ms') = (p.putAll ms).putAll ms' := List.foldl_append ..

@[simp] theorem flow_putAll (p : Pipe α) (ms : List α) : (p.putAll ms).flow = p.flow := by
  induction ms generalizing p with
  | nil => rfl
  | cons m ms ih => exact (ih (p.put m)).trans flow_put

/-- Messages that are put into a flowing pipe wait behind the others, in order. -/
theorem waiting_putAll (flowing : p.flow = .flowing) (ms : List α) :
    (p.putAll ms).waiting = p.waiting ++ ms := by
  induction ms generalizing p with
  | nil => exact (List.append_nil _).symm
  | cons m ms ih =>
    show ((p.put m).putAll ms).waiting = p.waiting ++ m :: ms
    rw [ih (flow_put.trans flowing), waiting_put flowing, List.append_assoc]
    rfl

theorem putAll_of_not_flowing (stuck : p.flow ≠ .flowing) (ms : List α) : p.putAll ms = p := by
  induction ms with
  | nil => rfl
  | cons m ms ih =>
    show (p.put m).putAll ms = p
    rw [put_of_not_flowing stuck, ih]

theorem mem_putAll {ms : List α} {x : α} (inside : x ∈ (p.putAll ms).waiting) :
    x ∈ p.waiting ∨ x ∈ ms := by
  by_cases flowing : p.flow = .flowing
  · rw [waiting_putAll flowing] at inside
    exact List.mem_append.mp inside
  · rw [putAll_of_not_flowing flowing] at inside
    exact Or.inl inside

theorem mem_putAll_of_mem {ms : List α} {x : α} (inside : x ∈ p.waiting) :
    x ∈ (p.putAll ms).waiting := by
  by_cases flowing : p.flow = .flowing
  · rw [waiting_putAll flowing]
    exact List.mem_append_left _ inside
  · rwa [putAll_of_not_flowing flowing]

/-- No more messages of a kind wait than waited before and were put in. -/
theorem countP_putAll_le (p : Pipe α) (ms : List α) (f : α → Bool) :
    (p.putAll ms).waiting.countP f ≤ p.waiting.countP f + ms.countP f := by
  by_cases flowing : p.flow = .flowing
  · rw [waiting_putAll flowing]
    exact Nat.le_of_eq List.countP_append
  · rw [putAll_of_not_flowing flowing]
    exact Nat.le_add_right _ _

@[simp] theorem waiting_finish : p.finish.waiting = p.waiting := by
  unfold finish
  split
  · rfl
  · rfl

/-- Nothing can be put into a pipe whose sender has finished. -/
theorem flow_finish : p.finish.flow ≠ .flowing := by
  unfold finish
  split
  · exact Flow.noConfusion
  · assumption

theorem flow_cut (p : Pipe α) (kept : Nat) : (p.cut kept).flow ≠ .flowing := by
  show (if p.flow = .flowing then Flow.ending else p.flow) ≠ .flowing
  split
  · exact Flow.noConfusion
  · assumption

/-- A sender that finishes leaves a pipe that has ended as it is. -/
theorem flow_finish_cases (p : Pipe α) : p.finish.flow = p.flow ∨ p.finish.flow = .ending := by
  unfold finish
  split
  · exact Or.inr rfl
  · exact Or.inl rfl

theorem flow_cut_cases (p : Pipe α) (kept : Nat) :
    (p.cut kept).flow = p.flow ∨ (p.cut kept).flow = .ending := by
  show (if p.flow = .flowing then Flow.ending else p.flow) = p.flow ∨ _
  by_cases flowing : p.flow = .flowing
  · exact Or.inr (if_pos flowing)
  · exact Or.inl (if_neg flowing)

/-- The message that is taken is the first one that waits. -/
theorem next_eq_message (came : p.next = some (.message m, p')) :
    p.waiting = m :: p'.waiting ∧ p'.flow = p.flow := by
  obtain ⟨waiting, flow⟩ := p
  cases waiting with
  | cons first rest =>
    simp only [next, Option.some.injEq, Prod.mk.injEq, Parting.message.injEq] at came
    obtain ⟨rfl, rfl⟩ := came
    exact ⟨rfl, rfl⟩
  | nil => cases flow <;> simp [next] at came

/-- The end of the connection is seen once, after all messages were taken. -/
theorem next_eq_close (came : p.next = some (.close, p')) :
    p.waiting = [] ∧ p.flow = .ending ∧ p' = ⟨[], .shut⟩ := by
  obtain ⟨waiting, flow⟩ := p
  cases waiting with
  | cons first rest => simp [next] at came
  | nil =>
    cases flow with
    | ending =>
      simp only [next, Option.some.injEq, Prod.mk.injEq, true_and] at came
      exact ⟨rfl, rfl, came.symm⟩
    | flowing | shut => simp [next] at came

/-- What is left was in the pipe before. -/
theorem mem_of_next {part : Parting α} (came : p.next = some (part, p')) {x : α}
    (later : x ∈ p'.waiting) : x ∈ p.waiting := by
  cases part with
  | message m =>
    rw [(next_eq_message came).1]
    exact List.mem_cons_of_mem m later
  | close =>
    obtain ⟨-, -, rfl⟩ := next_eq_close came
    cases later

end Pipe

/-- A pipe, and which of the next messages sent on it fail. Sending fails before anything is put in;
a writer that does not notice a broken pipe goes on writing into the void. -/
structure Outlet (α : Type) where
  pipe : Pipe α
  failures : List (Option Error)

/-- Sending on a pipe. -/
def Outlet.sender {α : Type} : Sender α (Outlet α) where
  send o m :=
    match o.failures with
    | some e :: failures => (⟨o.pipe, failures⟩, .error e)
    | none :: failures => (⟨o.pipe.put m, failures⟩, .ok ())
    | [] => (⟨o.pipe.put m, []⟩, .ok ())
  close o := { o with pipe := o.pipe.finish }

/-- Either the message is put into the pipe or sending fails. -/
theorem Outlet.send_cases {α : Type} (o : Outlet α) (m : α) :
    (∃ failures, Outlet.sender.send o m = (⟨o.pipe.put m, failures⟩, .ok ())) ∨
      ∃ failures e, Outlet.sender.send o m = (⟨o.pipe, failures⟩, .error e) := by
  obtain ⟨pipe, failures⟩ := o
  cases failures with
  | nil => exact Or.inl ⟨[], rfl⟩
  | cons failure failures =>
    cases failure with
    | none => exact Or.inl ⟨failures, rfl⟩
    | some e => exact Or.inr ⟨failures, e, rfl⟩

end TrialFarm
