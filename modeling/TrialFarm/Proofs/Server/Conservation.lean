import TrialFarm.Proofs.Server.Events

/-!
# Conservation of trials

What workers hold can be told from the messages alone: a grant adds trials, a report and the end of
a connection take them away. A server whose events are audited in this way never loses a trial:
roster, tasks and the count over all tasks agree with each other.

## Main definitions

* `Ledger`: trials by worker and task, as numbers of any size.
* `Audit`: a server beside the ledger of its messages.
* `Audit.run`: a run without failures.

## Main statements

* `Audit.Sound.run`: a run keeps ledger and roster equal.
* `inFlight_conserved`: roster, tasks and the count over all tasks agree.
-/

namespace TrialFarm

/-- Trials by worker and task. -/
abbrev Ledger := WorkerId → TaskId → Nat

namespace Ledger

/-- A report that arrives takes trials away. -/
def receive (l : Ledger) : StateEvent → Ledger
  | .said id (.doneProcessing r) => fun i task =>
    if i = id ∧ task = r.taskId then l i task - r.instancesProcessed.toNat else l i task
  | _ => l

/-- A grant that is sent adds trials. When a connection is closed all its trials come back. -/
def carry (l : Ledger) : Action → Ledger
  | .toWorker id (.sendInstances batches) => fun i task =>
    if i = id then l i task + trialsOf batches task else l i task
  | .closeWorker id => fun i task => if i = id then 0 else l i task
  | _ => l

/-- Announcements grant nothing, so the ledger stays as it is. -/
theorem carry_announcements (l : Ledger) (actions : List Action)
    (plain : ∀ action ∈ actions, action.IsAnnouncement) : actions.foldl carry l = l := by
  induction actions with
  | nil => rfl
  | cons action actions ih =>
    rw [List.foldl_cons]
    have unchanged : l.carry action = l := by
      have := plain action (List.mem_cons_self ..)
      unfold Action.IsAnnouncement at this
      split at this
      · rfl
      · rfl
      · rfl
      · exact this.elim
    rw [unchanged]
    exact ih fun other member => plain other (List.mem_cons_of_mem _ member)

end Ledger

/-- A server and what its messages say about trials. -/
structure Audit where
  state : ServerState
  ledger : Ledger

namespace Audit

/-- A server that has just started. -/
def start (c : ServerConfig) : Audit := ⟨ServerState.start c, fun _ _ => 0⟩

/-- The effect of an event that does not fail. -/
def step (a : Audit) (e : StateEvent) : Option Audit :=
  match a.state.apply e with
  | (state, .ok ()) =>
    some ⟨state, (state.outbound.drop a.state.outbound.length).foldl Ledger.carry
      (a.ledger.receive e)⟩
  | (_, .error _) => none

/-- The effect of events of which none fails. -/
def run : Audit → List StateEvent → Option Audit
  | a, [] => some a
  | a, e :: events => (a.step e).bind fun a => run a events

/-- The trials of a task that are out, at all workers. -/
def trialsOut (a : Audit) (task : TaskId) : Nat :=
  (a.state.roster.ids.map fun id => a.ledger id task).sum

/-- The server is in balance, its roster says what the ledger says, and so many workers have
joined. -/
structure Sound (a : Audit) (joins : Nat) : Prop where
  balanced : a.state.Balanced
  joins : a.state.roster.nextId.toNat = joins
  ledger : ∀ id task, a.ledger id task = a.state.roster.heldBy id task

variable {a b : Audit} {joins : Nat} {e : StateEvent}

theorem Sound.start (c : ServerConfig) : (start c).Sound 0 where
  balanced := ServerState.Balanced.start c
  joins := rfl
  ledger _ _ := rfl

/-- The trials on the ledger are those on the roster. -/
theorem Sound.trialsOut (sound : a.Sound joins) (task : TaskId) :
    a.trialsOut task = a.state.roster.held task := by
  rw [Audit.trialsOut, ← Roster.sum_heldBy sound.balanced.roster]
  congr 1
  exact List.map_congr_left fun id _ => sound.ledger id task

/-- The ledger is only kept beside the server. -/
theorem apply_of_step (stepped : a.step e = some b) : a.state.apply e = (b.state, .ok ()) := by
  unfold step at stepped
  split at stepped
  · next state done =>
    simp only [Option.some.injEq] at stepped
    exact stepped ▸ done
  · cases stepped

/-- A run in two parts. -/
theorem run_append (a : Audit) (before after : List StateEvent) :
    a.run (before ++ after) = (a.run before).bind fun b => b.run after := by
  induction before generalizing a with
  | nil => rfl
  | cons e before ih =>
    rw [List.cons_append, run, run, Option.bind_assoc]
    congr 1
    funext b
    exact ih b

/-- A step has the effect of its event, and the ledger grows by the grants in it. -/
theorem step_eq_some (stepped : a.step e = some b) :
    ∃ s₁, a.state.Core e s₁ ∧ s₁.Announces b.state ∧
      ∀ own, s₁.outbound = a.state.outbound ++ own →
        b.ledger = own.foldl Ledger.carry (a.ledger.receive e) := by
  unfold step at stepped
  split at stepped
  · next state done =>
    simp only [Option.some.injEq] at stepped
    subst stepped
    obtain ⟨s₁, core, said⟩ := ServerState.apply_eq_ok done
    refine ⟨s₁, core, said, fun own sent => ?_⟩
    obtain ⟨extra, out, plain, -⟩ := said.outbound
    dsimp only
    rw [out, sent, List.append_assoc, List.drop_left, List.foldl_append,
      Ledger.carry_announcements _ _ plain]
  · simp at stepped

end Audit

namespace ServerState

variable {s s₁ : ServerState} {e : StateEvent}

/-- The messages of an event change a ledger as the event changes the roster. -/
theorem Core.carries (core : s.Core e s₁) (balanced : s.Balanced) (room : s.Room e) {l : Ledger}
    (before : ∀ id task, l id task = s.roster.heldBy id task) :
    ∃ own, s₁.outbound = s.outbound ++ own ∧
      ∀ id task, own.foldl Ledger.carry (l.receive e) id task = s₁.roster.heldBy id task := by
  cases core with
  | join =>
    refine ⟨_, rfl, fun i task => ?_⟩
    show _ = s.roster.join.2.heldBy i task
    rw [Roster.heldBy_join balanced.roster.numbered, ← before]
    split
    · rfl
    · rfl
  | @grant id requested s₁ done =>
    obtain ⟨w, w', found, entered, rfl⟩ := grant_eq_ok done
    obtain ⟨-, held, -⟩ := balanced.granted found entered
    refine ⟨_, rfl, fun i task => ?_⟩
    change (if i = id then l i task + trialsOf (s.handOut requested).1 task else l i task) =
      (s.roster.modify id fun _ => w').heldBy i task
    rw [Roster.heldBy_modify found, before]
    split
    · next same => rw [same, Roster.heldBy_of_find? found, held]
    · rfl
  | @complete id r s₁ done =>
    obtain ⟨w, w', scheduler, found, settled, -, rfl⟩ := complete_eq_ok done
    have kept : w.outstanding.Kept := balanced.roster.holdings _ (Roster.mem_of_find? found)
    obtain ⟨-, -, -, -, held, -⟩ := Worker.settle_spec kept settled
    refine ⟨[], (List.append_nil _).symm, fun i task => ?_⟩
    change (if i = id ∧ task = r.taskId then l i task - r.instancesProcessed.toNat else l i task) =
      (s.roster.modify id fun _ => w').heldBy i task
    rw [Roster.heldBy_modify found, before]
    by_cases same : i = id
    · rw [if_pos same, same, Roster.heldBy_of_find? found]
      have := held task
      by_cases here : task = r.taskId
      · rw [if_pos ⟨rfl, here⟩]
        rw [if_pos here] at this
        omega
      · rw [if_neg fun both => here both.2]
        rw [if_neg here] at this
        omega
    · rw [if_neg fun both => same both.1, if_neg same]
  | @leave id s₁ w found removed | @lose id s₁ w found removed =>
    obtain ⟨scheduler, -, rfl⟩ := removeWorker_eq_ok found removed
    refine ⟨_, rfl, fun i task => ?_⟩
    change (if i = id then 0 else l i task) = (s.roster.remove id).heldBy i task
    rw [Roster.heldBy_remove, before]
  | @ignore id m gone =>
    -- A report by a worker that has left strikes nothing off the ledger: it stands at zero.
    refine ⟨[], (List.append_nil _).symm, fun i task => ?_⟩
    cases m with
    | doneProcessing r =>
      change (if i = id ∧ task = r.taskId then _ else _) = _
      rw [before]
      split
      · next both => rw [both.1, Roster.heldBy_of_gone gone, Nat.zero_sub]
      · rfl
    | foundSolution | getInstances | disconnect => exact before i task
  | submit | refuse | terminate | solve | miss =>
    exact ⟨[], (List.append_nil _).symm, before⟩

end ServerState

namespace Audit

variable {a b : Audit} {joins : Nat} {e : StateEvent}

/-- A worker that joins while there are numbers left gets one of its own. -/
theorem Sound.room (sound : a.Sound joins) (left : e.isJoin = true → joins + 1 < 2 ^ 64) :
    a.state.Room e := by
  intro joined
  rw [sound.joins]
  exact left joined

/-- Every step keeps the ledger sound. -/
theorem Sound.step (sound : a.Sound joins) (stepped : a.step e = some b)
    (left : e.isJoin = true → joins + 1 < 2 ^ 64) :
    b.Sound (joins + if e.isJoin then 1 else 0) := by
  have room := sound.room left
  obtain ⟨s₁, core, said, ledger⟩ := step_eq_some stepped
  obtain ⟨own, sent, carried⟩ := core.carries sound.balanced room sound.ledger
  refine ⟨said.balanced (core.balanced sound.balanced room), ?_, fun id task => ?_⟩
  · rw [said.roster.nextId, core.nextId_toNat room, sound.joins]
  · rw [ledger own sent, carried, said.roster.heldBy]

/-- What every event with room keeps in balance, a run keeps along with the ledger. -/
theorem Sound.run_induction {motive : ServerState → Prop} {events : List StateEvent}
    (step : ∀ s s' e, s.Balanced → s.Room e → s.apply e = (s', .ok ()) → motive s → motive s')
    (sound : a.Sound joins) (start : motive a.state) (ran : a.run events = some b)
    (left : joins + events.countP StateEvent.isJoin < 2 ^ 64) :
    b.Sound (joins + events.countP StateEvent.isJoin) ∧ motive b.state := by
  induction events generalizing a joins with
  | nil =>
    simp only [Audit.run, Option.some.injEq] at ran
    subst ran
    exact ⟨sound, start⟩
  | cons e events ih =>
    rw [Audit.run, Option.bind_eq_some_iff] at ran
    obtain ⟨c, stepped, ran⟩ := ran
    rw [List.countP_cons] at left ⊢
    have one : e.isJoin = true → joins + 1 < 2 ^ 64 := fun joined => by
      rw [if_pos joined] at left
      omega
    have now := sound.step stepped one
    have room := sound.room one
    rw [Nat.add_comm (events.countP _), ← Nat.add_assoc] at left ⊢
    exact ih now (step _ _ e sound.balanced room (apply_of_step stepped) start) ran left

/-- A run keeps roster and ledger equal. -/
theorem Sound.run {events : List StateEvent} (sound : a.Sound joins)
    (ran : a.run events = some b) (left : joins + events.countP StateEvent.isJoin < 2 ^ 64) :
    b.Sound (joins + events.countP StateEvent.isJoin) :=
  (sound.run_induction (motive := fun _ => True) (fun _ _ _ _ _ _ start => start) trivial ran
    left).1

/-- Every event of a run is processed in balance and with room, and a sound rest follows. -/
theorem Sound.split {before after : List StateEvent} {z : Audit} (sound : a.Sound joins)
    (ran : a.run (before ++ e :: after) = some z)
    (left : joins + (before ++ e :: after).countP StateEvent.isJoin < 2 ^ 64) :
    ∃ b d now, a.run before = some b ∧ b.step e = some d ∧ d.run after = some z ∧
      b.state.Balanced ∧ b.state.Room e ∧ d.Sound now ∧
      now + after.countP StateEvent.isJoin < 2 ^ 64 := by
  rw [run_append, Option.bind_eq_some_iff] at ran
  obtain ⟨b, early, late⟩ := ran
  rw [Audit.run, Option.bind_eq_some_iff] at late
  obtain ⟨d, stepped, late⟩ := late
  rw [List.countP_append, List.countP_cons] at left
  have sound' := sound.run early (by omega)
  have one : e.isJoin = true → joins + before.countP StateEvent.isJoin + 1 < 2 ^ 64 :=
    fun joined => by
      rw [if_pos joined] at left
      omega
  exact ⟨b, d, _, early, stepped, late, sound'.balanced, sound'.room one,
    sound'.step stepped one, by omega⟩

end Audit

namespace ServerState

variable {s : ServerState}

/-- In balance, what a worker holds is of a task that exists. -/
theorem Balanced.task_of_mem (balanced : s.Balanced) {id : WorkerId} {w : Worker}
    {entry : TaskId × UInt32} (found : (id, w) ∈ s.roster.workers)
    (member : entry ∈ w.outstanding) : ∃ t, s.scheduler.task? entry.1 = some t := by
  have kept := balanced.roster.holdings _ found
  have here := balanced.held_le (Roster.find?_of_mem balanced.roster found) entry.1
  rw [kept.held_of_mem member] at here
  have pos := UInt32.lt_iff_toNat_lt.mp (kept.positive entry member)
  cases task : s.scheduler.task? entry.1 with
  | none =>
    rw [outOf_of_none task] at here
    exact absurd (Nat.lt_of_lt_of_le pos here) (Nat.lt_irrefl 0)
  | some t => exact ⟨t, rfl⟩

/-- In balance, nothing is out exactly when no worker holds anything. -/
theorem Balanced.inFlight_eq_zero_iff (balanced : s.Balanced) :
    s.scheduler.inFlight = 0 ↔ ∀ entry ∈ s.roster.workers, entry.2.outstanding = [] := by
  constructor
  · rintro none ⟨id, w⟩ found
    refine List.eq_nil_iff_forall_not_mem.mpr fun entry member => ?_
    have kept := balanced.roster.holdings _ found
    have here := balanced.held_le (Roster.find?_of_mem balanced.roster found) entry.1
    rw [kept.held_of_mem member, balanced.scheduler.outOf_eq_zero none] at here
    have pos := UInt32.lt_iff_toNat_lt.mp (kept.positive entry member)
    exact absurd (Nat.lt_of_lt_of_le pos here) (Nat.lt_irrefl 0)
  · intro idle
    have none : ∀ task, outOf s.scheduler.tasks task = 0 := by
      intro task
      rw [← balanced.agree]
      refine List.sum_eq_zero fun count member => ?_
      obtain ⟨entry, found, rfl⟩ := List.mem_map.mp member
      rw [idle entry found]
      rfl
    rw [← UInt64.toNat_inj, ← balanced.scheduler.sum, outAll_eq_zero balanced.scheduler.few none]
    rfl

end ServerState

/-- Roster, tasks and the count over all tasks agree after every run without failures: for each
task the workers hold together what is in flight of it, and the tasks together have in flight what
the server counts. The run may be any as long as fewer than 2^64 workers join, so that their numbers
differ. A request that would take the trials of a task over 32 bits is a failure. -/
theorem inFlight_conserved (c : ServerConfig) (events : List StateEvent) (a : Audit)
    (ran : (Audit.start c).run events = some a)
    (numbered : events.countP StateEvent.isJoin < 2 ^ 64) :
    (∀ task t, a.state.scheduler.task? task = some t →
      (a.state.roster.workers.map fun entry => (entry.2.outstanding.count task).toNat).sum =
        t.inFlight.toNat) ∧
    (a.state.scheduler.tasks.toList.map fun t => t.inFlight.toNat).sum =
      a.state.scheduler.inFlight.toNat ∧
    (∀ entry ∈ a.state.roster.workers, ∀ held ∈ entry.2.outstanding,
      0 < held.2 ∧ ∃ t, a.state.scheduler.task? held.1 = some t) ∧
    (a.state.scheduler.inFlight = 0 ↔
      ∀ entry ∈ a.state.roster.workers, entry.2.outstanding = []) := by
  have sound := (Audit.Sound.start c).run ran (by omega)
  have balanced := sound.balanced
  refine ⟨fun task t found => ?_, balanced.scheduler.sum, fun entry found held member => ?_,
    balanced.inFlight_eq_zero_iff⟩
  · rw [← outOf_of_some found]
    exact balanced.agree task
  · exact ⟨(balanced.roster.holdings entry found).positive held member,
      balanced.task_of_mem found member⟩

/-- A worker joins, a file is submitted, the worker is granted two trials and reports one. -/
def oneReport : List StateEvent :=
  [.joined, .submitted ⟨3, 10, "a.cnf"⟩, .said 0 (.getInstances 2),
    .said 0 (.doneProcessing { (default : TrialRecord) with instancesProcessed := 1 })]

/-- After that run one trial is in flight: of the task, at the worker and in all. -/
theorem inFlight_conserved_oneReport :
    ∃ a, (Audit.start ServerConfig.standard).run oneReport = some a ∧
      (a.state.roster.workers.map fun entry => (entry.2.outstanding.count 0).toNat).sum = 1 ∧
      (a.state.scheduler.tasks.toList.map fun t => t.inFlight.toNat).sum = 1 := by
  obtain ⟨a, ran, t, found, one, all⟩ : ∃ a,
      (Audit.start ServerConfig.standard).run oneReport = some a ∧
      ∃ t, a.state.scheduler.task? 0 = some t ∧ t.inFlight = 1 ∧
        a.state.scheduler.inFlight = 1 :=
    ⟨_, rfl, _, rfl, by decide, by decide⟩
  obtain ⟨ofTask, inAll, -, -⟩ :=
    inFlight_conserved ServerConfig.standard oneReport a ran (by decide)
  refine ⟨a, ran, ?_, ?_⟩
  · rw [ofTask 0 t found, one]
    rfl
  · rw [inAll, all]
    rfl

end TrialFarm
