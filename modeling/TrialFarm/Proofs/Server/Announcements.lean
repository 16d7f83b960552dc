import TrialFarm.Proofs.Server.Roster
import TrialFarm.Server.State

/-!
# Announcements

After every event the server moves on: it wakes workers, sends statistics, tells workers to stop.
None of this touches the scheduler or what workers hold.

## Main definitions

* `Roster.holdings`: the roster without the marks of who was activated.
* `Action.IsAnnouncement`: actions that neither grant trials nor close a connection.
* `ServerState.Announces`: a state that differs from an earlier one by announcements only.

## Main statements

* `ServerState.announces_advance` and its parts: moving on only announces.
-/

namespace TrialFarm

namespace Roster

/-- What each worker holds, without the marks of who was activated. -/
def holdings (r : Roster) : List (WorkerId × Holdings) :=
  r.workers.map fun entry => (entry.1, entry.2.outstanding)

/-- Two rosters on which the same workers hold the same trials. -/
structure SameHoldings (r r' : Roster) : Prop where
  nextId : r'.nextId = r.nextId
  holdings : r'.holdings = r.holdings

variable {r r' r'' : Roster} {id : WorkerId} {w : Worker}

/-- The numbers on a roster are those of its holdings. -/
theorem ids_eq_holdings (r : Roster) : r.ids = r.holdings.map Prod.fst := by
  simp [ids, holdings]

/-- What is held of a task is the sum over the holdings. -/
theorem held_eq_holdings (r : Roster) (task : TaskId) :
    r.held task = (r.holdings.map fun entry => entry.2.held task).sum := by
  simp [held, holdings, Function.comp_def]

/-- What a worker holds is what the holdings say of it. -/
theorem find?_outstanding (r : Roster) (id : WorkerId) :
    (r.find? id).map Worker.outstanding = r.holdings.lookup id := by
  unfold find? holdings
  induction r.workers with
  | nil => rfl
  | cons entry rest ih =>
    obtain ⟨first, w⟩ := entry
    rw [List.map_cons, lookup_cons_ite, lookup_cons_ite]
    split
    · rfl
    · exact ih

namespace SameHoldings

theorem refl (r : Roster) : SameHoldings r r := ⟨rfl, rfl⟩

/-- Changes that leave the holdings alone compose. -/
theorem trans (first : SameHoldings r r') (second : SameHoldings r' r'') : SameHoldings r r'' :=
  ⟨second.nextId.trans first.nextId, second.holdings.trans first.holdings⟩

/-- The same workers are on the roster. -/
theorem ids (same : SameHoldings r r') : r'.ids = r.ids := by
  rw [ids_eq_holdings, ids_eq_holdings, same.holdings]

/-- As much is held of each task. -/
theorem held (same : SameHoldings r r') (task : TaskId) : r'.held task = r.held task := by
  rw [held_eq_holdings, held_eq_holdings, same.holdings]

/-- Each worker holds as much. -/
theorem heldBy (same : SameHoldings r r') (id : WorkerId) (task : TaskId) :
    r'.heldBy id task = r.heldBy id task := by
  have changed : ∀ r : Roster, r.heldBy id task =
      ((r.find? id).map Worker.outstanding).elim 0 fun h => h.held task := by
    intro r
    rw [Roster.heldBy]
    cases r.find? id with
    | none => rfl
    | some w => rfl
  rw [changed, changed, find?_outstanding, find?_outstanding, same.holdings]

/-- The numbers on the roster are still in order. -/
theorem numbered (same : SameHoldings r r') (numbered : r.Numbered) : r'.Numbered :=
  numbered.congr same.ids same.nextId

/-- The roster is still well kept. -/
theorem kept (same : SameHoldings r r') (kept : r.Kept) : r'.Kept := by
  have numbered := same.numbered kept.numbered
  refine ⟨numbered.distinct, numbered.given, fun entry member => ?_⟩
  have inside : (entry.1, entry.2.outstanding) ∈ r'.holdings :=
    List.mem_map.mpr ⟨entry, member, rfl⟩
  rw [same.holdings] at inside
  obtain ⟨old, old_member, same⟩ := List.mem_map.mp inside
  have := kept.holdings old old_member
  rwa [(Prod.mk.inj same).2] at this

/-- A worker on the later roster is on the earlier one and holds the same. -/
theorem find? (same : SameHoldings r r') (found : r'.find? id = some w) :
    ∃ w₀, r.find? id = some w₀ ∧ w₀.outstanding = w.outstanding := by
  have outstanding := find?_outstanding r' id
  rw [found, same.holdings, ← find?_outstanding r id] at outstanding
  cases found₀ : r.find? id with
  | none => simp [found₀] at outstanding
  | some w₀ => exact ⟨w₀, rfl, by simpa [found₀] using outstanding.symm⟩

/-- The roster is empty if it was. -/
theorem isEmpty (same : SameHoldings r r') : r'.workers.isEmpty = r.workers.isEmpty := by
  have lengths : r'.workers.length = r.workers.length := by
    simpa [Roster.holdings] using congrArg List.length same.holdings
  rw [Bool.eq_iff_iff, List.isEmpty_iff_length_eq_zero, List.isEmpty_iff_length_eq_zero, lengths]

end SameHoldings

/-- A worker that is woken holds what it held. -/
theorem sameHoldings_activate (r : Roster) (id : WorkerId) :
    SameHoldings r (r.modify id fun w => { w with activated := true }) := by
  refine ⟨rfl, ?_⟩
  unfold holdings modify
  rw [List.map_map]
  apply List.map_congr_left
  intro entry _
  simp only [Function.comp_apply]
  split
  · next same => rw [same]
  · rfl

end Roster

/-- An action that neither grants trials nor closes a connection. -/
def Action.IsAnnouncement : Action → Prop
  | .toWorker _ .activate | .toWorker _ .terminate | .toManager _ => True
  | _ => False

namespace ServerState

/-- The later state differs from the earlier one by announcements only. When workers are told to
stop, all that are on the roster are told. -/
structure Announces (s s' : ServerState) : Prop where
  scheduler : s'.scheduler = s.scheduler
  roster : s.roster.SameHoldings s'.roster
  solutionFound : s'.solutionFound = s.solutionFound
  terminateRequested : s'.terminateRequested = s.terminateRequested
  waitForMoreFiles : s'.waitForMoreFiles = s.waitForMoreFiles
  workersTerminated : s.workersTerminated = true → s'.workersTerminated = true
  outbound : ∃ extra, s'.outbound = s.outbound ++ extra ∧
    (∀ action ∈ extra, action.IsAnnouncement) ∧
    (s'.workersTerminated = true → s.workersTerminated = true ∨
      ∀ id ∈ s.roster.ids, .toWorker id .terminate ∈ extra)

variable {s s' s'' : ServerState}

namespace Announces

theorem refl (s : ServerState) : s.Announces s where
  scheduler := rfl
  roster := Roster.SameHoldings.refl _
  solutionFound := rfl
  terminateRequested := rfl
  waitForMoreFiles := rfl
  workersTerminated := id
  outbound := ⟨[], by simp, by simp, Or.inl⟩

/-- Announcements compose. -/
theorem trans (first : s.Announces s') (second : s'.Announces s'') : s.Announces s'' where
  scheduler := second.scheduler.trans first.scheduler
  roster := first.roster.trans second.roster
  solutionFound := second.solutionFound.trans first.solutionFound
  terminateRequested := second.terminateRequested.trans first.terminateRequested
  waitForMoreFiles := second.waitForMoreFiles.trans first.waitForMoreFiles
  workersTerminated told := second.workersTerminated (first.workersTerminated told)
  outbound := by
    obtain ⟨extra, out, plain, told⟩ := first.outbound
    obtain ⟨extra', out', plain', told'⟩ := second.outbound
    refine ⟨extra ++ extra', by rw [out', out, List.append_assoc], ?_, ?_⟩
    · intro action member
      rcases List.mem_append.mp member with member | member
      · exact plain action member
      · exact plain' action member
    · -- Told for the first time in either part, or in neither.
      intro now
      rcases told' now with before | here
      · rcases told before with before | here
        · exact Or.inl before
        · exact Or.inr fun id member => List.mem_append_left _ (here id member)
      · refine Or.inr fun id member => List.mem_append_right _ (here id ?_)
        rwa [first.roster.ids]

end Announces

/-- Waking a worker is an announcement. -/
theorem announces_activate (s : ServerState) (id : WorkerId) : s.Announces (s.activate id) := by
  unfold activate
  split
  · exact
      { scheduler := rfl
        roster := Roster.sameHoldings_activate s.roster id
        solutionFound := rfl
        terminateRequested := rfl
        waitForMoreFiles := rfl
        workersTerminated := fun told => told
        outbound := ⟨[.toWorker id .activate], rfl, by simp [Action.IsAnnouncement], Or.inl⟩ }
  · exact Announces.refl s

/-- Waking idle workers is an announcement. -/
theorem announces_wakeIdle (s : ServerState) : s.Announces s.wakeIdle := by
  unfold wakeIdle
  split
  · exact Announces.refl s
  next awake =>
    -- The list of those to wake is made before the first of them is woken.
    clear awake
    generalize s.roster.inactive = idle
    induction idle generalizing s with
    | nil => exact Announces.refl s
    | cons id idle ih => exact (announces_activate s id).trans (ih (s.activate id))

/-- Telling all workers to stop is an announcement. -/
theorem announces_terminateWorkers (s : ServerState) : s.Announces s.terminateWorkers := by
  unfold terminateWorkers
  split
  · exact Announces.refl s
  · refine ⟨rfl, Roster.SameHoldings.refl _, rfl, rfl, rfl, fun _ => rfl, _, rfl, ?_, ?_⟩
    · intro action member
      obtain ⟨id, -, rfl⟩ := List.mem_map.mp member
      trivial
    · exact fun _ => Or.inr fun id member => List.mem_map.mpr ⟨id, member, rfl⟩

/-- Workers are told to stop, all of them or, if they were told before, none. -/
theorem terminateWorkers_eq (s : ServerState) :
    ∃ ids : List WorkerId, s.terminateWorkers =
      { s with
        workersTerminated := true
        outbound := s.outbound ++ ids.map fun id => .toWorker id .terminate } := by
  unfold terminateWorkers
  split
  · next told =>
    refine ⟨[], ?_⟩
    rw [List.map_nil, List.append_nil, ← told]
  · exact ⟨s.roster.ids, rfl⟩

/-- Sending the statistics only adds actions, and notes that they were sent. -/
theorem sendStatistics_eq (s : ServerState) :
    ∃ sent outbound, s.sendStatistics =
      { s with statisticsSent := sent, outbound := outbound } := by
  unfold sendStatistics
  split
  · exact ⟨_, _, rfl⟩
  · exact ⟨_, _, rfl⟩

/-- Sending the statistics is an announcement. -/
theorem announces_sendStatistics (s : ServerState) : s.Announces s.sendStatistics := by
  unfold sendStatistics
  split
  · exact Announces.refl s
  · refine ⟨rfl, Roster.SameHoldings.refl _, rfl, rfl, rfl, id, _, rfl, ?_, Or.inl⟩
    intro action member
    obtain ⟨entry, -, rfl⟩ := List.mem_map.mp member
    trivial

theorem announces_phase (s : ServerState) (phase : Phase) :
    s.Announces { s with phase := phase } :=
  ⟨rfl, Roster.SameHoldings.refl _, rfl, rfl, rfl, id, [], by simp, by simp, Or.inl⟩

/-- So is the end of the work, whether it is due or not, -/
theorem announces_drainIfDue (s : ServerState) : s.Announces s.drainIfDue := by
  unfold drainIfDue
  split
  · exact ((announces_sendStatistics s).trans (announces_terminateWorkers _)).trans
      (announces_phase _ _)
  · exact Announces.refl s

/-- the end of the run, -/
theorem announces_stopIfEmpty (s : ServerState) : s.Announces s.stopIfEmpty := by
  unfold stopIfEmpty
  split
  · exact announces_phase s _
  · exact Announces.refl s

/-- and all that is due after an event. -/
theorem announces_advance (s : ServerState) : s.Announces s.advance :=
  ((announces_wakeIdle s).trans (announces_drainIfDue _)).trans (announces_stopIfEmpty _)

end ServerState

end TrialFarm
