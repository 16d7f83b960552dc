import TrialFarm.Proofs.Cluster.Agreement
import TrialFarm.Proofs.Server.Conservation

/-!
# Shutdown

Once a server has told its workers to stop, it cannot be kept waiting: when nothing moves any more,
all workers have left and the server has stopped.

## Main statements

* `Site.Still.not_enrolled`: a worker that was told to stop does not stand still on the roster.
* `shutdown_completes`: where nothing moves any more the server has stopped.
-/

namespace TrialFarm

namespace Site

variable {s : Site} {h : Holdings}

/-- What the coordinator does by itself does not change it when nothing moves any more. -/
theorem Still.proceed (still : s.Still) (unfinished : s.coordinator.stage.isFinished = false) :
    (Coordinator.proceed Outlet.sender s.coordinator ⟨s.toServer, []⟩).1 = s.coordinator := by
  have waits := congrArg coordinator still.waits
  unfold step act settle at waits
  rw [if_neg (by simp [unfinished])] at waits
  dsimp only at waits
  split at waits
  · exact waits
  · exact waits

/-- A worker that was told to stop does not stand still on the roster: each stage that it may be in
has a way out, or somebody still owes it an answer. -/
theorem Still.not_enrolled (still : s.Still) : ¬s.Enrolled true h := by
  intro enrolled
  obtain ⟨tied, present, told⟩ := enrolled
  obtain ⟨heard, open'⟩ := still.toServer
  obtain ⟨unheard, -⟩ := still.toWorker
  cases flow : s.toServer.flow with
  | shut => exact present flow
  | ending => exact open' flow
  | flowing =>
    -- While the coordinator waits for an answer, the request or the answer is on its way.
    have unasked : s.coordinator.stage.isAsked = false := by
      have turn := tied.turn flow
      rw [heard, unheard] at turn
      by_contra asked
      rw [if_pos (by simpa using asked)] at turn
      cases turn
    -- And a worker that knows that it has to stop works on only for that answer.
    have rests : s.coordinator.stage.isWorking = false := by
      rcases told rfl flow with waiting | stops | rests
      · rw [unheard] at waiting
        cases waiting
      · by_contra working
        have asked := tied.heeds stops (by simpa using working)
        rw [unasked] at asked
        cases asked
      · exact rests
    cases stage : s.coordinator.stage with
    | awaitActivation | collect | look | ask | awaitGrant | idle =>
      rw [stage] at rests
      cases rests
    | stopping cause =>
      have stays := congrArg Coordinator.stage (still.proceed (by rw [stage]; rfl))
      unfold Coordinator.proceed at stays
      rw [stage] at stays
      dsimp only at stays
      rw [if_pos (by rw [Pool.isQuiet, still.running]; rfl)] at stays
      cases cause with
      | none => cases stays
      | some e => cases stays
    | flush =>
      have stays := congrArg Coordinator.stage (still.proceed (by rw [stage]; rfl))
      unfold Coordinator.proceed Coordinator.takeLeave at stays
      rw [stage, still.results] at stays
      cases stays
    | farewell =>
      -- The goodbye is still on its way: the server would have struck the worker off.
      have said := tied.goodbye flow (by rw [stage]; rfl)
      rw [heard] at said
      cases said
    | finished result => exact tied.closed (by rw [stage]; rfl) flow

end Site

/-- In every state that a cluster can reach, if the server has told its workers to stop and nothing
moves any more, the server has stopped and no worker is on the roster. The run may be any in which
all workers together have fewer than 2^32 threads and all trials of one file find the same numbers
of variables and clauses. -/
theorem shutdown_completes (c : ServerConfig) (shape : String → UInt64 × UInt64)
    (events : List ClusterEvent) (conforms : ∀ e ∈ events, e.Conforms shape)
    (few : (events.map ClusterEvent.threads).sum < 2 ^ 32)
    (told : ((Cluster.start c).run events).server.workersTerminated = true)
    (still : ((Cluster.start c).run events).Still) :
    ((Cluster.start c).run events).server.phase = .stopped ∧
      ((Cluster.start c).run events).server.roster.workers = [] := by
  have sound := Cluster.sound_run c conforms few
  generalize (Cluster.start c).run events = k at *
  have gone : k.server.roster.workers = [] := by
    refine List.eq_nil_iff_forall_not_mem.mpr fun entry member => ?_
    have found := Roster.find?_of_mem sound.accord.balanced.roster member
    obtain ⟨s, here, number⟩ := sound.accord.site_of_find? found
    have enrolled := sound.accord.enrolled _ s entry.2 here (number.symm ▸ found)
    rw [told] at enrolled
    exact (still s (List.mem_of_getElem? here)).not_enrolled enrolled
  refine ⟨?_, gone⟩
  cases phase : k.server.phase with
  | stopped => rfl
  | draining => exact absurd gone (sound.prompt.manned phase)
  | running =>
    -- Nobody is left to hold anything, so the end of the run would be due.
    have none : k.server.scheduler.inFlight = 0 := by
      rw [sound.accord.balanced.inFlight_eq_zero_iff, gone]
      exact fun _ member => nomatch member
    have due := sound.prompt.due phase
    unfold ServerState.drainDue at due
    rw [none, if_neg (by decide)] at due
    simp only [Bool.or_eq_false_iff] at due
    rcases sound.prompt.reason phase told with requested | solved
    · rw [due.1.1] at requested
      cases requested
    · rw [due.1.2] at solved
      cases solved

/-- A worker asks for trials while the server tells it to stop. It is granted none and leaves. -/
def crossing : List ClusterEvent :=
  [.submits ⟨3, 10, "a.cnf"⟩, .joins ⟨2, 100, 0⟩, .site 0 (.receives none), .site 0 (.proceeds []),
    .site 0 .looks, .site 0 (.proceeds []), .terminates, .hears 0, .site 0 (.receives none),
    .site 0 (.receives none), .site 0 (.proceeds []), .site 0 (.proceeds []), .hears 0,
    .site 0 (.receives none), .hears 0]

/-- Then nothing moves any more, and the server has stopped. -/
theorem shutdown_completes_crossing :
    ((Cluster.start .standard).run crossing).server.workersTerminated = true ∧
      ((Cluster.start .standard).run crossing).Still ∧
      ((Cluster.start .standard).run crossing).server.phase = .stopped := by
  have told : ((Cluster.start .standard).run crossing).server.workersTerminated = true := rfl
  have still : ((Cluster.start .standard).run crossing).Still := by
    intro s member
    obtain rfl : s = _ := List.mem_singleton.mp member
    exact ⟨⟨rfl, Flow.noConfusion⟩, ⟨rfl, Flow.noConfusion⟩, rfl, rfl, rfl⟩
  have stopped := shutdown_completes .standard (fun _ => (5, 7)) crossing
    (by simp [crossing, ClusterEvent.Conforms, SiteEvent.Conforms]) (by decide) told still
  exact ⟨told, still, stopped.1⟩

end TrialFarm
