import TrialFarm.Proofs.Cluster.Honesty
import TrialFarm.Proofs.Cluster.Ties

/-!
# Workers on the roster

What holds of the site of a worker as long as the worker is on the roster. Neither what the worker
does nor the loss of its connection changes that.

## Main definitions

* `Site.Enrolled`: what holds of the site of a worker on the roster.

## Main statements

* `Site.Enrolled.move`, `Site.Enrolled.cut`, `Site.Enrolled.kill`: whatever happens at the site
  keeps it.
-/

namespace TrialFarm

/-- The threads of the worker. -/
def Site.threads (s : Site) : Nat := s.coordinator.settings.threads

/-- The threads of all workers. -/
def Site.allThreads (sites : List Site) : Nat := (sites.map threads).sum

/-- What holds of the site of a worker on the roster. -/
structure Site.Enrolled (s : Site) (terminated : Bool) (h : Holdings) : Prop where
  tied : s.Tied h
  /-- The server has not seen the end of the connection. -/
  present : s.toServer.flow ≠ .shut
  /-- When all workers were told to stop, so was this one. -/
  told : terminated = true → s.toServer.flow = .flowing → s.Told

namespace Site

variable {s s' : Site} {h : Holdings} {terminated : Bool} {shape : String → UInt64 × UInt64}
  {file? : TaskId → Option TaskFile}

/-- The threads of all workers stay the same if each worker keeps its own. -/
theorem allThreads_congr {sites sites' : List Site} (length : sites'.length = sites.length)
    (each : ∀ (i : Nat) s', sites'[i]? = some s' →
      ∃ s, sites[i]? = some s ∧ s'.threads = s.threads) :
    allThreads sites' = allThreads sites := by
  refine congrArg List.sum (List.ext_getElem (by simp [length]) fun i before _ => ?_)
  rw [List.length_map] at before
  obtain ⟨s, here, same⟩ := each i _ (List.getElem?_eq_getElem before)
  rw [List.getElem_map, List.getElem_map, same, (List.getElem?_eq_some_iff.mp here).2]

/-- A worker that has just joined has a thread. -/
theorem threads_fresh {settings : CoordinatorSettings} {c : Coordinator}
    (started : Coordinator.start settings = .ok c) :
    (fresh c).threads = settings.threads ∧ 1 ≤ settings.threads := by
  unfold Coordinator.start at started
  split at started
  · simp at started
  · next some =>
    simp only [Except.ok.injEq] at started
    subst started
    exact ⟨rfl, Nat.one_le_iff_ne_zero.mpr some⟩

/-! ### Moves -/

/-- No move changes the settings of the coordinator. -/
theorem Move.settings (move : s.Move shape s') :
    s'.coordinator.settings = s.coordinator.settings := by
  cases move with
  | @heed m rest stage backingOff | @halt m rest backingOff =>
    obtain ⟨jobs, assigned, summary, obeyed, -⟩ := s.coordinator.obey_spec m
    show (s.coordinator.obey m).settings = s.coordinator.settings
    rw [obeyed]
  | _ => rfl

theorem Move.threads (move : s.Move shape s') : s'.threads = s.threads :=
  congrArg CoordinatorSettings.threads move.settings

/-- A worker may close its end of the connection, and never opens it again. -/
theorem Move.flow (move : s.Move shape s') :
    s'.toServer.flow = s.toServer.flow ∨ s'.toServer.flow = .ending := by
  cases move with
  | @leave results assigned result summary ms left plain =>
    rw [← s.toServer.flow_putAll ms]
    exact Pipe.flow_finish_cases _
  | give | quit => exact Or.inl (Pipe.flow_putAll _ _)
  | ask | part => exact Or.inl Pipe.flow_put
  | _ => exact Or.inl rfl

/-- The server sees nothing of what happens at the site before it takes it out of the pipe. -/
private theorem Enrolled.later (enrolled : s.Enrolled terminated h) (tied : s'.Tied h)
    (flow : s'.toServer.flow = s.toServer.flow ∨ s'.toServer.flow = .ending)
    (told : s'.toServer.flow = .flowing → s.Told → s'.Told) : s'.Enrolled terminated h := by
  refine ⟨tied, ?_, fun all flowing => ?_⟩
  · rcases flow with same | ends
    · rw [same]
      exact enrolled.present
    · rw [ends]
      exact Flow.noConfusion
  · rcases flow with same | ends
    · exact told flowing (enrolled.told all (same ▸ flowing))
    · rw [ends] at flowing
      cases flowing

/-- The site of a worker on the roster remains one whatever move it makes. -/
theorem Enrolled.move (enrolled : s.Enrolled terminated h) (move : s.Move shape s') :
    s'.Enrolled terminated h :=
  enrolled.later (enrolled.tied.move move) move.flow fun _ told => told.move move

/-! ### Broken connections -/

theorem grantedOf_take_le (ms : List ServerMessage) (n : Nat) (task : TaskId) :
    grantedOf (ms.take n) task ≤ grantedOf ms task :=
  ((ms.take_sublist n).map _).sum_le_sum fun _ _ => Nat.zero_le _

/-- What is lost with a connection is owed no more. -/
theorem Tied.cut (tied : s.Tied h) (fromWorker fromServer : Nat) :
    (s.cut fromWorker fromServer).Tied h := by
  have ended := s.toServer.flow_cut fromWorker
  refine ⟨fun task => ?_, tied.fits, tied.affords.take fromWorker, fun flowing => ?_,
    fun flowing => ?_, fun flowing => ?_, tied.heeds, fun flowing => ?_, fun _ => ended⟩
  · have owes := tied.owes task
    have reported := ((s.toServer.waiting.take_sublist fromWorker).countP_le
      (p := WorkerMessage.reportsOn task))
    have granted := grantedOf_take_le s.toWorker.waiting fromServer task
    unfold Site.owed at *
    show (s.toServer.waiting.take fromWorker).countP _ + s.coordinator.jobs task +
      grantedOf (s.toWorker.waiting.take fromServer) task ≤ _
    omega
  all_goals exact absurd flowing ended

/-- All that a killed worker had in its hands is lost. -/
theorem Tied.kill (tied : s.Tied h) (fromWorker : Nat) : (s.kill fromWorker).Tied h := by
  refine tied.leave rfl (fun task => Nat.zero_le _) (fun task => ?_)
    (tied.affords.take fromWorker) (s.toServer.flow_cut fromWorker) rfl
  exact (s.toServer.waiting.take_sublist fromWorker).countP_le

/-- A site stays honest when its connection breaks. -/
theorem Honest.cut (honest : s.Honest file? shape) (fromWorker fromServer : Nat) :
    (s.cut fromWorker fromServer).Honest file? shape where
  reports r member := honest.reports r (List.mem_of_mem_take member)
  results := honest.results
  pending := honest.pending
  running := honest.running
  batches m member := honest.batches m (List.mem_of_mem_take member)

theorem Honest.kill (honest : s.Honest file? shape) (fromWorker : Nat) :
    (s.kill fromWorker).Honest file? shape where
  reports r member := honest.reports r (List.mem_of_mem_take member)
  results _ member := nomatch member
  pending _ member := nomatch member
  running _ member := nomatch member
  batches _ member := nomatch member

/-- A worker whose connection breaks is enrolled until the server sees it. -/
theorem Enrolled.cut (enrolled : s.Enrolled terminated h) (fromWorker fromServer : Nat) :
    (s.cut fromWorker fromServer).Enrolled terminated h :=
  enrolled.later (enrolled.tied.cut fromWorker fromServer) (s.toServer.flow_cut_cases fromWorker)
    fun flowing => absurd flowing (s.toServer.flow_cut fromWorker)

theorem Enrolled.kill (enrolled : s.Enrolled terminated h) (fromWorker : Nat) :
    (s.kill fromWorker).Enrolled terminated h :=
  enrolled.later (enrolled.tied.kill fromWorker) (s.toServer.flow_cut_cases fromWorker)
    fun flowing => absurd flowing (s.toServer.flow_cut fromWorker)

end Site

end TrialFarm
