import TrialFarm.Proofs.Cluster.Moves

/-!
# What passes through a site

Jobs and reports at a site are of tasks that the server knows, and reports have the shape of the
task's file. And once a worker was told to stop, this is never forgotten.

## Main definitions

* `TrialRecord.Fair`: a report of one trial of a known task, of the right shape.
* `Site.Honest`: all that is at a site is of known tasks.
* `Site.Told`: the worker was told to stop, or soon learns it.

## Main statements

* `Site.Honest.move`, `Site.Told.move`: whatever happens at the site keeps both.
-/

namespace TrialFarm

/-- The report is of one trial of a known task and has the shape of its file. -/
def TrialRecord.Fair (file? : TaskId → Option TaskFile) (shape : String → UInt64 × UInt64)
    (r : TrialRecord) : Prop :=
  r.instancesProcessed = 1 ∧
    ∃ file, file? r.taskId = some file ∧ (r.numVars, r.numClauses) = shape file.filename

/-- The job is of a known task and has the path of its file. -/
def Job.Known (file? : TaskId → Option TaskFile) (job : Job) : Prop :=
  ∃ file, file? job.taskId = some file ∧ job.path = file.filename

/-- Whatever is at the site is of known tasks. -/
structure Site.Honest (file? : TaskId → Option TaskFile) (shape : String → UInt64 × UInt64)
    (s : Site) : Prop where
  reports : ∀ r, .doneProcessing r ∈ s.toServer.waiting → r.Fair file? shape
  results : ∀ done, .ok done ∈ s.coordinator.results → done.record.Fair file? shape
  pending : ∀ job ∈ s.coordinator.pool.pending, job.Known file?
  running : ∀ job ∈ s.coordinator.pool.running, job.Known file?
  batches : ∀ m ∈ s.toWorker.waiting, ∀ b ∈ m.batches, file? b.taskId = some b.file

/-- The worker was told to stop: the message is on its way, or was taken, or the worker stops
anyway. -/
def Site.Told (s : Site) : Prop :=
  .terminate ∈ s.toWorker.waiting ∨ s.coordinator.terminating = true ∨
    s.coordinator.stage.isWorking = false

namespace Site

variable {s s' : Site} {shape : String → UInt64 × UInt64} {file? file?' : TaskId → Option TaskFile}

/-- A worker that has just started is honest, having nothing. -/
theorem honest_fresh {settings : CoordinatorSettings} {c : Coordinator}
    (started : Coordinator.start settings = .ok c) : (fresh c).Honest file? shape := by
  unfold Coordinator.start at started
  split at started
  · simp at started
  · simp only [Except.ok.injEq] at started
    subst started
    exact ⟨by simp [fresh, Pipe.fresh], by simp [fresh], by simp [fresh, Pool.fresh],
      by simp [fresh, Pool.fresh], by simp [fresh, Pipe.fresh]⟩

/-- Tasks that are known stay known. -/
theorem Honest.mono (honest : s.Honest file? shape)
    (more : ∀ id file, file? id = some file → file?' id = some file) : s.Honest file?' shape where
  reports r member := by
    obtain ⟨one, file, known, same⟩ := honest.reports r member
    exact ⟨one, file, more _ _ known, same⟩
  results done member := by
    obtain ⟨one, file, known, same⟩ := honest.results done member
    exact ⟨one, file, more _ _ known, same⟩
  pending job member := by
    obtain ⟨file, known, same⟩ := honest.pending job member
    exact ⟨file, more _ _ known, same⟩
  running job member := by
    obtain ⟨file, known, same⟩ := honest.running job member
    exact ⟨file, more _ _ known, same⟩
  batches m member b inside := more _ _ (honest.batches m member b inside)

/-- An honest site stays honest when its worker obeys a message: the jobs are those of the batches.
-/
theorem Honest.obey (honest : s.Honest file? shape) {m : ServerMessage} {rest : Pipe ServerMessage}
    (came : s.toWorker.next = some (.message m, rest)) :
    Site.Honest file? shape { s with coordinator := s.coordinator.obey m, toWorker := rest } := by
  obtain ⟨waiting, -⟩ := Pipe.next_eq_message came
  obtain ⟨jobs, assigned, summary, obeyed, -, -, known⟩ := s.coordinator.obey_spec m
  have head : m ∈ s.toWorker.waiting := waiting ▸ List.mem_cons_self ..
  rw [obeyed]
  refine ⟨honest.reports, honest.results, fun job member => ?_, honest.running,
    fun m' later => honest.batches m' (waiting ▸ List.mem_cons_of_mem m later)⟩
  rcases List.mem_append.mp member with old | new
  · exact honest.pending job old
  · obtain ⟨b, inside, same, path⟩ := known job new
    exact ⟨b.file, same ▸ honest.batches m head b inside, path⟩

/-- Whatever happens at a site, all that is there stays of known tasks. -/
theorem Honest.move (honest : s.Honest file? shape) (move : s.Move shape s') :
    s'.Honest file? shape := by
  cases move with
  | rest => exact honest
  | @start pool started =>
    unfold Pool.start at started
    split at started
    · next free job pending _ waiting =>
      obtain rfl := Option.some.inj started
      -- The oldest pending job is the one that runs now.
      have first : job ∈ s.coordinator.pool.pending := waiting ▸ List.mem_cons_self ..
      refine ⟨honest.reports, honest.results, fun job' later => ?_, fun job' member => ?_,
        honest.batches⟩
      · exact honest.pending job' (waiting ▸ List.mem_cons_of_mem job later)
      · rcases List.mem_append.mp member with old | new
        · exact honest.running job' old
        · rw [List.mem_singleton.mp new]
          exact honest.pending job first
    · simp at started
  | @finish job outcome overall running conforms =>
    refine ⟨honest.reports, fun done member => ?_, honest.pending, fun job' member => ?_,
      honest.batches⟩
    · rcases List.mem_append.mp member with old | new
      · exact honest.results done old
      · cases outcome with
        | error e => simp [Job.complete] at new
        | ok o =>
          simp only [Job.complete, List.mem_singleton, Except.ok.injEq] at new
          rw [new]
          obtain ⟨file, known, path⟩ := honest.running job running
          exact ⟨rfl, file, known, path ▸ conforms o rfl⟩
    · exact honest.running job' (List.mem_of_mem_erase member)
  | die running =>
    exact ⟨honest.reports, honest.results, honest.pending,
      fun job member => honest.running job (List.mem_of_mem_erase member), honest.batches⟩
  | shift same =>
    exact ⟨honest.reports, honest.results, honest.pending, honest.running, honest.batches⟩
  | @give done rest stage summary first same =>
    refine ⟨fun r member => ?_, fun done' later => ?_, honest.pending, honest.running,
      honest.batches⟩
    · rcases Pipe.mem_putAll member with old | new
      · exact honest.reports r old
      · -- Of the messages about a finished trial, one is a report, and it holds the trial's record.
        have own : r = done.record := by
          unfold Completed.messages at new
          cases solution : done.solution with
          | none => simpa [solution] using new
          | some found => simpa [solution] using new
        rw [own]
        exact honest.results done (first ▸ List.mem_cons_self ..)
    · exact honest.results done' (first ▸ List.mem_cons_of_mem _ later)
  | ask asks =>
    refine ⟨fun r member => ?_, honest.results, honest.pending, honest.running, honest.batches⟩
    rcases Pipe.mem_put member with old | new
    · exact honest.reports r old
    · cases new
  | quit unasked left plain =>
    refine ⟨fun r member => ?_, fun done member => honest.results done (left.subset member),
      (fun job member => nomatch member), honest.running, honest.batches⟩
    rcases Pipe.mem_putAll member with old | new
    · exact honest.reports r old
    · cases (plain _ new).1
  | part last =>
    refine ⟨fun r member => ?_, honest.results, honest.pending, honest.running, honest.batches⟩
    rcases Pipe.mem_put member with old | new
    · exact honest.reports r old
    · cases new
  | leave left plain =>
    refine ⟨fun r member => ?_, fun done member => honest.results done (left.subset member),
      honest.pending, honest.running, fun m member => nomatch member⟩
    rw [Pipe.waiting_finish] at member
    rcases Pipe.mem_putAll member with old | new
    · exact honest.reports r old
    · cases (plain _ new).1
  | heed came working goes asked heeds =>
    have obeyed := honest.obey came
    exact ⟨obeyed.reports, obeyed.results, obeyed.pending, obeyed.running, obeyed.batches⟩
  | halt came answered =>
    have obeyed := honest.obey came
    exact ⟨obeyed.reports, obeyed.results, (fun job member => nomatch member), obeyed.running,
      obeyed.batches⟩
  | ignore came parted =>
    obtain ⟨waiting, -⟩ := Pipe.next_eq_message came
    exact ⟨honest.reports, honest.results, honest.pending, honest.running,
      fun m later => honest.batches m (waiting ▸ List.mem_cons_of_mem _ later)⟩
  | strand came =>
    obtain ⟨-, -, rfl⟩ := Pipe.next_eq_close came
    exact ⟨honest.reports, honest.results, (fun job member => nomatch member), honest.running,
      fun m member => nomatch member⟩

/-- Once told, a worker stays told. -/
theorem Told.move (told : s.Told) (move : s.Move shape s') : s'.Told := by
  cases move with
  | rest | start | finish | die => exact told
  | shift same | give _ same =>
    rcases told with waiting | stops | rests
    · exact Or.inl waiting
    · exact Or.inr (Or.inl stops)
    · exact Or.inr (Or.inr (same.working.trans rests))
  | ask asks =>
    -- Also a worker that was told to stop may still ask: the answer makes it stop.
    rcases told with waiting | stops | rests
    · exact Or.inl waiting
    · exact Or.inr (Or.inl stops)
    · rw [asks] at rests
      cases rests
  | quit | part | leave | halt | strand => exact Or.inr (Or.inr rfl)
  | @heed m rest stage backingOff came working =>
    obtain ⟨waiting, -⟩ := Pipe.next_eq_message came
    obtain ⟨jobs, assigned, summary, obeyed, -⟩ := s.coordinator.obey_spec m
    have stops (reason : s.coordinator.terminating = true ∨ m = .terminate) :
        (s.coordinator.obey m).terminating = true := by
      rw [obeyed]
      rcases reason with before | rfl
      · simp [before]
      · simp [ServerMessage.isTerminate]
    rcases told with inside | before | rests
    · rw [waiting] at inside
      rcases List.mem_cons.mp inside with now | later
      · exact Or.inr (Or.inl (stops (Or.inr now.symm)))
      · exact Or.inl later
    · exact Or.inr (Or.inl (stops (Or.inl before)))
    · rw [working] at rests
      cases rests
  | ignore came parted =>
    refine Or.inr (Or.inr ?_)
    cases stage : s.coordinator.stage with
    | farewell => rfl
    | _ => rw [stage] at parted; cases parted

end Site

end TrialFarm
