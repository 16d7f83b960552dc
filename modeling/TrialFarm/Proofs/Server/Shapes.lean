import TrialFarm.Proofs.Server.Events

/-!
# Files and shapes

A task keeps its file for ever. If all reports on a task have the shape that belongs to its file, so
has what the server remembers, and no report is refused for its shape.

## Main definitions

* `Scheduler.file?`: the file of a task.
* `Scheduler.Shaped`: what is remembered of tasks has the shape of their files.

## Main statements

* `ServerState.Core.file?`, `ServerState.Core.shaped`: events keep files and shapes.
-/

namespace TrialFarm

namespace Scheduler

/-- The file of a task. -/
def file? (s : Scheduler) (id : TaskId) : Option TaskFile := (s.task? id).map Task.file

/-- The numbers of variables and clauses that are remembered are those of the file. -/
def Shaped (shape : String → UInt64 × UInt64) (s : Scheduler) : Prop :=
  ∀ id t, s.task? id = some t → t.shapeKnown = true →
    (t.statistics.numVars, t.statistics.numClauses) = shape t.file.filename

variable {s s' : Scheduler} {id : TaskId} {t u : Task} {k : UInt64} {r : TrialRecord}
  {count requested : UInt32} {bs : List Batch} {shape : String → UInt64 × UInt64}

/-- A task knows its file. -/
theorem file?_of_task? (found : s.task? id = some t) : s.file? id = some t.file := by
  rw [file?, found]
  rfl

theorem task?_of_file? {file : TaskFile} (known : s.file? id = some file) :
    ∃ t, s.task? id = some t ∧ t.file = file := Option.map_eq_some_iff.mp known

/-- To update a task leaves its file alone, -/
theorem file?_putBack (found : s.task? id = some t) (file : u.file = t.file) :
    (s.putBack id u k).file? = s.file? := by
  funext other
  unfold file?
  rw [putBack_task? found]
  split
  · next same =>
    rw [same, found]
    exact congrArg some file
  · rfl

/-- and so does a report, -/
theorem file?_complete (done : s.complete r = .ok s') : s'.file? = s.file? := by
  obtain ⟨t, found, -, -, -, rfl⟩ := complete_eq_ok_iff.mp done
  exact file?_putBack found rfl

/-- the return of trials, -/
theorem file?_release (done : s.release id count = .ok s') : s'.file? = s.file? := by
  obtain ⟨t, found, -, -, rfl⟩ := release_eq_ok_iff.mp done
  exact file?_putBack found rfl

/-- and a grant. -/
theorem Granted.file? (g : s.Granted s' requested bs) : s'.file? = s.file? := by
  funext id
  cases found : s.task? id with
  | none =>
    have missing : s'.task? id = none := by
      rw [task?, Array.getElem?_eq_none_iff, g.size]
      exact Array.getElem?_eq_none_iff.mp found
    rw [Scheduler.file?, Scheduler.file?, found, missing]
  | some t =>
    obtain ⟨scheduled, later⟩ := g.tasks id t found
    rw [file?_of_task? found, file?_of_task? later]

/-- A new task takes the place of no other. -/
theorem file?_addFile {file : TaskFile} {new : TaskId} (added : s.addFile file = .ok (new, s'))
    {old : TaskFile} (known : s.file? id = some old) : s'.file? id = some old := by
  obtain ⟨-, -, -, rfl⟩ := addFile_eq_ok added
  obtain ⟨t, found, rfl⟩ := task?_of_file? known
  obtain ⟨inside, -⟩ := Array.getElem?_eq_some_iff.mp found
  refine file?_of_task? ?_
  show (s.tasks.push (Task.ofFile file))[id.toNat]? = some t
  rw [Array.getElem?_push, if_neg (Nat.ne_of_lt inside)]
  exact found

/-- A task may be updated if its new shape is that of its file. -/
theorem Shaped.putBack (shaped : s.Shaped shape) (found : s.task? id = some t)
    (own : u.shapeKnown = true →
      (u.statistics.numVars, u.statistics.numClauses) = shape u.file.filename) :
    (s.putBack id u k).Shaped shape := by
  intro other v here
  rw [putBack_task? found] at here
  split at here
  · obtain rfl := Option.some.inj here
    exact own
  · exact shaped other v here

/-- A report of the right shape may fix the shape of its task. -/
theorem Shaped.complete (shaped : s.Shaped shape)
    (fair : ∀ file, s.file? r.taskId = some file →
      (r.numVars, r.numClauses) = shape file.filename)
    (done : s.complete r = .ok s') : s'.Shaped shape := by
  obtain ⟨t, found, -, -, -, rfl⟩ := complete_eq_ok_iff.mp done
  refine shaped.putBack found ?_
  change (t.shapeKnown || decide (0 < r.flips)) = true →
    (if (decide (0 < r.flips) && !t.shapeKnown) = true then r.numVars else t.statistics.numVars,
      if (decide (0 < r.flips) && !t.shapeKnown) = true then r.numClauses
      else t.statistics.numClauses) = shape t.file.filename
  intro known
  -- Either the shape was fixed before, or this report fixes it.
  cases before : t.shapeKnown with
  | true => simpa using shaped _ t found before
  | false =>
    have flips : decide (0 < r.flips) = true := by simpa [before] using known
    simpa [flips] using fair t.file (file?_of_task? found)

/-- Trials that are taken back tell nothing about the shape, -/
theorem Shaped.release (shaped : s.Shaped shape) (done : s.release id count = .ok s') :
    s'.Shaped shape := by
  obtain ⟨t, found, -, -, rfl⟩ := release_eq_ok_iff.mp done
  exact shaped.putBack found (shaped id t found)

/-- nor does a grant, -/
theorem Shaped.grant (shaped : s.Shaped shape) (g : s.Granted s' requested bs) :
    s'.Shaped shape := by
  intro id t found known
  obtain ⟨t₀, before, file, -, statistics, same⟩ := g.origin found
  rw [statistics, file]
  exact shaped id t₀ before (same ▸ known)

/-- nor a new file. -/
theorem Shaped.addFile (shaped : s.Shaped shape) {file : TaskFile} {new : TaskId}
    (added : s.addFile file = .ok (new, s')) : s'.Shaped shape := by
  obtain ⟨-, -, -, rfl⟩ := addFile_eq_ok added
  intro id t found known
  change (s.tasks.push (Task.ofFile file))[id.toNat]? = some t at found
  rw [Array.getElem?_push] at found
  split at found
  · obtain rfl := Option.some.inj found
    cases known
  · exact shaped id t found known

/-- A report of the right shape is not refused for its shape. -/
theorem Shaped.clashes (shaped : s.Shaped shape) (found : s.task? r.taskId = some t)
    (fair : (r.numVars, r.numClauses) = shape t.file.filename) : t.clashes r = false := by
  unfold Task.clashes
  cases known : t.shapeKnown with
  | false => simp
  | true =>
    have same := (shaped _ t found known).trans fair.symm
    rw [Prod.mk.injEq] at same
    simp [same.1, same.2]

end Scheduler

namespace ServerState

open Scheduler

variable {s s₁ : ServerState} {e : StateEvent} {shape : String → UInt64 × UInt64}

theorem file?_releaseAll (s : Scheduler) (h : Holdings) : (releaseAll s h).1.file? = s.file? :=
  releaseAll_induction (motive := fun s' => s'.file? = s.file?)
    (fun _ _ _ _ same done => (file?_release done).trans same) h s rfl

theorem shaped_releaseAll {s : Scheduler} (shaped : s.Shaped shape) (h : Holdings) :
    (releaseAll s h).1.Shaped shape :=
  releaseAll_induction (motive := fun s' => s'.Shaped shape)
    (fun _ _ _ _ shaped done => shaped.release done) h s shaped

/-- A task keeps its file. -/
theorem Core.file? (core : s.Core e s₁) {id : TaskId} {file : TaskFile}
    (known : s.scheduler.file? id = some file) : s₁.scheduler.file? id = some file := by
  cases core with
  | submit running added => exact file?_addFile added known
  | grant done =>
    rw [← known]
    exact congrFun (granted_of_grant done).file? _
  | complete done =>
    obtain ⟨w, w', scheduler, -, -, completed, rfl⟩ := complete_eq_ok done
    rw [← known]
    exact congrFun (file?_complete completed) _
  | @leave id s₁ w found removed | @lose id s₁ w found removed =>
    obtain ⟨scheduler, released, rfl⟩ := removeWorker_eq_ok found removed
    have same := file?_releaseAll s.scheduler w.outstanding
    rw [released] at same
    rw [← known]
    exact congrFun same _
  | join | refuse | terminate | solve | ignore | miss => exact known

/-- Reports of the right shapes keep what is remembered in shape. -/
theorem Core.shaped (core : s.Core e s₁) (shaped : s.scheduler.Shaped shape)
    (fair : ∀ id r, e = .said id (.doneProcessing r) → ∀ file,
      s.scheduler.file? r.taskId = some file → (r.numVars, r.numClauses) = shape file.filename) :
    s₁.scheduler.Shaped shape := by
  cases core with
  | submit running added => exact shaped.addFile added
  | grant done => exact shaped.grant (granted_of_grant done)
  | complete done =>
    obtain ⟨w, w', scheduler, -, -, completed, rfl⟩ := complete_eq_ok done
    exact shaped.complete (fair _ _ rfl) completed
  | @leave id s₁ w found removed | @lose id s₁ w found removed =>
    obtain ⟨scheduler, released, rfl⟩ := removeWorker_eq_ok found removed
    have left := shaped_releaseAll shaped w.outstanding
    rw [released] at left
    exact left
  | join | refuse | terminate | solve | ignore | miss => exact shaped

end ServerState

end TrialFarm
