import TrialFarm.Proofs.Server.Balance
import TrialFarm.Server.Loop

/-!
# Events of a server

A server is driven by events. An event fails if it uncovers an inconsistency; that a file is
refused is no failure. An event that does not fail has one effect, and announcements follow.

## Main definitions

* `StateEvent`, `ServerState.apply`: what can happen to the state of a server, and its effect.
* `ServerState.Core`: the effect of an event without what follows.
* `ServerState.sequel`: what follows the effect of an event.

## Main statements

* `ServerState.apply_cases`: an event that does not fail has a core and a sequel, or no effect.
* `ServerState.apply_eq_ok`: after the core of an event come announcements only.
* `ServerState.sequel_induction`: what all parts of a sequel keep is kept.
* `ServerState.Core.balanced`: events keep the balance.
-/

namespace TrialFarm

/-- What can happen to the state of a server. -/
inductive StateEvent where
  /-- A worker connects. -/
  | joined
  /-- The manager submits a file. -/
  | submitted (file : TaskFile)
  /-- The manager asks for the end of the run, or goes away. -/
  | terminated
  /-- A message of a worker arrives. -/
  | said (id : WorkerId) (m : WorkerMessage)
  /-- The connection of a worker ends without a farewell. -/
  | lost (id : WorkerId)
  deriving Repr

/-- Whether the event is that a worker connects. -/
def StateEvent.isJoin : StateEvent → Bool
  | joined => true
  | _ => false

/-- The worker that the event is about. -/
def StateEvent.worker? : StateEvent → Option WorkerId
  | said id _ | lost id => some id
  | _ => none

namespace ServerState

/-- The effect of an event, and whether it failed. -/
def apply (s : ServerState) : StateEvent → ServerState × Except Error Unit
  | .joined => (s.workerJoined.2, .ok ())
  | .submitted file =>
    match s.addFile file with
    | .ok (_, s) => (s, .ok ())
    | .error e => (s, Server.tolerate e)
  | .terminated => (s.terminate, .ok ())
  | .said id m => s.handleWorker id m
  | .lost id => s.workerLost id

variable {s s' : ServerState} {e : StateEvent}

/-- What an event that does not fail does to the state, up to announcements. -/
inductive Core (s : ServerState) : StateEvent → ServerState → Prop
  | join : s.Core .joined s.greet
  | submit {file : TaskFile} {scheduler : Scheduler} {task : TaskId} (running : s.phase = .running)
      (added : s.scheduler.addFile file = .ok (task, scheduler)) :
      s.Core (.submitted file) { s with scheduler := scheduler }
  | refuse {file : TaskFile} : s.Core (.submitted file) s
  | terminate : s.Core .terminated { s with terminateRequested := true }
  | grant {id : WorkerId} {requested : UInt32} {s₁ : ServerState}
      (done : s.grant id requested = (s₁, .ok ())) :
      s.Core (.said id (.getInstances requested)) s₁
  | complete {id : WorkerId} {r : TrialRecord} {s₁ : ServerState}
      (done : s.complete id r = (s₁, .ok ())) : s.Core (.said id (.doneProcessing r)) s₁
  | solve {id : WorkerId} {solution : Solution} {w : Worker} (found : s.roster.find? id = some w) :
      s.Core (.said id (.foundSolution solution)) { s with solutionFound := true }
  | leave {id : WorkerId} {s₁ : ServerState} {w : Worker} (found : s.roster.find? id = some w)
      (removed : s.removeWorker id = (s₁, .ok ())) : s.Core (.said id .disconnect) s₁
  | lose {id : WorkerId} {s₁ : ServerState} {w : Worker} (found : s.roster.find? id = some w)
      (removed : s.removeWorker id = (s₁, .ok ())) : s.Core (.lost id) s₁
  | ignore {id : WorkerId} {m : WorkerMessage} (gone : s.roster.find? id = none) :
      s.Core (.said id m) s
  | miss {id : WorkerId} (gone : s.roster.find? id = none) : s.Core (.lost id) s

/-- A server moves on after something that did not fail. -/
theorem thenAdvance_eq_ok {r : ServerState × Except Error Unit}
    (done : thenAdvance r = (s', .ok ())) : ∃ s₁, r = (s₁, .ok ()) ∧ s' = s₁.advance := by
  obtain ⟨s₁, outcome⟩ := r
  cases outcome with
  | error e => simp [thenAdvance] at done
  | ok u =>
    simp only [thenAdvance, Prod.mk.injEq, and_true] at done
    exact ⟨s₁, rfl, done.symm⟩

/-- A file that is not entered is refused, which is no failure. -/
theorem apply_submitted (s : ServerState) (file : TaskFile) :
    ∃ s', s.apply (.submitted file) = (s', .ok ()) := by
  unfold apply addFile Scheduler.addFile
  dsimp only
  split
  · next added => exact ⟨_, rfl⟩
  · next e refused =>
    refine ⟨s, congrArg _ ?_⟩
    split at refused
    · obtain rfl := Except.error.inj refused
      rfl
    split at refused
    · next full =>
      obtain rfl := Except.error.inj refused
      split at full
      · obtain rfl := Except.error.inj full
        rfl
      split at full
      · obtain rfl := Except.error.inj full
        rfl
      · cases full
    · cases refused

/-- An event that changes nothing: a file that is refused, or news of a worker that has left. -/
inductive Passes (s : ServerState) : StateEvent → Prop
  | refused {file : TaskFile} {fault : Error} (refused : s.addFile file = .error fault) :
      s.Passes (.submitted file)
  | said {id : WorkerId} {m : WorkerMessage} (gone : s.roster.find? id = none) :
      s.Passes (.said id m)
  | lost {id : WorkerId} (gone : s.roster.find? id = none) : s.Passes (.lost id)

/-- An event that changes nothing has an effect like any other. -/
theorem Passes.core (passes : s.Passes e) : s.Core e s := by
  cases passes with
  | refused => exact .refuse
  | said gone => exact .ignore gone
  | lost gone => exact .miss gone

/-- What follows the effect of an event. A worker that joins and a file that comes in can make
nothing due, so only workers are woken. -/
def sequel (s : ServerState) : StateEvent → ServerState
  | .joined | .submitted _ => s.wakeIdle
  | .terminated => s.terminateWorkers.advance
  | .said _ (.foundSolution solution) => (s.passOn solution).advance
  | .said _ (.getInstances _) | .said _ (.doneProcessing _) | .said _ .disconnect => s.advance
  | .lost _ => s.advance

/-- An event that does not fail has its effect and what follows, or it changes nothing. -/
theorem apply_cases (done : s.apply e = (s', .ok ())) :
    (s.Passes e ∧ s' = s) ∨ ¬s.Passes e ∧ ∃ s₁, s.Core e s₁ ∧ s' = s₁.sequel e := by
  cases e with
  | joined =>
    simp only [apply, Prod.mk.injEq, and_true] at done
    exact Or.inr ⟨nofun, _, .join, by rw [← done, workerJoined_eq]; rfl⟩
  | submitted file =>
    unfold apply at done
    dsimp only at done
    split at done
    · next added =>
      simp only [Prod.mk.injEq, and_true] at done
      have heard : ¬s.Passes (.submitted file) := by
        rintro ⟨refused⟩
        rw [added] at refused
        cases refused
      obtain ⟨running, scheduler, entered, rfl⟩ := addFile_eq_ok added
      exact Or.inr ⟨heard, _, .submit running entered, done.symm⟩
    · next refused =>
      simp only [Prod.mk.injEq] at done
      exact Or.inl ⟨.refused refused, done.1.symm⟩
  | terminated =>
    simp only [apply, Prod.mk.injEq, and_true] at done
    exact Or.inr ⟨nofun, _, .terminate, done.symm⟩
  | said id m =>
    -- Messages of a worker that is off the roster are passed over.
    unfold apply handleWorker at done
    dsimp only at done
    split at done
    · next away =>
      simp only [Prod.mk.injEq, and_true] at done
      exact Or.inl ⟨.said (by simpa [Roster.contains] using away), done.symm⟩
    next there =>
    obtain ⟨w, found⟩ := Roster.contains_iff.mp (by simpa using there)
    have heard : ¬s.Passes (.said id m) := by
      rintro (_ | ⟨gone⟩ | _)
      rw [found] at gone
      cases gone
    refine Or.inr ⟨heard, ?_⟩
    cases m with
    | getInstances requested =>
      obtain ⟨s₁, granted, rfl⟩ := thenAdvance_eq_ok done
      exact ⟨_, .grant granted, rfl⟩
    | doneProcessing r =>
      obtain ⟨s₁, completed, rfl⟩ := thenAdvance_eq_ok done
      exact ⟨_, .complete completed, rfl⟩
    | foundSolution solution =>
      simp only [Prod.mk.injEq, and_true] at done
      exact ⟨_, .solve found, done.symm⟩
    | disconnect =>
      obtain ⟨s₁, removed, rfl⟩ := thenAdvance_eq_ok done
      exact ⟨_, .leave found removed, rfl⟩
  | lost id =>
    unfold apply workerLost at done
    dsimp only at done
    split at done
    · next there =>
      obtain ⟨w, found⟩ := Roster.contains_iff.mp there
      obtain ⟨s₁, removed, rfl⟩ := thenAdvance_eq_ok done
      have heard : ¬s.Passes (.lost id) := by
        rintro (_ | _ | ⟨gone⟩)
        rw [found] at gone
        cases gone
      exact Or.inr ⟨heard, _, .lose found removed, rfl⟩
    · next away =>
      simp only [Prod.mk.injEq, and_true] at done
      exact Or.inl ⟨.lost (by simpa [Roster.contains] using away), done.symm⟩

/-- What all parts of a sequel keep is kept by it. -/
theorem sequel_induction {motive : ServerState → Prop} {s : ServerState} {e : StateEvent}
    (start : motive s)
    (pass : ∀ id solution, e = .said id (.foundSolution solution) →
      motive (s.push [.toManager (.foundSolution solution)]))
    (wake : ∀ s, motive s → motive s.wakeIdle)
    (stop : ∀ s, motive s → motive s.terminateWorkers)
    (drain : ∀ s, motive s → motive s.drainIfDue)
    (leave : ∀ s, motive s → motive s.stopIfEmpty) : motive (s.sequel e) := by
  have moved (s : ServerState) (start : motive s) : motive s.advance :=
    leave _ (drain _ (wake _ start))
  cases e with
  | joined | submitted => exact wake s start
  | terminated => exact moved _ (stop s start)
  | lost => exact moved s start
  | said id m =>
    cases m with
    | getInstances | doneProcessing | disconnect => exact moved s start
    | foundSolution solution =>
      refine moved _ ?_
      have passed := pass id solution rfl
      unfold passOn
      dsimp only
      split
      · exact stop _ passed
      · exact passed

/-- All that follows an event are announcements. -/
theorem announces_sequel (s : ServerState) (e : StateEvent) : s.Announces (s.sequel e) := by
  cases e with
  | joined | submitted => exact announces_wakeIdle s
  | terminated => exact (announces_terminateWorkers s).trans (announces_advance _)
  | lost => exact announces_advance s
  | said id m =>
    cases m with
    | getInstances | doneProcessing | disconnect => exact announces_advance s
    | foundSolution solution => exact (announces_passOn s solution).trans (announces_advance _)

/-- An event that does not fail has its effect, and then only announcements follow. -/
theorem apply_eq_ok (done : s.apply e = (s', .ok ())) :
    ∃ s₁, s.Core e s₁ ∧ s₁.Announces s' := by
  rcases apply_cases done with ⟨passes, rfl⟩ | ⟨-, s₁, core, rfl⟩
  · exact ⟨s', passes.core, Announces.refl s'⟩
  · exact ⟨s₁, core, announces_sequel s₁ e⟩

/-- There is a number for a worker that joins. -/
def Room (s : ServerState) (e : StateEvent) : Prop :=
  e.isJoin = true → s.roster.nextId.toNat + 1 < 2 ^ 64

/-- Only a joining worker needs room. -/
theorem Room.of_stays (stays : e.isJoin = false) : s.Room e := fun joins => by
  rw [stays] at joins
  cases joins

/-- Every event that does not fail keeps the balance if it has room. -/
theorem Core.balanced (core : s.Core e s') (balanced : s.Balanced)
    (room : s.Room e) : s'.Balanced := by
  cases core with
  | join => exact balanced.greet (room rfl)
  | submit running added => exact balanced.addFile added
  | refuse => exact balanced
  | terminate => exact ⟨balanced.roster, balanced.scheduler, balanced.agree⟩
  | grant done => exact balanced.grant done
  | complete done => exact balanced.complete done
  | solve found => exact ⟨balanced.roster, balanced.scheduler, balanced.agree⟩
  | leave found removed | lose found removed =>
    obtain ⟨scheduler, removed', balanced', -⟩ := balanced.removeWorker found
    rw [removed] at removed'
    obtain rfl := (Prod.mk.inj removed').1
    exact ⟨balanced'.roster, balanced'.scheduler, balanced'.agree⟩
  | ignore gone | miss gone => exact balanced

/-! ### What events leave alone -/

/-- Only a worker that joins takes a number. -/
theorem Core.nextId (core : s.Core e s') (stays : e.isJoin = false) :
    s'.roster.nextId = s.roster.nextId := by
  cases core with
  | join => cases stays
  | grant done =>
    obtain ⟨w, w', -, -, rfl⟩ := grant_eq_ok done
    rfl
  | complete done =>
    obtain ⟨w, w', scheduler, -, -, -, rfl⟩ := complete_eq_ok done
    rfl
  | leave found removed | lose found removed =>
    obtain ⟨scheduler, -, rfl⟩ := removeWorker_eq_ok found removed
    rfl
  | submit | refuse | terminate | solve | ignore | miss => rfl

/-- A worker that joins takes the next number. -/
theorem Core.nextId_toNat (core : s.Core e s') (room : s.Room e) :
    s'.roster.nextId.toNat = s.roster.nextId.toNat + if e.isJoin then 1 else 0 := by
  cases joined : e.isJoin with
  | false => rw [core.nextId joined, if_neg Bool.false_ne_true, Nat.add_zero]
  | true =>
    cases core with
    | join => exact Roster.nextId_join_toNat (room joined)
    | submit | refuse | terminate | grant | complete | solve | leave | lose | ignore | miss =>
      cases joined

/-- Only announcements tell workers to stop. -/
theorem Core.workersTerminated (core : s.Core e s') :
    s'.workersTerminated = s.workersTerminated := by
  cases core with
  | grant done =>
    obtain ⟨w, w', -, -, rfl⟩ := grant_eq_ok done
    rfl
  | complete done =>
    obtain ⟨w, w', scheduler, -, -, -, rfl⟩ := complete_eq_ok done
    rfl
  | leave found removed | lose found removed =>
    obtain ⟨scheduler, -, rfl⟩ := removeWorker_eq_ok found removed
    rfl
  | join | submit | refuse | terminate | solve | ignore | miss => rfl

/-- An event changes what is known of the worker that it is about, and of no other one. -/
theorem Core.find?_other (core : s.Core e s') (stays : e.isJoin = false) {other : WorkerId}
    (apart : e.worker? ≠ some other) : s'.roster.find? other = s.roster.find? other := by
  have away (id : WorkerId) (about : e.worker? = some id) : ¬other = id := by
    rintro rfl
    exact apart about
  cases core with
  | join => cases stays
  | @grant id requested s₁ done =>
    obtain ⟨w, w', -, -, rfl⟩ := grant_eq_ok done
    show (s.roster.modify id _).find? other = _
    rw [Roster.find?_modify, if_neg (away id rfl)]
  | @complete id r s₁ done =>
    obtain ⟨w, w', scheduler, -, -, -, rfl⟩ := complete_eq_ok done
    show (s.roster.modify id _).find? other = _
    rw [Roster.find?_modify, if_neg (away id rfl)]
  | @leave id s₁ w found removed | @lose id s₁ w found removed =>
    obtain ⟨scheduler, -, rfl⟩ := removeWorker_eq_ok found removed
    show (s.roster.remove id).find? other = _
    rw [Roster.find?_remove, if_neg (away id rfl)]
  | submit | refuse | terminate | solve | ignore | miss => rfl

end ServerState

end TrialFarm
