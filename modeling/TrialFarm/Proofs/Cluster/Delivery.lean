import TrialFarm.Proofs.Cluster.Honesty
import TrialFarm.Proofs.Cluster.Ties
import TrialFarm.Proofs.Server.Announcements

/-!
# What reaches a site

The actions of the server that concern a worker end up in its pipe. Announcements change nothing
between the worker and the server; a grant is owed by the worker as soon as it is on its way.

## Main definitions

* `messagesTo`: the messages to a worker among actions.

## Main statements

* `Site.carry_announcements`: announcements are put into the pipe.
* `Site.Tied.announced`, `Site.Tied.granted`: what they do to the agreement.
-/

namespace TrialFarm

/-- The messages to a worker among actions, in order. -/
def messagesTo (id : WorkerId) : List Action → List ServerMessage
  | [] => []
  | .toWorker other m :: rest => if other = id then m :: messagesTo id rest else messagesTo id rest
  | .toManager _ :: rest => messagesTo id rest
  | .closeWorker _ :: rest => messagesTo id rest

theorem mem_messagesTo {id : WorkerId} {m : ServerMessage} {actions : List Action} :
    m ∈ messagesTo id actions ↔ .toWorker id m ∈ actions := by
  induction actions with
  | nil => exact iff_of_false List.not_mem_nil List.not_mem_nil
  | cons action rest ih =>
    cases action with
    | toWorker other m' =>
      rw [messagesTo, List.mem_cons]
      split
      · next same => rw [List.mem_cons, ih, same, Action.toWorker.injEq, eq_self, true_and]
      · next apart =>
        rw [ih, Action.toWorker.injEq]
        constructor
        · exact Or.inr
        · rintro (⟨same, -⟩ | later)
          · exact absurd same.symm apart
          · exact later
    | toManager m' | closeWorker other =>
      rw [messagesTo, List.mem_cons, ih]
      simp

/-- Different places have different numbers. -/
theorem number_ne {i j : Nat} (i_lt : i < 2 ^ 64) (j_lt : j < 2 ^ 64) (apart : i ≠ j) :
    UInt64.ofNat j ≠ UInt64.ofNat i := by
  intro equal
  have := congrArg UInt64.toNat equal
  rw [UInt64.toNat_ofNat_of_lt' i_lt, UInt64.toNat_ofNat_of_lt' j_lt] at this
  exact apart this.symm

namespace Site

theorem carryAll_nil (sites : List Site) : carryAll [] sites = sites := by
  refine List.ext_getElem? fun j => ?_
  rw [carryAll, List.getElem?_mapIdx]
  cases sites[j]? with
  | none => rfl
  | some s => rfl

theorem carryAll_append (first second : List Action) (sites : List Site) :
    carryAll (first ++ second) sites = carryAll second (carryAll first sites) := by
  refine List.ext_getElem? fun j => ?_
  simp only [carryAll, List.getElem?_mapIdx, Option.map_map, List.foldl_append]
  rfl

/-- An action that concerns one worker only changes its site. -/
theorem carryAll_one {sites : List Site} (few : sites.length ≤ 2 ^ 64) {i : Nat} {s : Site}
    (here : sites[i]? = some s) {a : Action}
    (own : ∀ id, id ≠ UInt64.ofNat i → ∀ s, carry id s a = s) :
    carryAll [a] sites = sites.set i (carry (UInt64.ofNat i) s a) := by
  have inside := (List.getElem?_eq_some_iff.mp here).1
  refine List.ext_getElem? fun j => ?_
  rw [carryAll, List.getElem?_mapIdx]
  by_cases same : i = j
  · subst same
    rw [here, List.getElem?_set_self inside]
    rfl
  · rw [List.getElem?_set_ne same]
    cases there : sites[j]? with
    | none => rfl
    | some t =>
      have before := (List.getElem?_eq_some_iff.mp there).1
      show some (carry (UInt64.ofNat j) t a) = some t
      rw [own _ (number_ne (by omega) (by omega) same)]

variable {s : Site} {h : Holdings} {id : WorkerId} {extra : List Action}
  {shape : String → UInt64 × UInt64} {file? : TaskId → Option TaskFile} {ms : List ServerMessage}

/-- Announcements to the worker are put into its pipe, and nothing else happens. -/
theorem carry_announcements (plain : ∀ action ∈ extra, action.IsAnnouncement) (s : Site) :
    extra.foldl (carry id) s = { s with toWorker := s.toWorker.putAll (messagesTo id extra) } := by
  induction extra generalizing s with
  | nil => rfl
  | cons action rest ih =>
    rw [List.foldl_cons, ih fun other member => plain other (List.mem_cons_of_mem action member)]
    cases action with
    | toWorker other m =>
      rw [messagesTo, carry]
      by_cases same : other = id
      · rw [if_pos same, if_pos same]
        rfl
      · rw [if_neg same, if_neg same]
    | toManager m => rfl
    | closeWorker other => exact (plain _ (List.mem_cons_self ..)).elim

/-- Announcements grant no trials. -/
theorem announced_no_grant (plain : ∀ action ∈ extra, action.IsAnnouncement) :
    ∀ m ∈ messagesTo id extra, m.isGrant = false := by
  intro m member
  have := plain _ (mem_messagesTo.mp member)
  cases m with
  | sendInstances batches => exact this.elim
  | activate | terminate => rfl

theorem grants_of_no_grant (other : ∀ m ∈ ms, m.isGrant = false) : grants ms = 0 := by
  rw [grants, List.countP_eq_zero]
  intro m member
  simp [other m member]

theorem grantedOf_of_no_grant (other : ∀ m ∈ ms, m.isGrant = false) (task : TaskId) :
    grantedOf ms task = 0 := by
  refine List.sum_eq_zero fun n member => ?_
  obtain ⟨m, inside, rfl⟩ := List.mem_map.mp member
  rw [batches_of_not_grant (other m inside)]
  rfl

/-- Messages that grant nothing change nothing. -/
theorem Tied.announced (tied : s.Tied h) (other : ∀ m ∈ ms, m.isGrant = false) :
    Site.Tied { s with toWorker := s.toWorker.putAll ms } h := by
  by_cases flowing : s.toWorker.flow = .flowing
  · refine ⟨fun task => ?_, tied.fits, tied.affords, fun _ => ?_, fun here => ?_,
      fun here goes working => ?_, tied.heeds, tied.goodbye, tied.closed⟩
    · have owes := tied.owes task
      unfold Site.owed at *
      dsimp only
      rw [Pipe.waiting_putAll flowing, grantedOf_append, grantedOf_of_no_grant other]
      exact owes
    · exact (Pipe.flow_putAll _ _).trans flowing
    · dsimp only
      rw [Pipe.waiting_putAll flowing, grants_append, grants_of_no_grant other]
      exact tied.turn here
    · dsimp only
      rw [Pipe.waiting_putAll flowing, granted_append, granted_of_none (grants_of_no_grant other)]
      exact tied.covered here goes working
  · rw [Pipe.putAll_of_not_flowing flowing]
    exact tied

/-- A site stays honest when it is sent messages that grant nothing. -/
theorem Honest.announced (honest : s.Honest file? shape) (other : ∀ m ∈ ms, m.isGrant = false) :
    Site.Honest file? shape { s with toWorker := s.toWorker.putAll ms } where
  reports := honest.reports
  results := honest.results
  pending := honest.pending
  running := honest.running
  batches m member := by
    rcases Pipe.mem_putAll member with old | new
    · exact honest.batches m old
    · rw [batches_of_not_grant (other m new)]
      exact fun b inside => nomatch inside

/-- A site that was told to stop stays told when more is sent to it. -/
theorem Told.announced (told : s.Told) : Site.Told { s with toWorker := s.toWorker.putAll ms } :=
  told.imp_left Pipe.mem_putAll_of_mem

/-! ### Messages that the server takes -/

section Taken

variable {rest : Pipe WorkerMessage} {h' : Holdings}

/-- What is left of the goodbye when another message is taken. -/
private theorem goodbye_rest (tied : s.Tied h) {m : WorkerMessage}
    (came : s.toServer.next = some (.message m, rest)) (other : m ≠ .disconnect)
    (flowing : rest.flow = .flowing) (parted : s.coordinator.stage.isFarewell = true) :
    .disconnect ∈ rest.waiting := by
  obtain ⟨waiting, flow⟩ := Pipe.next_eq_message came
  have said := tied.goodbye (flow.symm.trans flowing) parted
  rw [waiting] at said
  rcases List.mem_cons.mp said with same | later
  · exact absurd same.symm other
  · exact later

/-- The roster holds a trial that is reported. -/
theorem Tied.report_held (tied : s.Tied h) {r : TrialRecord}
    (came : s.toServer.next = some (.message (.doneProcessing r), rest)) :
    1 ≤ h.held r.taskId := by
  have owes := tied.owes r.taskId
  unfold Site.owed at owes
  rw [(Pipe.next_eq_message came).1, List.countP_cons_of_pos (by simp [WorkerMessage.reportsOn])]
    at owes
  omega

/-- A report that is taken is struck out. -/
theorem Tied.reported (tied : s.Tied h) {r : TrialRecord}
    (came : s.toServer.next = some (.message (.doneProcessing r), rest))
    (held : ∀ task, h'.held task = h.held task - if task = r.taskId then 1 else 0)
    (load : h'.load + 1 = h.load) : Site.Tied { s with toServer := rest } h' := by
  obtain ⟨waiting, flow⟩ := Pipe.next_eq_message came
  refine ⟨fun task => ?_, ?_, ?_, fun flowing => ?_, fun flowing => ?_,
    fun flowing goes working => ?_, tied.heeds, fun flowing parted => ?_, fun finished => ?_⟩
  · have owes := tied.owes task
    have held := held task
    have reported : s.toServer.waiting.countP (WorkerMessage.reportsOn task) =
        rest.waiting.countP (WorkerMessage.reportsOn task) + if task = r.taskId then 1 else 0 := by
      rw [waiting, List.countP_cons]
      simp [WorkerMessage.reportsOn, eq_comm]
    unfold Site.owed at *
    dsimp only
    omega
  · have := tied.fits
    show h'.load ≤ s.coordinator.settings.threads
    omega
  · have afforded := tied.affords
    rw [waiting, ← load] at afforded
    exact affords_succ.mp afforded
  · exact tied.linked (flow.symm.trans flowing)
  · have turn := tied.turn (flow.symm.trans flowing)
    rw [waiting, requests_cons] at turn
    exact turn
  · -- One report less is on its way, and one trial less is held.
    have covered := tied.covered (flow.symm.trans flowing) goes working
    rw [waiting, reports, List.countP_cons_of_pos rfl] at covered
    show h'.load ≤ rest.waiting.countP WorkerMessage.isReport + s.coordinator.assigned +
      TrialFarm.granted s.toWorker.waiting
    omega
  · exact goodbye_rest tied came (by simp) flowing parted
  · show rest.flow ≠ .flowing
    rw [flow]
    exact tied.closed finished

/-- A message that neither reports nor asks is taken. -/
theorem Tied.heard (tied : s.Tied h) {solution : Solution}
    (came : s.toServer.next = some (.message (.foundSolution solution), rest)) :
    Site.Tied { s with toServer := rest } h := by
  obtain ⟨waiting, flow⟩ := Pipe.next_eq_message came
  refine ⟨fun task => ?_, tied.fits, ?_, fun flowing => ?_, fun flowing => ?_,
    fun flowing goes working => ?_, tied.heeds, fun flowing parted => ?_, fun finished => ?_⟩
  · have owes := tied.owes task
    unfold Site.owed at *
    rw [waiting, List.countP_cons_of_neg (by simp [WorkerMessage.reportsOn])] at owes
    exact owes
  · have afforded := tied.affords
    rw [waiting] at afforded
    exact afforded
  · exact tied.linked (flow.symm.trans flowing)
  · have turn := tied.turn (flow.symm.trans flowing)
    rw [waiting, requests_cons] at turn
    exact turn
  · have covered := tied.covered (flow.symm.trans flowing) goes working
    rw [waiting, reports, List.countP_cons_of_neg (by simp [WorkerMessage.isReport])] at covered
    exact covered
  · exact goodbye_rest tied came (by simp) flowing parted
  · show rest.flow ≠ .flowing
    rw [flow]
    exact tied.closed finished

/-- A request that is taken is answered, with no more than it asked for. -/
theorem Tied.granted (tied : s.Tied h) {requested : UInt32} {bs : List Batch}
    (came : s.toServer.next = some (.message (.getInstances requested), rest))
    (held : ∀ task, h'.held task = h.held task + trialsOf bs task)
    (load : h'.load = h.load + trials bs) (modest : trials bs ≤ requested.toNat) :
    Site.Tied
      { s with toServer := rest, toWorker := s.toWorker.put (.sendInstances bs) } h' := by
  obtain ⟨waiting, flow⟩ := Pipe.next_eq_message came
  have afforded := tied.affords
  rw [waiting] at afforded
  obtain ⟨room, silent⟩ := afforded
  refine ⟨fun task => ?_, ?_, affords_of_none silent, fun flowing => ?_, fun flowing => ?_,
    fun flowing goes working => ?_, tied.heeds, fun flowing parted => ?_, fun finished => ?_⟩
  · -- A pipe that does not flow any more loses the grant, which is owed even less then.
    have owes := tied.owes task
    have held := held task
    have more : grantedOf (s.toWorker.put (.sendInstances bs)).waiting task ≤
        grantedOf s.toWorker.waiting task + trialsOf bs task := by
      by_cases open' : s.toWorker.flow = .flowing
      · rw [Pipe.waiting_put open', grantedOf_append]
        exact Nat.le_refl _
      · rw [Pipe.put_of_not_flowing open']
        exact Nat.le_add_right _ _
    unfold Site.owed at *
    rw [waiting, List.countP_cons_of_neg (by simp [WorkerMessage.reportsOn])] at owes
    dsimp only
    omega
  · show h'.load ≤ s.coordinator.settings.threads
    omega
  · exact Pipe.flow_put.trans (tied.linked (flow.symm.trans flowing))
  · -- The request goes and its answer comes, so it is still the turn of the server.
    have before := flow.symm.trans flowing
    have turn := tied.turn before
    rw [waiting, requests_cons, silent] at turn
    show requests rest.waiting + grants (s.toWorker.put _).waiting = _
    rw [silent, Pipe.waiting_put (tied.linked before), grants_append, ← turn]
    show 0 + (grants s.toWorker.waiting + 1) = 0 + 1 + grants s.toWorker.waiting
    omega
  · have before := flow.symm.trans flowing
    have covered := tied.covered before goes working
    rw [waiting, reports, List.countP_cons_of_neg (by simp [WorkerMessage.isReport])] at covered
    show h'.load ≤ reports rest.waiting + s.coordinator.assigned +
      TrialFarm.granted (s.toWorker.put _).waiting
    rw [Pipe.waiting_put (tied.linked before), granted_append, reports]
    show _ ≤ _ + _ + (TrialFarm.granted s.toWorker.waiting + (trials bs + 0))
    omega
  · exact goodbye_rest tied came (by simp) flowing parted
  · show rest.flow ≠ .flowing
    rw [flow]
    exact tied.closed finished

/-- What is taken was of known tasks, and so is what is left. -/
theorem Honest.take (honest : s.Honest file? shape) {part : Parting WorkerMessage}
    (came : s.toServer.next = some (part, rest)) :
    Site.Honest file? shape { s with toServer := rest } where
  reports r later := honest.reports r (Pipe.mem_of_next came later)
  results := honest.results
  pending := honest.pending
  running := honest.running
  batches := honest.batches

/-- A site stays honest when it is granted trials of known tasks. -/
theorem Honest.granted (honest : s.Honest file? shape) {bs : List Batch}
    (known : ∀ b ∈ bs, file? b.taskId = some b.file) :
    Site.Honest file? shape { s with toWorker := s.toWorker.put (.sendInstances bs) } := by
  refine ⟨honest.reports, honest.results, honest.pending, honest.running, fun m member => ?_⟩
  rcases Pipe.mem_put member with old | rfl
  · exact honest.batches m old
  · exact known

end Taken

end Site

end TrialFarm
