import TrialFarm.Proofs.Server.Lifecycle

/-!
# Turns of a server

In each turn a server hears of an event, which changes its state, then carries out what the state
asks for, and ends if the run is over. Hearing and carrying out are told apart here: the first
depends on the server only, the second on its connections.

## Main definitions

* `Action.leaves`: the connections that an action leaves open.
* `Server.heard`: the server after it heard of an event, and whether this failed.
* `Server.respond`: what a server does about it.
* `Server.run`: the server after some events.
* `Server.Intact`: no failure has ended the server.
* `Server.Quiet`: nothing is left to be carried out.

## Main statements

* `Server.step_eq`: in each turn a server first hears and then responds.
* `Server.hears_of_heard`: what hearing of an event can do to a server.
* `Server.run_induction`: what every turn of a quiet server keeps, every run without failure keeps.
-/

namespace TrialFarm

open Wire

/-- A network without memory, on which whatever is sent to the manager has the same outcome and all
else arrives. -/
def Network.plain (outcome : Except Error Unit) : Network Unit where
  sendManager n _ := (n, outcome)
  closeManager n := n
  sendWorker n _ _ := (n, .ok ())
  closeWorker n _ := n

/-- What a server does that has so many workers yet to come. -/
def ServerStage.awaiting (left : Nat) : ServerStage :=
  if left = 0 then .serving else .accepting left

/-- Whether the event is that a worker connects. -/
def ServerEvent.isConnection : ServerEvent → Bool
  | connected => true
  | _ => false

theorem ServerState.apply_joined (s : ServerState) :
    s.apply .joined = (s.workerJoined.2, .ok ()) := rfl

/-- The connections that an action leaves open. -/
def Action.leaves (connections : List WorkerId) : Action → List WorkerId
  | closeWorker id => connections.erase id
  | toWorker _ _ | toManager _ => connections

namespace Server

/-! ### Hearing -/

/-- Lets the state know of an event. -/
def notify (s : Server) (e : StateEvent) : Server × Except Error Unit :=
  let (state, outcome) := s.state.apply e
  ({ s with state := state }, outcome)

/-- Hears what arrived from the manager. -/
def hearManager (s : Server) : Arrival ManagerMessage → Server × Except Error Unit
  | .nothing => (s, .ok ())
  | .message (.addWorkers count) =>
    match ServerState.workersToAccept count with
    | .ok workers => ({ s with stage := .accepting workers }, .ok ())
    | .error _ => (s, .ok ())
  | .message (.addFile file) => s.notify (.submitted file)
  | .message .terminate => s.notify .terminated
  | .closed => { s with managerOpen := false }.notify .terminated
  | .failed e => (s, .error e)

/-- Hears what arrived from a worker. -/
def hearWorker (s : Server) (id : WorkerId) : Arrival WorkerMessage → Server × Except Error Unit
  | .nothing => (s, .ok ())
  | .message m => s.notify (.said id m)
  | .closed | .failed _ => s.notify (.lost id)

/-- A worker connects, and its connection is entered. -/
def hearConnected (s : Server) (left : Nat) : Server × Except Error Unit :=
  { s with
    stage := .awaiting (left - 1)
    connections := s.connections ++ [s.state.roster.nextId] }.notify .joined

/-- The server after it heard of an event and before it carries anything out, and whether the event
failed. -/
def heard (s : Server) (event : ServerEvent) : Server × Except Error Unit :=
  match s.stage, event with
  | .serving, .manager arrival => if s.managerOpen then s.hearManager arrival else (s, .ok ())
  | .serving, .worker id arrival => s.hearWorker id arrival
  | .accepting left, .connected => s.hearConnected left
  | .accepting left, .misconnected => ({ s with stage := .awaiting (left - 1) }, .ok ())
  | .accepting _, .acceptTimeout => ({ s with stage := .serving }, .ok ())
  | _, _ => (s, .ok ())

/-- The server has not ended. -/
def Going (s : Server) : Prop := ∀ result, s.stage ≠ .ended result

/-- What hearing of an event can do to a server, unless the event fails. -/
inductive Hears (s : Server) : ServerEvent → Server → Prop
  | ignored {event : ServerEvent} : s.Hears event s
  /-- Workers are waited for, or no longer. -/
  | turned {event : ServerEvent} {stage : ServerStage} (going : s.Going) :
      s.Hears event { s with stage := stage }
  | told {event : ServerEvent} {e : StateEvent} {state : ServerState} {managerOpen : Bool}
      (serving : s.stage = .serving) (done : s.state.apply e = (state, .ok ()))
      (stays : e.isJoin = false) (gone : managerOpen = s.managerOpen ∨ e = .terminated) :
      s.Hears event { s with state := state, managerOpen := managerOpen }
  | joined {stage : ServerStage} (going : s.Going) :
      s.Hears .connected
        { s with
          stage := stage
          state := s.state.workerJoined.2
          connections := s.connections ++ [s.state.roster.nextId] }

variable {s h : Server} {event : ServerEvent}

theorem Going.of_serving (serving : s.stage = .serving) : s.Going :=
  fun _ ended => nomatch serving.symm.trans ended

theorem Going.of_accepting {left : Nat} (accepting : s.stage = .accepting left) : s.Going :=
  fun _ ended => nomatch accepting.symm.trans ended

/-- An event of the state that does not fail is heard. -/
theorem hears_of_notify (e : StateEvent) (managerOpen : Bool) (serving : s.stage = .serving)
    (stays : e.isJoin = false) (gone : managerOpen = s.managerOpen ∨ e = .terminated)
    (done : { s with managerOpen := managerOpen }.notify e = (h, .ok ())) : s.Hears event h := by
  obtain ⟨rfl, fine⟩ := Prod.mk.inj done
  exact .told serving (Prod.ext rfl fine) stays gone

/-- What the server makes of an event that does not fail. -/
theorem hears_of_heard (done : s.heard event = (h, .ok ())) : s.Hears event h := by
  have same (kept : (s, Except.ok ()) = (h, (.ok () : Except Error Unit))) : s.Hears event h := by
    obtain rfl := (Prod.mk.inj kept).1
    exact .ignored
  unfold heard at done
  split at done
  · next arrival serving =>
    split at done
    swap
    · exact same done
    cases arrival with
    | nothing => exact same done
    | failed e => cases (Prod.mk.inj done).2
    | closed => exact hears_of_notify .terminated false serving rfl (.inr rfl) done
    | message m =>
      cases m with
      | addFile file =>
        exact hears_of_notify (.submitted file) s.managerOpen serving rfl (.inl rfl) done
      | terminate => exact hears_of_notify .terminated s.managerOpen serving rfl (.inl rfl) done
      | addWorkers count =>
        unfold hearManager at done
        dsimp only at done
        split at done
        · obtain rfl := (Prod.mk.inj done).1
          exact .turned (.of_serving serving)
        · exact same done
  · next id arrival serving =>
    cases arrival with
    | nothing => exact same done
    | message m => exact hears_of_notify (.said id m) s.managerOpen serving rfl (.inl rfl) done
    | closed | failed =>
      exact hears_of_notify (.lost id) s.managerOpen serving rfl (.inl rfl) done
  · next left accepting =>
    obtain rfl := (Prod.mk.inj done).1
    exact .joined (.of_accepting accepting)
  · next left accepting =>
    obtain rfl := (Prod.mk.inj done).1
    exact .turned (.of_accepting accepting)
  · next left accepting =>
    obtain rfl := (Prod.mk.inj done).1
    exact .turned (.of_accepting accepting)
  · exact same done

/-- The state is as before, or it was told of one event. -/
theorem Hears.state (hears : s.Hears event h) :
    h.state = s.state ∨ ∃ e, s.state.apply e = (h.state, .ok ()) := by
  cases hears with
  | ignored | turned => exact Or.inl rfl
  | told serving done => exact Or.inr ⟨_, done⟩
  | joined => exact Or.inr ⟨.joined, s.state.apply_joined⟩

/-! ### Responding -/

variable {ν : Type} (network : Network ν)

/-- Ends if the run is over. -/
def settle (s : Server) (n : ν) : Server × ν :=
  match s.stage with
  | .serving => if s.state.phase = .stopped then shutdown network s n (.ok ()) else (s, n)
  | _ => (s, n)

/-- What a server does after it heard of an event. -/
def respond (n : ν) : Server × Except Error Unit → Server × ν
  | (h, .ok ()) =>
    let (s, n) := flush network h n
    settle network s n
  | (h, .error fault) => conclude network h n (.error fault)

/-- No failure has ended the server. -/
def Intact (s : Server) : Prop := ∀ fault, s.stage ≠ .ended (.error fault)

/-- Nothing is left to be carried out, and the server has ended if it had to. -/
structure Quiet (s : Server) : Prop where
  outbound : s.state.outbound = []
  phase : s.Going → s.state.phase ≠ .stopped

/-- Carrying out an action may show that the manager is gone, or close a connection. -/
theorem carryOut_frame (s : Server) (n : ν) (action : Action) :
    ∃ managerOpen, (carryOut network s n action).1 =
      { s with managerOpen := managerOpen, connections := action.leaves s.connections } := by
  cases action with
  | toWorker id m => exact ⟨_, rfl⟩
  | toManager m =>
    unfold carryOut tellManager
    dsimp only
    split
    · split
      · exact ⟨_, rfl⟩
      · exact ⟨_, rfl⟩
    · exact ⟨_, rfl⟩
  | closeWorker id =>
    unfold carryOut
    dsimp only
    split
    · exact ⟨_, rfl⟩
    · next away =>
      have same : s.connections.erase id = s.connections :=
        List.erase_of_not_mem (by simpa using away)
      refine ⟨s.managerOpen, ?_⟩
      rw [Action.leaves, same]

theorem carryOutAll_cons (s : Server) (n : ν) (action : Action) (rest : List Action) :
    carryOutAll network s n (action :: rest) =
      carryOutAll network (carryOut network s n action).1 (carryOut network s n action).2 rest :=
  rfl

/-- To carry out actions may lose the manager, and changes nothing else. -/
theorem carryOutAll_frame (s : Server) (n : ν) (actions : List Action) :
    ∃ managerOpen, (carryOutAll network s n actions).1 =
      { s with
        managerOpen := managerOpen
        connections := actions.foldl Action.leaves s.connections } := by
  induction actions generalizing s n with
  | nil => exact ⟨_, rfl⟩
  | cons action rest ih =>
    obtain ⟨open₁, first⟩ := carryOut_frame network s n action
    obtain ⟨open₂, later⟩ := ih (carryOut network s n action).1 (carryOut network s n action).2
    rw [carryOutAll_cons, later, first]
    exact ⟨open₂, rfl⟩

/-- So may a flush, after which nothing is left to be carried out. -/
theorem flush_frame (s : Server) (n : ν) :
    ∃ managerOpen, (flush network s n).1 =
      { s with
        state := { s.state with outbound := [] }
        managerOpen := managerOpen
        connections := s.state.outbound.foldl Action.leaves s.connections } :=
  carryOutAll_frame network { s with state := s.state.takeOutbound.2 } n s.state.outbound

@[simp] theorem flush_state (s : Server) (n : ν) :
    (flush network s n).1.state = { s.state with outbound := [] } := by
  obtain ⟨managerOpen, flushed⟩ := flush_frame network s n
  rw [flushed]

@[simp] theorem flush_stage (s : Server) (n : ν) : (flush network s n).1.stage = s.stage := by
  obtain ⟨managerOpen, flushed⟩ := flush_frame network s n
  rw [flushed]

/-- If nothing is asked for, nothing happens. -/
theorem flush_of_empty {s : Server} (empty : s.state.outbound = []) (n : ν) :
    flush network s n = (s, n) := by
  unfold flush ServerState.takeOutbound
  rw [empty]
  dsimp only [carryOutAll]
  rw [← empty]

/-- What a server is doing plays no role for what it carries out. -/
theorem carryOut_stage (s : Server) (n : ν) (stage : ServerStage) (action : Action) :
    carryOut network { s with stage := stage } n action =
      ({ (carryOut network s n action).1 with stage := stage },
        (carryOut network s n action).2) := by
  cases action with
  | toWorker id m => rfl
  | toManager m =>
    unfold carryOut tellManager
    dsimp only
    split
    · split
      · rfl
      · rfl
    · rfl
  | closeWorker id =>
    unfold carryOut
    dsimp only
    split
    · rfl
    · rfl

/-- Actions are carried out alike in all stages. -/
theorem carryOutAll_stage (s : Server) (n : ν) (stage : ServerStage) (actions : List Action) :
    carryOutAll network { s with stage := stage } n actions =
      ({ (carryOutAll network s n actions).1 with stage := stage },
        (carryOutAll network s n actions).2) := by
  induction actions generalizing s n with
  | nil => rfl
  | cons action rest ih => rw [carryOutAll_cons, carryOut_stage, ih, carryOutAll_cons]

/-! ### A turn is hearing and responding -/

/-- A server that goes on serving takes a turn without news. -/
theorem proceed_eq {s : Server} (serving : s.stage = .serving) (n : ν) :
    proceed network s n = respond network n (s, .ok ()) := by
  unfold respond settle proceed
  dsimp only
  rw [flush_stage, serving]

/-- A turn ends by responding to what was heard, -/
theorem conclude_eq {s : Server} (serving : s.stage = .serving) (n : ν)
    (outcome : Except Error Unit) :
    conclude network s n outcome = respond network n (s, outcome) := by
  cases outcome with
  | ok u => exact proceed_eq network serving n
  | error fault => rfl

/-- A failure ends the server, whether it can still say goodbye or not. -/
theorem conclude_error_stage (s : Server) (n : ν) (fault : Error) :
    (conclude network s n (.error fault)).1.stage = .ended (.error fault) := by
  cases fault with
  | protocol | inconsistent | rejected | transport | disconnected | io | parse | config | internal
  | crash => rfl

/-- A quiet server that hears nothing does nothing. -/
theorem respond_of_quiet (quiet : s.Quiet) (n : ν) : respond network n (s, .ok ()) = (s, n) := by
  unfold respond settle
  dsimp only
  rw [flush_of_empty network quiet.outbound]
  dsimp only
  split
  · next serving =>
    rw [if_neg (quiet.phase (.of_serving serving))]
  · rfl

/-- and so does one that waits for the next worker, -/
theorem acceptNext_eq {s : Server} (empty : s.state.outbound = []) (n : ν) (left : Nat) :
    acceptNext network s n left =
      respond network n ({ s with stage := .awaiting left }, .ok ()) := by
  unfold acceptNext ServerStage.awaiting
  split
  · exact proceed_eq network rfl n
  · unfold respond settle
    dsimp only
    rw [flush_of_empty network (s := { s with stage := .accepting left }) empty]

/-- When a worker connects, it is served before the next one is waited for. -/
theorem onConnected_eq (s : Server) (n : ν) (left : Nat) :
    onConnected network s n left = respond network n (s.hearConnected left) := by
  have later := carryOutAll_stage network
    { s with
      state := s.state.workerJoined.2.takeOutbound.2
      connections := s.connections ++ [s.state.roster.nextId] } n (.awaiting (left - 1))
    s.state.workerJoined.2.outbound
  unfold onConnected
  dsimp only
  rw [acceptNext_eq network (by rw [flush_state])]
  unfold respond hearConnected notify
  dsimp only
  rw [flush_of_empty network (by rw [flush_state])]
  unfold flush
  exact congrArg (fun r : Server × ν => settle network r.1 r.2) later.symm

/-- one that hears from the manager, -/
theorem onManager_eq (quiet : s.Quiet) (serving : s.stage = .serving) (n : ν)
    (arrival : Arrival ManagerMessage) :
    onManager network s n arrival = respond network n (s.hearManager arrival) := by
  cases arrival with
  | nothing => exact (respond_of_quiet network quiet n).symm
  | failed e => rfl
  | closed => exact proceed_eq network (by exact serving) n
  | message m =>
    cases m with
    | terminate => exact proceed_eq network (by exact serving) n
    | addFile file =>
      unfold onManager onManagerMessage hearManager notify ServerState.apply
      dsimp only
      cases s.state.addFile file with
      | ok entered => exact proceed_eq network (by exact serving) n
      | error e => exact conclude_eq network (by exact serving) n _
    | addWorkers count =>
      unfold onManager onManagerMessage hearManager ServerState.workersToAccept
      dsimp only
      by_cases positive : 0 < count.toInt
      · rw [if_pos positive]
        have waiting : Quiet { s with stage := .accepting count.toInt.toNat } :=
          ⟨quiet.outbound, fun _ => quiet.phase (.of_serving serving)⟩
        exact (respond_of_quiet network waiting n).symm
      · rw [if_neg positive]
        exact proceed_eq network (by exact serving) n

/-- and one that hears from a worker. -/
theorem onWorker_eq (quiet : s.Quiet) (serving : s.stage = .serving) (n : ν) (id : WorkerId)
    (arrival : Arrival WorkerMessage) :
    onWorker network s n id arrival = respond network n (s.hearWorker id arrival) := by
  cases arrival with
  | nothing => exact (respond_of_quiet network quiet n).symm
  | message m => exact conclude_eq network (by exact serving) n _
  | closed | failed => exact conclude_eq network (by exact serving) n _

/-- In each turn a server first hears of the event, and then it responds. -/
theorem step_eq (quiet : s.Quiet) (n : ν) (event : ServerEvent) :
    step network s n event = respond network n (s.heard event) := by
  have nothing := (respond_of_quiet network quiet n).symm
  unfold step heard
  cases stage : s.stage with
  | ended result => exact nothing
  | serving =>
    cases event with
    | manager arrival =>
      dsimp only
      split
      · exact onManager_eq network quiet stage n arrival
      · exact nothing
    | worker id arrival => exact onWorker_eq network quiet stage n id arrival
    | connected | misconnected | acceptTimeout => exact nothing
  | accepting left =>
    cases event with
    | connected => exact onConnected_eq network s n left
    | misconnected => exact acceptNext_eq network quiet.outbound n (left - 1)
    | acceptTimeout => exact proceed_eq network rfl n
    | manager | worker => exact nothing

/-! ### What a turn leaves behind -/

/-- A server carries out what it was asked for and goes on, or it ends because the run is over. -/
theorem respond_cases (h : Server) (n : ν) :
    ((respond network n (h, .ok ())).1 = (flush network h n).1 ∧
      (h.stage = .serving → h.state.phase ≠ .stopped)) ∨
    h.stage = .serving ∧ h.state.phase = .stopped ∧
      ∃ managerOpen, (respond network n (h, .ok ())).1 =
        { (flush network h n).1 with
          stage := .ended (.ok ())
          managerOpen := managerOpen
          connections := [] } := by
  have phase : (flush network h n).1.state.phase = h.state.phase := by rw [flush_state]
  unfold respond settle
  dsimp only
  rw [flush_stage, phase]
  cases stage : h.stage with
  | accepting | ended => exact Or.inl ⟨rfl, nofun⟩
  | serving =>
    by_cases stopped : h.state.phase = .stopped
    · refine Or.inr ⟨rfl, stopped, ?_⟩
      dsimp only
      rw [if_pos stopped]
      obtain ⟨managerOpen, told⟩ :=
        carryOut_frame network (flush network h n).1 (flush network h n).2 (.toManager .disconnect)
      unfold carryOut at told
      unfold shutdown
      dsimp only at told ⊢
      rw [told]
      exact ⟨managerOpen, rfl⟩
    · dsimp only
      rw [if_neg stopped]
      exact Or.inl ⟨rfl, fun _ => stopped⟩

/-- To respond changes the state only in that nothing is left to be carried out. -/
@[simp] theorem respond_state (h : Server) (n : ν) :
    (respond network n (h, .ok ())).1.state = { h.state with outbound := [] } := by
  rcases respond_cases network h n with ⟨same, -⟩ | ⟨-, -, managerOpen, same⟩
  · rw [same, flush_state]
  · rw [same]
    exact flush_state network h n

theorem Quiet.start (c : ServerConfig) : (start c).Quiet := ⟨rfl, fun _ => nofun⟩

/-- A server that waits for workers has not reached the end of the run. -/
theorem Hears.phase (hears : s.Hears event h) (quiet : s.Quiet) (going : h.Going) :
    h.stage = .serving ∨ h.state.phase ≠ .stopped := by
  cases hears with
  | ignored => exact Or.inr (quiet.phase going)
  | turned before => exact Or.inr (quiet.phase before)
  | told serving => exact Or.inl serving
  | joined before =>
    refine Or.inr ?_
    dsimp only
    rw [ServerState.workerJoined_eq, ServerState.phase_wakeIdle]
    exact quiet.phase before

/-- After a turn nothing is left to be carried out. -/
theorem Quiet.respond (quiet : s.Quiet) (hears : s.Hears event h) (n : ν) :
    (respond network n (h, .ok ())).1.Quiet := by
  refine ⟨by rw [respond_state], fun going => ?_⟩
  rw [respond_state]
  rcases respond_cases network h n with ⟨same, on⟩ | ⟨-, -, managerOpen, same⟩
  · have before : h.Going := by
      intro result ended
      refine going result ?_
      rw [same, flush_stage, ended]
    rcases hears.phase quiet before with serving | short
    · exact on serving
    · exact short
  · rw [same] at going
    exact absurd rfl (going _)

/-! ### Runs -/

/-- The server and its connections after some events. -/
def run (s : Server) (n : ν) : List ServerEvent → Server × ν
  | [] => (s, n)
  | event :: events =>
    let (s, n) := step network s n event
    run s n events

/-- Nothing mends a failure. -/
theorem Intact.of_step {n : ν} (intact : (step network s n event).1.Intact) : s.Intact := by
  intro fault ended
  refine intact fault ?_
  unfold step
  rw [ended]
  exact ended

/-- A server that is intact after a run was intact before it. -/
theorem Intact.of_run {n : ν} {events : List ServerEvent}
    (intact : (run network s n events).1.Intact) : s.Intact := by
  induction events generalizing s n with
  | nil => exact intact
  | cons event events ih => exact Intact.of_step network (ih intact)

/-- If a turn leaves the server intact, then what it heard was no failure. -/
theorem heard_of_intact (quiet : s.Quiet) {n : ν}
    (intact : (step network s n event).1.Intact) : ∃ h, s.heard event = (h, .ok ()) := by
  rw [step_eq network quiet] at intact
  rcases heard : s.heard event with ⟨h, fault | ⟨⟩⟩
  · rw [heard] at intact
    exact absurd (conclude_error_stage network h n fault) (intact fault)
  · exact ⟨h, rfl⟩

/-- What every turn of a quiet server keeps holds after every run without failure. It may depend on
the events yet to come. -/
theorem run_induction {motive : List ServerEvent → Server → Prop} {n : ν}
    {events : List ServerEvent}
    (turn : ∀ s h n event events, s.Quiet → motive (event :: events) s →
      s.heard event = (h, .ok ()) → motive events (respond network n (h, .ok ())).1)
    (quiet : s.Quiet) (start : motive events s) (intact : (run network s n events).1.Intact) :
    (run network s n events).1.Quiet ∧ motive [] (run network s n events).1 := by
  induction events generalizing s n with
  | nil => exact ⟨quiet, start⟩
  | cons event events ih =>
    obtain ⟨h, done⟩ := heard_of_intact network quiet (Intact.of_run network intact)
    have same := step_eq network quiet n event
    rw [done] at same
    unfold run at intact ⊢
    dsimp only at intact ⊢
    rw [same] at intact ⊢
    exact ih (quiet.respond network (hears_of_heard done) n)
      (turn s h n event events quiet start done) intact

end Server

end TrialFarm
