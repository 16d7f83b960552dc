import TrialFarm.Proofs.Server.Counters
import TrialFarm.Proofs.Server.Discipline
import TrialFarm.Proofs.Server.Turns

/-!
# Roster and connections

A server keeps its connections apart from the roster of its state. A connection is entered when its
worker joins, at once with the roster; it is closed when the actions of the turn are carried out in
which its worker is struck off. So the two differ within a turn. What a turn asks for is asked for
in such an order that every action finds its connection, and in the end they agree again.

## Main definitions

* `Action.Serve`: every action finds its connection.
* `ServerState.Addresses`: what is said in addition is said to workers on the roster.
* `Server.Agrees`: the open connections are those of the workers on the roster.

## Main statements

* `ServerState.apply_serves`: what an event asks for finds its connections.
* `Server.Agrees.respond`: every turn keeps the agreement.
* `connections_agree`: roster and connections agree between any two turns.
-/

namespace TrialFarm

namespace Action

/-- The action is a message, to the manager or to one of the workers. -/
def IsMessageTo (ids : List WorkerId) : Action → Prop
  | toWorker id _ => id ∈ ids
  | toManager _ => True
  | closeWorker _ => False

/-- One after the other, the actions find all connections open that they are about, and in the end
the last ones are left. -/
inductive Serve : List WorkerId → List Action → List WorkerId → Prop
  | nil {connections : List WorkerId} : Serve connections [] connections
  | cons {connections last : List WorkerId} {a : Action} {actions : List Action}
      (finds : ∀ id, a.worker? = some id → id ∈ connections)
      (rest : Serve (a.leaves connections) actions last) : Serve connections (a :: actions) last

variable {connections middle last ids : List WorkerId} {actions more : List Action} {a : Action}

/-- Actions that find their connections may follow one another. -/
theorem Serve.append (first : Serve connections actions middle)
    (second : Serve middle more last) : Serve connections (actions ++ more) last := by
  induction first with
  | nil => exact second
  | cons finds _ ih => exact .cons finds (ih second)

/-- The connections at the end are those that no action closed. -/
theorem Serve.last_eq (serve : Serve connections actions last) :
    last = actions.foldl leaves connections := by
  induction serve with
  | nil => rfl
  | cons _ _ ih => exact ih

/-- An action finds its connection among those that the actions before it left. -/
theorem Serve.found {id : WorkerId} {before after : List Action}
    (serve : Serve connections (before ++ a :: after) last) (about : a.worker? = some id) :
    id ∈ before.foldl leaves connections := by
  induction before generalizing connections with
  | nil =>
    cases serve with
    | cons finds _ => exact finds id about
  | cons b before ih =>
    cases serve with
    | cons _ rest => exact ih rest

/-- Messages to those who are there find their connections and close none. -/
theorem serve_of_messages (messages : ∀ a ∈ actions, a.IsMessageTo ids) :
    Serve ids actions ids := by
  induction actions with
  | nil => exact .nil
  | cons a actions ih =>
    obtain ⟨here, later⟩ := List.forall_mem_cons.mp messages
    cases a with
    | closeWorker id => exact here.elim
    | toManager m => exact .cons nofun (ih later)
    | toWorker id m =>
      refine .cons (fun other about => ?_) (ih later)
      obtain rfl := Option.some.inj about
      exact here

end Action

namespace ServerState

open TrialFarm.Action

variable {s s' s'' s₁ : ServerState} {e : StateEvent}

/-! ### What is said in addition -/

/-- The same workers are on the roster, and what is asked for in addition are messages to the
manager and to them. -/
structure Addresses (s s' : ServerState) : Prop where
  ids : s'.roster.ids = s.roster.ids
  outbound : ∃ extra, s'.outbound = s.outbound ++ extra ∧
    ∀ a ∈ extra, a.IsMessageTo s.roster.ids

theorem Addresses.refl (s : ServerState) : s.Addresses s := ⟨rfl, [], by simp, nofun⟩

/-- What addresses workers on the roster may be followed by more that does. -/
theorem Addresses.trans (first : s.Addresses s') (second : s'.Addresses s'') :
    s.Addresses s'' := by
  obtain ⟨extra, out, messages⟩ := first.outbound
  obtain ⟨extra', out', messages'⟩ := second.outbound
  rw [first.ids] at messages'
  refine ⟨second.ids.trans first.ids, extra ++ extra', ?_, ?_⟩
  · rw [out', out, List.append_assoc]
  · exact fun a member => (List.mem_append.mp member).elim (messages a) (messages' a)

/-- Only workers on the roster are woken. -/
theorem addresses_wakeIdle (s : ServerState) : s.Addresses s.wakeIdle := by
  by_cases awake : s.Awake
  · rw [wakeIdle_of_awake awake]
    refine ⟨s.roster.ids_allActive, _, rfl, fun a member => ?_⟩
    obtain ⟨id, idle, rfl⟩ := List.mem_map.mp member
    obtain ⟨w, inside, -⟩ := Roster.mem_inactive.mp idle
    exact List.mem_map_of_mem inside
  · rw [wakeIdle_of_not_awake awake]
    exact .refl s

/-- Only workers on the roster are told to stop. -/
theorem addresses_terminateWorkers (s : ServerState) : s.Addresses s.terminateWorkers := by
  unfold terminateWorkers
  split
  · exact .refl s
  · refine ⟨rfl, _, rfl, fun a member => ?_⟩
    obtain ⟨id, inside, rfl⟩ := List.mem_map.mp member
    exact inside

theorem addresses_sendStatistics (s : ServerState) : s.Addresses s.sendStatistics := by
  unfold sendStatistics
  split
  · exact .refl s
  · refine ⟨rfl, _, rfl, fun a member => ?_⟩
    obtain ⟨entry, -, rfl⟩ := List.mem_map.mp member
    trivial

theorem addresses_phase (s : ServerState) (phase : Phase) : s.Addresses { s with phase := phase } :=
  ⟨rfl, [], by simp, nofun⟩

/-- What follows an event addresses workers on the roster only. -/
theorem addresses_sequel (s : ServerState) (e : StateEvent) : s.Addresses (s.sequel e) := by
  refine sequel_induction (motive := s.Addresses) (.refl s) ?_ ?_ ?_ ?_ ?_
  · exact fun id solution _ => ⟨rfl, _, rfl, by simp [IsMessageTo]⟩
  · exact fun t said => said.trans (addresses_wakeIdle t)
  · exact fun t said => said.trans (addresses_terminateWorkers t)
  · intro t said
    unfold drainIfDue
    split
    · exact said.trans (((addresses_sendStatistics t).trans (addresses_terminateWorkers _)).trans
        (addresses_phase _ _))
    · exact said
  · intro t said
    unfold stopIfEmpty
    split
    · exact said.trans (addresses_phase t _)
    · exact said

/-! ### What an event asks for -/

/-- The workers whose connections are open when the actions of an event are carried out: that of a
worker that joins is entered first. -/
def entered (s : ServerState) : StateEvent → List WorkerId
  | .joined => s.roster.ids ++ [s.roster.nextId]
  | .submitted _ | .terminated | .said _ _ | .lost _ => s.roster.ids

/-- Without a newcomer the connections are those of the roster. -/
theorem entered_of_stays (stays : e.isJoin = false) : s.entered e = s.roster.ids := by
  cases e with
  | joined => cases stays
  | submitted | terminated | said | lost => rfl

/-- The effect of an event asks at most for one message to a worker on the roster or for closing the
connection of the worker that it strikes off. -/
theorem Core.serves (core : s.Core e s₁) (numbered : s.roster.Numbered) :
    Serve (s.entered e) (s.answers e) s₁.roster.ids := by
  -- For events that say nothing of their own and leave the numbers on the roster.
  have silent (none : s.answers e = []) (same : s₁.roster.ids = s.entered e) :
      Serve (s.entered e) (s.answers e) s₁.roster.ids := by
    rw [none, same]
    exact .nil
  cases core with
  | join =>
    have joined : s.greet.roster.ids = s.roster.ids ++ [s.roster.nextId] := List.map_append
    rw [joined, entered]
    refine serve_of_messages fun a member => ?_
    rw [answers] at member
    split at member
    · rw [List.mem_singleton.mp member]
      exact List.mem_append_right _ List.mem_cons_self
    · cases member
  | @grant id requested s₁ done =>
    obtain ⟨w, w', found, -, rfl⟩ := grant_eq_ok done
    have same : (s.roster.modify id fun _ => w').ids = s.roster.ids := Roster.ids_modify
    rw [answers, if_pos (Roster.contains_iff.mpr ⟨w, found⟩), entered]
    dsimp only [push]
    rw [same]
    refine serve_of_messages fun a member => ?_
    rw [List.mem_singleton.mp member]
    exact Roster.mem_ids_of_find? found
  | complete done =>
    obtain ⟨w, w', scheduler, -, -, -, rfl⟩ := complete_eq_ok done
    exact silent rfl Roster.ids_modify
  | @leave id s₁ w found removed | @lose id s₁ w found removed =>
    obtain ⟨scheduler, -, rfl⟩ := removeWorker_eq_ok found removed
    rw [answers, if_pos (Roster.contains_iff.mpr ⟨w, found⟩), entered]
    refine .cons (fun other about => ?_) ?_
    · obtain rfl := Option.some.inj about
      exact Roster.mem_ids_of_find? found
    · show Serve (s.roster.ids.erase id) [] (s.roster.remove id).ids
      rw [Roster.ids_remove numbered]
      exact .nil
  | @ignore id m gone =>
    refine silent ?_ rfl
    cases m with
    | getInstances | disconnect => simp [answers, Roster.contains, gone]
    | doneProcessing | foundSolution => rfl
  | miss gone => exact silent (by simp [answers, Roster.contains, gone]) rfl
  | submit | refuse | terminate | solve => exact silent rfl rfl

/-- What an event asks for finds its connections and leaves those of the workers on the roster. -/
theorem apply_serves (numbered : s.roster.Numbered) (done : s.apply e = (s', .ok ())) :
    ∃ new, s'.outbound = s.outbound ++ new ∧ Serve (s.entered e) new s'.roster.ids := by
  rcases apply_cases done with ⟨passes, rfl⟩ | ⟨-, s₁, core, rfl⟩
  · exact ⟨_, passes.core.outbound, passes.core.serves numbered⟩
  · obtain ⟨ids, extra, out, messages⟩ := addresses_sequel s₁ e
    refine ⟨s.answers e ++ extra, by rw [out, core.outbound, List.append_assoc], ?_⟩
    rw [ids]
    exact (core.serves numbered).append (serve_of_messages messages)

/-- The effect of an event keeps the numbers on the roster in order. -/
theorem Core.numbered (core : s.Core e s₁) (numbered : s.roster.Numbered)
    (left : e.isJoin = true → s.roster.nextId.toNat + 1 < 2 ^ 64) : s₁.roster.Numbered := by
  cases core with
  | join => exact numbered.join (left rfl)
  | grant done =>
    obtain ⟨w, w', -, -, rfl⟩ := grant_eq_ok done
    exact numbered.congr Roster.ids_modify rfl
  | complete done =>
    obtain ⟨w, w', scheduler, -, -, -, rfl⟩ := complete_eq_ok done
    exact numbered.congr Roster.ids_modify rfl
  | leave found removed | lose found removed =>
    obtain ⟨scheduler, -, rfl⟩ := removeWorker_eq_ok found removed
    exact numbered.remove
  | submit | refuse | terminate | solve | ignore | miss => exact numbered

/-- So does an event that does not fail. -/
theorem apply_numbered (numbered : s.roster.Numbered) (done : s.apply e = (s', .ok ()))
    (left : e.isJoin = true → s.roster.nextId.toNat + 1 < 2 ^ 64) : s'.roster.Numbered := by
  obtain ⟨s₁, core, said⟩ := apply_eq_ok done
  exact said.roster.numbered (core.numbered numbered left)

end ServerState

namespace Server

open TrialFarm.Action ServerState

variable {ν : Type} (network : Network ν) {s h : Server} {event : ServerEvent}

/-- The open connections are those of the workers on the roster, and no number was given twice. -/
structure Agrees (s : Server) : Prop where
  connections : s.connections = s.state.roster.ids
  numbered : s.state.roster.Numbered

theorem Agrees.start (c : ServerConfig) : (start c).Agrees := ⟨rfl, Roster.Numbered.empty⟩

/-- There is a number left for the next worker if the event is that one connects. -/
def HasRoom (s : Server) (event : ServerEvent) : Prop :=
  s.state.roster.nextId.toNat + (if event.isConnection then 1 else 0) < 2 ^ 64

/-- What a server is asked for finds its connections. -/
theorem Hears.serves (hears : s.Hears event h) (quiet : s.Quiet) (agrees : s.Agrees) :
    Serve h.connections h.state.outbound h.state.roster.ids := by
  have still : Serve s.connections s.state.outbound s.state.roster.ids := by
    rw [quiet.outbound, agrees.connections]
    exact .nil
  cases hears with
  | ignored | turned => exact still
  | told serving done stays =>
    obtain ⟨new, out, serve⟩ := apply_serves agrees.numbered done
    rw [entered_of_stays stays, ← agrees.connections] at serve
    rw [quiet.outbound, List.nil_append] at out
    exact out ▸ serve
  | joined =>
    have done := s.state.apply_joined
    obtain ⟨new, out, serve⟩ := apply_serves agrees.numbered done
    rw [quiet.outbound, List.nil_append] at out
    dsimp only
    rw [agrees.connections, out]
    exact serve

/-- What the server hears keeps the numbers in order, and gives out at most one. -/
theorem Hears.numbered (hears : s.Hears event h) (agrees : s.Agrees) (room : s.HasRoom event) :
    h.state.roster.Numbered ∧ h.state.roster.nextId.toNat ≤
      s.state.roster.nextId.toNat + if event.isConnection then 1 else 0 := by
  cases hears with
  | ignored | turned => exact ⟨agrees.numbered, Nat.le_add_right _ _⟩
  | @told event e state managerOpen serving done stays =>
    have none : e.isJoin = true → s.state.roster.nextId.toNat + 1 < 2 ^ 64 := fun joins =>
      absurd (stays.symm.trans joins) Bool.false_ne_true
    have next := apply_nextId done none
    rw [stays, if_neg Bool.false_ne_true, Nat.add_zero] at next
    refine ⟨apply_numbered agrees.numbered done none, ?_⟩
    dsimp only
    omega
  | joined =>
    have done := s.state.apply_joined
    exact ⟨apply_numbered agrees.numbered done fun _ => room,
      Nat.le_of_eq (apply_nextId done fun _ => room)⟩

/-- A server stops only when all workers have left. -/
theorem Hears.empty (hears : s.Hears event h) (quiet : s.Quiet) (serving : h.stage = .serving)
    (stopped : h.state.phase = .stopped) : h.state.roster.workers = [] := by
  have going : s.Going := by
    cases hears with
    | ignored => exact .of_serving serving
    | told before => exact .of_serving before
    | turned before | joined before => exact before
  rcases hears.state with same | ⟨e, done⟩
  · exact absurd (same ▸ stopped) (quiet.phase going)
  · exact (apply_stopped done (quiet.phase going) stopped).1

/-- After a flush the connections are those of the workers on the roster. -/
theorem flush_connections (serve : Serve h.connections h.state.outbound h.state.roster.ids)
    (n : ν) : (flush network h n).1.connections = h.state.roster.ids := by
  obtain ⟨managerOpen, flushed⟩ := flush_frame network h n
  rw [flushed, serve.last_eq]

/-- Every turn keeps the agreement. -/
theorem Agrees.respond (agrees : s.Agrees) (quiet : s.Quiet) (hears : s.Hears event h)
    (room : s.HasRoom event) (n : ν) : (respond network n (h, .ok ())).1.Agrees := by
  refine ⟨?_, ?_⟩
  · rw [respond_state]
    rcases respond_cases network h n with ⟨same, -⟩ | ⟨serving, stopped, managerOpen, same⟩
    · rw [same]
      exact flush_connections network (hears.serves quiet agrees) n
    · rw [same]
      have empty := hears.empty quiet serving stopped
      dsimp only
      rw [Roster.ids, empty, List.map_nil]
  · rw [respond_state]
    exact (hears.numbered agrees room).1

/-- Roster and connections agree after every run without failure that has numbers for all workers,
and so many numbers are left. -/
theorem Agrees.run {events : List ServerEvent} {more : Nat} (agrees : s.Agrees)
    (quiet : s.Quiet) (n : ν)
    (left : s.state.roster.nextId.toNat + events.countP ServerEvent.isConnection + more < 2 ^ 64)
    (intact : (run network s n events).1.Intact) :
    (run network s n events).1.Quiet ∧ (run network s n events).1.Agrees ∧
      (run network s n events).1.state.roster.nextId.toNat + more < 2 ^ 64 := by
  refine run_induction network (motive := fun events t => t.Agrees ∧
    t.state.roster.nextId.toNat + events.countP ServerEvent.isConnection + more < 2 ^ 64) ?_ quiet
    ⟨agrees, left⟩ intact
  rintro t h n event events quiet ⟨agrees, left⟩ done
  have hears := hears_of_heard done
  rw [List.countP_cons] at left
  have room : t.HasRoom event := by
    unfold HasRoom
    omega
  have next := (hears.numbered agrees room).2
  refine ⟨agrees.respond network quiet hears room n, ?_⟩
  rw [respond_state]
  dsimp only
  omega

end Server

open Server in
/-- Roster and connections agree. In any order of events, late news of workers that left included,
as long as no failure ends the server and there are numbers for all workers: between two turns the
open connections are those of the workers on the roster, in the order in which they joined. In each
turn every action that is about a worker finds the connection of this worker open when its time
comes, and when all are carried out roster and connections agree again. -/
theorem connections_agree {ν : Type} (network : Network ν) (n k : ν) (c : ServerConfig)
    (events : List ServerEvent) (event : ServerEvent) (s : Server)
    (ran : Server.run network (Server.start c) n events = (s, k)) (intact : s.Intact)
    (numbered : (events ++ [event]).countP ServerEvent.isConnection < 2 ^ 64) :
    s.connections = s.state.roster.ids ∧
    ∀ h, s.heard event = (h, .ok ()) →
      step network s k event = respond network k (h, .ok ()) ∧
      (∀ before a after id, h.state.outbound = before ++ a :: after → a.worker? = some id →
        id ∈ (carryOutAll network { h with state := h.state.takeOutbound.2 } k
          before).1.connections) ∧
      (flush network h k).1.connections = (flush network h k).1.state.roster.ids := by
  have left : (Server.start c).state.roster.nextId.toNat +
      events.countP ServerEvent.isConnection + [event].countP ServerEvent.isConnection <
        2 ^ 64 := by
    rw [List.countP_append] at numbered
    change 0 + _ + _ < _
    omega
  have reached := (Agrees.start c).run network (Quiet.start c) n left
  rw [ran] at reached
  obtain ⟨quiet, agrees, -⟩ := reached intact
  refine ⟨agrees.connections, fun h done => ?_⟩
  have serve := (hears_of_heard done).serves quiet agrees
  refine ⟨by rw [step_eq network quiet, done], fun before a after id split about => ?_, ?_⟩
  · rw [split] at serve
    obtain ⟨managerOpen, carried⟩ :=
      carryOutAll_frame network { h with state := h.state.takeOutbound.2 } k before
    rw [carried]
    exact serve.found about
  · rw [flush_connections network serve, flush_state]

/-- Of two workers the first one leaves, and only then its connection is found to have ended. -/
def lateNews : List ServerEvent :=
  [.manager (.message (.addWorkers 2)), .connected, .connected,
    .manager (.message (.addFile ⟨2, 10, "a.cnf"⟩)), .worker 0 (.message (.getInstances 2)),
    .worker 0 (.message .disconnect), .worker 0 .closed]

/-- When the manager asks for the end after that, the other worker is told to stop, first of all. -/
theorem connections_agree_lateNews :
    ∃ s, Server.run (.plain (.ok ())) (Server.start .standard) () lateNews = (s, ()) ∧
      s.Intact ∧
      (lateNews ++ [ServerEvent.manager (.message .terminate)]).countP
        ServerEvent.isConnection < 2 ^ 64 ∧
      s.connections = [1] ∧
      ∃ h rest, s.heard (.manager (.message .terminate)) = (h, .ok ()) ∧
        h.state.outbound = [] ++ .toWorker 1 .terminate :: rest ∧
        1 ∈ (Server.carryOutAll (.plain (.ok ())) { h with state := h.state.takeOutbound.2 } ()
          []).1.connections := by
  have ran : Server.run (.plain (.ok ())) (Server.start .standard) () lateNews =
      ((Server.run (.plain (.ok ())) (Server.start .standard) () lateNews).1, ()) := rfl
  have few : (lateNews ++ [ServerEvent.manager (.message .terminate)]).countP
      ServerEvent.isConnection < 2 ^ 64 := by decide
  obtain ⟨agree, turn⟩ := connections_agree (.plain (.ok ())) () () .standard lateNews
    (.manager (.message .terminate)) _ ran nofun few
  refine ⟨_, ran, nofun, few, agree.trans rfl, _, _, rfl, rfl, ?_⟩
  obtain ⟨-, finds, -⟩ := turn _ rfl
  exact finds [] _ _ 1 rfl rfl

end TrialFarm
