import Mathlib.Data.List.TakeWhile
import TrialFarm.Proofs.Manager.Orders
import TrialFarm.Proofs.Manager.Recording

/-!
# The moments of a session

Lines of input and messages of the server reach a session in any order. The surroundings of a
session change while it runs, as files are written and messages come in. So each event comes with
the surroundings as they are then, and the two are a moment of the session.

A session that has stopped taking commands sends nothing more. It stops as soon as a solution was
received.

## Main definitions

* `reportsIn`: what the server reports before it leaves.
* `Moment`, `Moment.Fair`: an event in its surroundings, and that nothing fails in it.
* `toldIn`, `endingIn`: the commands that are carried out, and the message that ends the run.
* `Session.course`, `Session.sentIn`: the session after some moments, and what it sent.

## Main statements

* `reportsIn_of_prefix`: nothing is reported after the server has left.
* `told_prefix`: the commands that are carried out are the first ones of the script.
* `terminate_not_mem_dropLast`: the run is ended at most once, and at last.
* `Session.sentIn_of_solves`: once a solution was received, nothing is sent any more.
-/

namespace TrialFarm

open Wire

/-! ### Arrivals and what they report -/

namespace Wire.Arrival

/-- The server leaves. -/
def parts : Arrival ReportMessage → Bool
  | .closed | .message .disconnect => true
  | _ => false

/-- The server reports a solution. -/
def solves : Arrival ReportMessage → Bool
  | .message (.foundSolution _) => true
  | _ => false

/-- The message that arrives. -/
def messages {ι : Type} : Arrival ι → List ι
  | .message m => [m]
  | .nothing | .closed | .failed _ => []

end Wire.Arrival

/-- What the server reports before it leaves. -/
def reportsIn (arrivals : List (Arrival ReportMessage)) : List ReportMessage :=
  (arrivals.takeWhile fun a => !a.parts).flatMap Arrival.messages

section Arrivals

variable {a : Arrival ReportMessage} {arrivals more : List (Arrival ReportMessage)}

/-- Nothing is reported after the server has parted. -/
theorem reportsIn_cons_of_parts (parts : a.parts = true) : reportsIn (a :: arrivals) = [] := by
  simp [reportsIn, parts]

/-- While the server stays, what it says first is reported first. -/
theorem reportsIn_cons_of_stays (stays : a.parts = false) :
    reportsIn (a :: arrivals) = a.messages ++ reportsIn arrivals := by
  simp [reportsIn, stays]

/-- Nothing is reported after the server has left. -/
theorem reportsIn_of_prefix (early : arrivals <+: more)
    (parts : arrivals.any Arrival.parts = true) : reportsIn more = reportsIn arrivals := by
  obtain ⟨late, rfl⟩ := early
  induction arrivals with
  | nil => cases parts
  | cons a arrivals ih =>
    rw [List.cons_append]
    cases leaves : a.parts with
    | true => rw [reportsIn_cons_of_parts leaves, reportsIn_cons_of_parts leaves]
    | false =>
      rw [List.any_cons, leaves, Bool.false_or] at parts
      rw [reportsIn_cons_of_stays leaves, reportsIn_cons_of_stays leaves, ih parts]

/-- That the server leaves is no report. -/
theorem disconnect_not_mem_reportsIn (arrivals : List (Arrival ReportMessage)) :
    .disconnect ∉ reportsIn arrivals := by
  intro member
  obtain ⟨a, early, heard⟩ := List.mem_flatMap.mp member
  have stays := List.mem_takeWhile_imp early
  cases a with
  | message m =>
    rw [← List.mem_singleton.mp heard] at stays
    cases stays
  | nothing | closed | failed => cases heard

end Arrivals

/-! ### Moments -/

/-- The command stops the session from taking any more. -/
def Command.isLast : Command → Bool
  | waitForServer | exit => true
  | help | addWorkers .. | addFile .. => false

namespace SessionEvent

/-- The line that is read. -/
def line? : SessionEvent → Option String
  | line text => some text
  | _ => none

/-- What is found at the connection. -/
def arrival? : SessionEvent → Option (Arrival ReportMessage)
  | received arrival => some arrival
  | _ => none

/-- The command that the session is told. -/
def command? (e : SessionEvent) : Option Command := e.line?.bind Command.on?

/-- A session that takes commands takes none any more. -/
def stops : SessionEvent → Bool
  | line text => (Command.on? text).any Command.isLast
  | inputEnded => true
  | received arrival => arrival.parts || arrival.solves
  | timeout => false

/-- What a session that takes commands tells the server at the end of its input, or when it is told
to. -/
def farewell : SessionEvent → List ManagerMessage
  | line text => if Command.on? text = some .exit then [.terminate] else []
  | inputEnded => [.terminate]
  | received _ | timeout => []

end SessionEvent

/-- An event, and the surroundings in which it is met. -/
structure Moment where
  surroundings : Surroundings
  event : SessionEvent

namespace Moment

/-- Nothing fails: neither connection nor launcher whenever the session may have to send, nor the
search for a message. And the server takes no more time than it has to leave. -/
def Fair (m : Moment) : Prop :=
  match m.event with
  | .line _ | .inputEnded => m.surroundings.Working
  | .received (.failed _) | .timeout => False
  | .received .nothing | .received .closed | .received (.message _) => True

/-- The command that the session is told, and the surroundings in which it is. -/
def told? (m : Moment) : Option (Surroundings × Command) :=
  m.event.command?.map fun command => (m.surroundings, command)

end Moment

/-- The commands that the session is told before it stops taking any. -/
def toldIn (moments : List Moment) : List (Surroundings × Command) :=
  (moments.takeWhile fun m => !m.event.stops).filterMap Moment.told?

/-- The message that ends the run, if that is why the session stops taking commands. -/
def endingIn (moments : List Moment) : List ManagerMessage :=
  ((moments.find? fun m => m.event.stops).map fun m => m.event.farewell).getD []

section Told

variable {m : Moment} {moments : List Moment} {most : UInt32} {command : Command}

/-- What the session sends for the command of a moment. -/
def Moment.orders (m : Moment) (most : UInt32) : List ManagerMessage :=
  (m.told?.map fun (n, command) => command.orders most n.files.resolve).getD []

/-- The orders of a moment are those of its command. -/
theorem Moment.orders_of_told (told : m.event.command? = some command) :
    m.orders most = command.orders most m.surroundings.files.resolve := by
  rw [orders, told?, told]
  rfl

/-- A moment without a command orders nothing. -/
theorem Moment.orders_of_untold (untold : m.event.command? = none) : m.orders most = [] := by
  rw [orders, told?, untold]
  rfl

/-- Nothing is sent for the command that stops a session, -/
theorem Moment.orders_of_stops (stops : m.event.stops = true) : m.orders most = [] := by
  cases told : m.event.command? with
  | none => exact orders_of_untold told
  | some command =>
    have last : command.isLast = true := by
      cases event : m.event with
      | line text =>
        rw [event] at stops told
        have valid : Command.on? text = some command := told
        simpa [SessionEvent.stops, valid] using stops
      | inputEnded | received | timeout =>
        rw [event] at told
        cases told
    rw [orders_of_told told]
    cases command with
    | waitForServer | exit => rfl
    | help | addWorkers | addFile => cases last

/-- and nothing else makes it end the run. -/
theorem SessionEvent.farewell_of_goes {e : SessionEvent} (goes : e.stops = false) :
    e.farewell = [] := by
  cases e with
  | line text =>
    have other : Command.on? text ≠ some .exit := by
      intro exits
      simp [stops, exits, Command.isLast] at goes
    exact if_neg other
  | inputEnded => cases goes
  | received | timeout => rfl

end Told

/-- All that is found at the connection. -/
def arrivalsIn (moments : List Moment) : List (Arrival ReportMessage) :=
  moments.filterMap fun m => m.event.arrival?

/-- All lines that are read. -/
def linesIn (moments : List Moment) : List String :=
  moments.filterMap fun m => m.event.line?

/-- The messages that arrive at a moment. -/
def Moment.messages (m : Moment) : List ReportMessage :=
  (m.event.arrival?.map Arrival.messages).getD []

/-- The server does not leave at this moment. -/
def Moment.Stays (m : Moment) : Prop := ∀ a, m.event = .received a → a.parts = false

section Heard

variable {m : Moment} {a : Arrival ReportMessage} {moments : List Moment}

theorem arrivalsIn_cons_of_received (heard : m.event = .received a) :
    arrivalsIn (m :: moments) = a :: arrivalsIn moments := by
  simp [arrivalsIn, heard, SessionEvent.arrival?]

/-- As long as the server stays, all messages count as reports. -/
theorem Moment.Stays.cons (stays : m.Stays) (moments : List Moment) :
    reportsIn (arrivalsIn (m :: moments)) = m.messages ++ reportsIn (arrivalsIn moments) ∧
      (arrivalsIn (m :: moments)).any Arrival.parts = (arrivalsIn moments).any Arrival.parts := by
  cases event : m.event with
  | received a =>
    have there := stays a event
    have messages : m.messages = a.messages := by rw [Moment.messages, event]; rfl
    rw [arrivalsIn_cons_of_received event, reportsIn_cons_of_stays there, messages, List.any_cons,
      there, Bool.false_or]
    exact ⟨rfl, rfl⟩
  | line | inputEnded | timeout =>
    simp [arrivalsIn, Moment.messages, event, SessionEvent.arrival?]

/-- While a session goes on to take commands, the server stays. -/
theorem Moment.stays_of_goes (goes : m.event.stops = false) : m.Stays := by
  intro a heard
  rw [heard] at goes
  exact (Bool.or_eq_false_iff.mp goes).1

end Heard

/-! ### What a session is told -/

/-- What a session is told are the commands at the beginning of its script. -/
theorem told_prefix {script : List String} {moments : List Moment}
    (read : linesIn moments <+: script) :
    (toldIn moments).map Prod.snd <+: script.filterMap Command.on? := by
  have commands (some : List Moment) :
      (some.filterMap Moment.told?).map Prod.snd = some.filterMap fun m => m.event.command? := by
    rw [List.map_filterMap]
    congr 1
    funext m
    rw [Moment.told?, Option.map_map]
    exact Option.map_id'
  have valid : (linesIn moments).filterMap Command.on? =
      moments.filterMap fun m => m.event.command? := by
    rw [linesIn, List.filterMap_filterMap]
    rfl
  rw [toldIn, commands]
  exact ((List.takeWhile_prefix _).filterMap _).trans (valid ▸ read.filterMap _)

/-- The closing message is sent once or not at all. -/
theorem endingIn_cases (moments : List Moment) :
    endingIn moments = [] ∨ endingIn moments = [.terminate] := by
  unfold endingIn
  cases moments.find? fun m => m.event.stops with
  | none => exact Or.inl rfl
  | some m =>
    rw [Option.map_some, Option.getD_some]
    cases m.event with
    | line text =>
      rw [SessionEvent.farewell]
      split
      · exact Or.inr rfl
      · exact Or.inl rfl
    | inputEnded => exact Or.inr rfl
    | received | timeout => exact Or.inl rfl

/-- The end of the run is the last message, if it is one at all. -/
theorem terminate_not_mem_dropLast (most : UInt32) (moments : List Moment) :
    .terminate ∉ (((toldIn moments).flatMap fun (n, command) =>
      command.orders most n.files.resolve) ++ endingIn moments).dropLast := by
  have unended : .terminate ∉ (toldIn moments).flatMap fun (n, command) =>
      command.orders most n.files.resolve := by
    intro member
    obtain ⟨⟨n, command⟩, -, inside⟩ := List.mem_flatMap.mp member
    exact command.terminate_not_mem_orders inside
  rcases endingIn_cases moments with none | one
  · rw [none, List.append_nil]
    exact fun member => unended (List.dropLast_subset _ member)
  · rw [one, List.dropLast_concat]
    exact unended

/-! ### What becomes of a session -/

namespace Session

/-- The session after a moment. -/
def pass (s : Session) (m : Moment) : Session :=
  (s.step Surroundings.office m.surroundings m.event).1

/-- What a session sends at a moment. -/
def sends (s : Session) (m : Moment) : List ManagerMessage :=
  (s.step Surroundings.office.recorded (m.surroundings, []) m.event).2.2

/-- The session after some moments. -/
def course (s : Session) (moments : List Moment) : Session := moments.foldl pass s

/-- All that a session sends. -/
def sentIn (s : Session) : List Moment → List ManagerMessage
  | [] => []
  | m :: rest => s.sends m ++ (s.pass m).sentIn rest

variable {s s' s₁ : Session} {m : Moment} {moments : List Moment}

theorem pass_eq (s : Session) (m : Moment) :
    s.pass m = (s.step Surroundings.office.recorded (m.surroundings, []) m.event).1 :=
  congrArg Prod.fst (step_recorded Surroundings.office s (m.surroundings, []) m.event)

/-- What is sent during moments and more moments is sent one after the other. -/
theorem sentIn_append (s : Session) (before after : List Moment) :
    s.sentIn (before ++ after) = s.sentIn before ++ (s.course before).sentIn after := by
  induction before generalizing s with
  | nil => rfl
  | cons m before ih => rw [List.cons_append, sentIn, ih, sentIn, List.append_assoc]; rfl

/-! ### Sessions that have stopped taking commands -/

@[simp] theorem stage_record (s : Session) (r : ReportMessage) : (s.record r).stage = s.stage := by
  cases r <;> rfl

/-- A session that waits takes commands again only if the search for a message fails. -/
theorem onArrivalWaiting_quiet (quiet : s.stage ≠ .commanding) {a : Arrival ReportMessage}
    (found : ∀ e, a ≠ .failed e) : (s.onArrivalWaiting a).stage ≠ .commanding := by
  unfold onArrivalWaiting
  split
  · exact quiet
  · simp [finish]
  · simp [finish]
  · rw [stage_record]
    exact quiet
  · next e => exact absurd rfl (found e)

/-- A session that has left the commands behind sends nothing at an arrival and stays quiet. -/
theorem onArrivalLeaving_quiet {ν : Type} {office : Office ν} (quiet : s.stage ≠ .commanding)
    (p : ν × List ManagerMessage) (a : Arrival ReportMessage) :
    let next := onArrivalLeaving office.recorded s p a
    next.2.2 = p.2 ∧ next.1.stage ≠ .commanding := by
  unfold onArrivalLeaving
  split <;> simp [close, finish, quiet, Office.recorded, Sender.recorded]

/-- Nothing is said any more, and no command is taken. -/
theorem quiet_of_quiet (quiet : s.stage ≠ .commanding) (fair : m.Fair) :
    s.sends m = [] ∧ (s.pass m).stage ≠ .commanding := by
  rw [pass_eq, sends]
  unfold step
  cases stage : s.stage with
  | commanding => exact absurd stage quiet
  | waiting =>
    cases event : m.event with
    | received arrival =>
      refine ⟨rfl, onArrivalWaiting_quiet quiet ?_⟩
      rintro e rfl
      simp [Moment.Fair, event] at fair
    | line | inputEnded | timeout => exact ⟨rfl, quiet⟩
  | leaving =>
    cases m.event with
    | received arrival => exact onArrivalLeaving_quiet quiet _ arrival
    | line | inputEnded => exact ⟨rfl, quiet⟩
    | timeout => exact ⟨rfl, nofun⟩
  | ended result => exact ⟨rfl, quiet⟩

/-- A session that has left the commands behind sends nothing more. -/
theorem sentIn_of_quiet (quiet : s.stage ≠ .commanding) (fair : ∀ m ∈ moments, m.Fair) :
    s.sentIn moments = [] := by
  induction moments generalizing s with
  | nil => rfl
  | cons m moments ih =>
    obtain ⟨now, later⟩ := List.forall_mem_cons.mp fair
    obtain ⟨nothing, still⟩ := quiet_of_quiet quiet now
    rw [sentIn, nothing, ih still later, List.nil_append]

/-- An ended session does nothing any more. -/
theorem course_of_ended {result : Except Error Unit} (ended : s.stage = .ended result)
    (moments : List Moment) : s.course moments = s := by
  induction moments with
  | nil => rfl
  | cons m moments ih =>
    have still : s.pass m = s := by
      unfold pass step
      rw [ended]
    rw [course, List.foldl_cons, still]
    exact ih

theorem stage_wait (s : Session) : s.wait.stage ≠ .commanding := by
  unfold wait
  split <;> exact SessionStage.noConfusion

/-- A solution ends the commands. -/
theorem quiet_of_solves {arrival : Arrival ReportMessage} (fair : m.Fair)
    (heard : m.event = .received arrival) (solves : arrival.solves = true) :
    s.sends m = [] ∧ (s.pass m).stage ≠ .commanding := by
  by_cases stage : s.stage = .commanding
  · obtain ⟨solution, rfl⟩ : ∃ solution, arrival = .message (.foundSolution solution) := by
      cases arrival with
      | message m => cases m <;> simp_all [Arrival.solves]
      | nothing | closed | failed => cases solves
    rw [pass_eq, sends]
    unfold step
    rw [stage, heard]
    exact ⟨rfl, stage_wait _⟩
  · exact quiet_of_quiet stage fair

/-- Once a solution was received, nothing is sent any more. -/
theorem sentIn_of_solves {before after : List Moment} {arrival : Arrival ReportMessage}
    (fair : ∀ moment ∈ m :: after, moment.Fair) (heard : m.event = .received arrival)
    (solves : arrival.solves = true) : s.sentIn (before ++ m :: after) = s.sentIn before := by
  obtain ⟨now, later⟩ := List.forall_mem_cons.mp fair
  obtain ⟨nothing, quiet⟩ := quiet_of_solves (s := s.course before) now heard solves
  rw [sentIn_append, sentIn, nothing, sentIn_of_quiet quiet later, List.append_nil,
    List.append_nil]

end Session

end TrialFarm
