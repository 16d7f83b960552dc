import TrialFarm.Proofs.Manager.Moments

/-!
# The correspondence of a session with its server

Whatever the order of lines and messages is, a session sends what the commands stand for that it
meets before it stops taking any, tells the server at most once to end the run, and then nothing
more. It records what the server reports until the server leaves, each report once and in order, and
it ends when the server leaves and not before.

## Main definitions

* `Session.Records`: what a session has recorded between two states.
* `Session.Attentive`: the session goes on, and its server is there.
* `Interleaves`: the moments come from a script and from the arrivals of a connection.
* `Session.Corresponds`: what is known of a session of which some moments have passed.

## Main statements

* `Session.Attentive.goes`, `Session.Attentive.sends_eq`: what one moment does.
* `Session.Attentive.course_records`, `Session.Attentive.sentIn_eq`: what any moments do.
* `Session.corresponds_of_fair`: a session neither loses nor repeats anything.
-/

namespace TrialFarm

open Wire

namespace Session

variable {s s' s₁ : Session} {m : Moment} {moments : List Moment}

/-! ### What a session records -/

/-- What was written for the report. -/
def report (s : Session) : List Entry := s.written.filter Entry.reports

/-- Between two states of a session these reports were recorded, in this order, and nothing else. -/
structure Records (s s' : Session) (reports : List ReportMessage) : Prop where
  summary : s'.summary = reports.foldl RunSummary.enter s.summary
  report : s'.report = s.report ++ reports.flatMap ReportMessage.entries

theorem Records.none (summary : s'.summary = s.summary) (report : s'.report = s.report) :
    s.Records s' [] :=
  ⟨summary, by rw [report, List.flatMap_nil, List.append_nil]⟩

/-- A session that records some reports and then others has recorded them all, in order. -/
theorem Records.append {reports more : List ReportMessage} (first : s.Records s₁ reports)
    (later : s₁.Records s' more) : s.Records s' (reports ++ more) where
  summary := by rw [later.summary, first.summary, List.foldl_append]
  report := by rw [later.report, first.report, List.flatMap_append, List.append_assoc]

/-- One report is recorded once. -/
theorem records_record (s : Session) (r : ReportMessage) : s.Records (s.record r) [r] where
  summary := by cases r <;> rfl
  report := by
    have written : (s.record r).written = s.written ++ r.entries := by
      cases r with
      | foundSolution | sendStatistics => rfl
      | disconnect => exact (List.append_nil _).symm
    rw [report, written, List.filter_append,
      List.filter_eq_self.mpr fun _ member => ReportMessage.reports_of_mem_entries member,
      List.flatMap_singleton]
    rfl

/-! ### Sessions whose server is there -/

/-- The session goes on, and its server is there. -/
structure Attentive (s : Session) : Prop where
  here : s.serverGone = false
  unended : ∀ result, s.stage ≠ .ended result
  unsolved : s.stage = .commanding → s.solutionFound = false

theorem attentive_start (settings : SessionSettings) : (start settings).Attentive :=
  ⟨rfl, nofun, fun _ => rfl⟩

theorem wait_eq (here : s.serverGone = false) : s.wait = { s with stage := .waiting } := by
  rw [wait, if_neg (Bool.eq_false_iff.mp here)]

/-- Nothing keeps a session from telling its server to end the run. -/
theorem leave_eq (here : s.serverGone = false) {n : Surroundings} (working : n.Working) :
    ∃ n', leave Surroundings.office.recorded s (n, []) =
      ({ s with stage := .leaving }, (n', [.terminate])) := by
  obtain ⟨n', -, told⟩ := working.send_of_fits (m := .terminate) (Nat.zero_le _) []
  exact ⟨n', by rw [leave, if_neg (Bool.eq_false_iff.mp here), told]; rfl⟩

/-- What a command makes of a session. -/
def heed (s : Session) : Command → Session
  | .help => s.write [.notice (Command.overview ++ "\n")]
  | .addWorkers .. | .addFile .. => s
  | .waitForServer => { s with stage := .waiting }
  | .exit => { s with stage := .leaving }

/-- What a session sends for a command. -/
def voice (s : Session) (n : Surroundings) (command : Command) : List ManagerMessage :=
  command.orders s.settings.maxConnections n.files.resolve ++
    if command = .exit then [.terminate] else []

/-- A session that has no solution yet and whose surroundings work carries out any command. -/
theorem execute_eq (here : s.serverGone = false) (unsolved : s.solutionFound = false)
    (positive : 0 < s.settings.maxConnections) {n : Surroundings} (working : n.Working)
    (command : Command) :
    ∃ n', execute Surroundings.office.recorded s (n, []) command =
      (s.heed command, (n', s.voice n command)) := by
  cases command with
  | help => exact ⟨n, rfl⟩
  | addWorkers count arguments =>
    obtain ⟨n', -, done⟩ := addWorkers_orders here unsolved positive count arguments working []
    exact ⟨n', done.trans (by simp [heed, voice])⟩
  | addFile startConfigs maxFlips path =>
    obtain ⟨n', -, done⟩ := addFile_orders here unsolved startConfigs maxFlips path working []
    exact ⟨n', done.trans (by simp [heed, voice])⟩
  | waitForServer => exact ⟨n, congrArg (·, (n, [])) (wait_eq here)⟩
  | exit => exact leave_eq here working

/-! ### One moment -/

/-- A line of input is executed if it is a command and passed over otherwise. -/
theorem step_line {ν : Type} {office : Office ν} {n : ν} (taking : s.stage = .commanding)
    (text : String) :
    s.step office n (.line text) =
      match Command.on? text with
      | some command => execute office s n command
      | none => (s, n) := by
  unfold step
  rw [taking, Command.on?]
  dsimp only
  unfold onLine
  rcases Command.parse text with _ | _ | _ <;> rfl

/-- At the end of its input the session takes its leave. -/
theorem step_inputEnded {ν : Type} {office : Office ν} {n : ν} (taking : s.stage = .commanding) :
    s.step office n .inputEnded = leave office s n := by
  unfold step
  rw [taking]

/-- What the server says is heard between commands, and the office has no part in it. -/
theorem step_received {ν : Type} {office : Office ν} {n : ν} (taking : s.stage = .commanding)
    (arrival : Arrival ReportMessage) :
    s.step office n (.received arrival) = (s.onArrivalCommanding arrival, n) := by
  unfold step
  rw [taking]

/-- A session that takes commands carries out the one on a line. -/
theorem meets_line (attentive : s.Attentive) (taking : s.stage = .commanding)
    (positive : 0 < s.settings.maxConnections) (fair : m.Fair) {text : String} {command : Command}
    (read : m.event = .line text) (valid : Command.on? text = some command) :
    s.pass m = s.heed command ∧ s.sends m = s.voice m.surroundings command := by
  have working : m.surroundings.Working := by simpa [Moment.Fair, read] using fair
  obtain ⟨n', done⟩ :=
    execute_eq attentive.here (attentive.unsolved taking) positive working command
  rw [pass_eq, sends, read, step_line taking, valid]
  dsimp only
  rw [done]
  exact ⟨rfl, rfl⟩

/-- At the end of its input it tells the server to end the run. -/
theorem meets_end (attentive : s.Attentive) (taking : s.stage = .commanding) (fair : m.Fair)
    (ends : m.event = .inputEnded) :
    s.pass m = { s with stage := .leaving } ∧ s.sends m = [.terminate] := by
  have working : m.surroundings.Working := by simpa [Moment.Fair, ends] using fair
  obtain ⟨n', done⟩ := leave_eq attentive.here working
  rw [pass_eq, sends, ends, step_inputEnded taking, done]
  exact ⟨rfl, rfl⟩

/-- The session goes on with its settings, and these reports are recorded. -/
structure Goes (s s' : Session) (reports : List ReportMessage) : Prop extends
    Records s s' reports where
  attentive : s'.Attentive
  settings : s'.settings = s.settings

theorem Attentive.refl (attentive : s.Attentive) : s.Goes s [] :=
  ⟨.none rfl rfl, attentive, rfl⟩

/-- An attentive session records nothing when it takes a command. -/
theorem Attentive.heed (attentive : s.Attentive) (command : Command) :
    s.Goes (s.heed command) [] := by
  cases command with
  | help =>
    exact ⟨.none rfl (by simp [Session.heed, report, write, Entry.reports]),
      ⟨attentive.here, attentive.unended, attentive.unsolved⟩, rfl⟩
  | addWorkers | addFile => exact attentive.refl
  | waitForServer | exit => exact ⟨.none rfl rfl, ⟨attentive.here, nofun, nofun⟩, rfl⟩

/-- An attentive session that is sent statistics records them and stays attentive. -/
theorem Attentive.goes_statistics (attentive : s.Attentive) (file : TaskFile)
    (statistics : Statistics) :
    s.Goes (s.record (.sendStatistics file statistics)) [.sendStatistics file statistics] :=
  ⟨records_record s _, ⟨attentive.here, attentive.unended, attentive.unsolved⟩, rfl⟩

/-- A solution may come while the session waits, or make it wait. -/
theorem Attentive.goes_solution (attentive : s.Attentive) (solution : Solution) :
    (s.stage ≠ .commanding →
      s.Goes (s.record (.foundSolution solution)) [.foundSolution solution]) ∧
    s.Goes (s.record (.foundSolution solution)).wait [.foundSolution solution] := by
  have recorded := records_record s (.foundSolution solution)
  constructor
  · intro quiet
    exact ⟨recorded, ⟨attentive.here, attentive.unended, fun taking => absurd taking quiet⟩, rfl⟩
  · rw [wait_eq (s := s.record (.foundSolution solution)) attentive.here]
    exact ⟨⟨recorded.summary, recorded.report⟩, ⟨attentive.here, nofun, nofun⟩, rfl⟩

/-- A session that does not take commands passes over lines and the end of the input. -/
theorem pass_of_unheard (quiet : s.stage ≠ .commanding) (fair : m.Fair)
    (unheard : m.event.arrival? = none) : s.pass m = s := by
  unfold pass step
  unfold Moment.Fair at fair
  cases event : m.event with
  | line | inputEnded =>
    cases stage : s.stage with
    | commanding => exact absurd stage quiet
    | waiting | leaving | ended => rfl
  | received arrival => simp [event, SessionEvent.arrival?] at unheard
  | timeout => simp [event] at fair

/-- Whatever the session does, a message of a server that stays is recorded. -/
theorem Attentive.goes_message (attentive : s.Attentive) {r : ReportMessage}
    (heard : m.event = .received (.message r)) (stays : r ≠ .disconnect) :
    s.Goes (s.pass m) [r] := by
  unfold pass step
  rw [heard]
  cases r with
  | foundSolution solution =>
    obtain ⟨quietly, waiting⟩ := attentive.goes_solution solution
    cases stage : s.stage with
    | commanding => exact waiting
    | waiting | leaving => exact quietly (by simp [stage])
    | ended result => exact absurd stage (attentive.unended result)
  | sendStatistics file statistics =>
    cases stage : s.stage with
    | commanding | waiting | leaving => exact attentive.goes_statistics file statistics
    | ended result => exact absurd stage (attentive.unended result)
  | disconnect => exact absurd rfl stays

/-- As long as the server stays, what it sends is recorded and the session goes on. -/
theorem Attentive.goes (attentive : s.Attentive) (positive : 0 < s.settings.maxConnections)
    (fair : m.Fair) (stays : m.Stays) : s.Goes (s.pass m) m.messages := by
  unfold Moment.messages
  cases event : m.event with
  | line text =>
    by_cases taking : s.stage = .commanding
    · cases valid : Command.on? text with
      | none =>
        rw [pass, event, step_line taking, valid]
        exact attentive.refl
      | some command =>
        rw [(meets_line attentive taking positive fair event valid).1]
        exact attentive.heed command
    · rw [pass_of_unheard taking fair (by rw [event]; rfl)]
      exact attentive.refl
  | inputEnded =>
    by_cases taking : s.stage = .commanding
    · rw [(meets_end attentive taking fair event).1]
      exact ⟨.none rfl rfl, ⟨attentive.here, nofun, nofun⟩, rfl⟩
    · rw [pass_of_unheard taking fair (by rw [event]; rfl)]
      exact attentive.refl
  | received arrival =>
    have there := stays arrival event
    cases arrival with
    | nothing =>
      have same : s.pass m = s := by
        unfold pass step
        rw [event]
        cases s.stage <;> rfl
      rw [same]
      exact attentive.refl
    | message r =>
      refine attentive.goes_message event ?_
      rintro rfl
      cases there
    | closed => cases there
    | failed e => simp [Moment.Fair, event] at fair
  | timeout => simp [Moment.Fair, event] at fair

/-- A session that takes commands sends what it is told, and what ends the run. -/
theorem Attentive.sends_eq (attentive : s.Attentive) (taking : s.stage = .commanding)
    (positive : 0 < s.settings.maxConnections) (fair : m.Fair) :
    s.sends m = m.orders s.settings.maxConnections ++ m.event.farewell := by
  cases event : m.event with
  | line text =>
    have told : m.event.command? = Command.on? text := by rw [event]; rfl
    cases valid : Command.on? text with
    | none =>
      rw [sends, event, step_line taking, valid, Moment.orders_of_untold (told.trans valid),
        SessionEvent.farewell, valid]
      rfl
    | some command =>
      rw [(meets_line attentive taking positive fair event valid).2,
        Moment.orders_of_told (told.trans valid), SessionEvent.farewell, valid]
      simp [voice]
  | inputEnded =>
    rw [(meets_end attentive taking fair event).2, Moment.orders_of_untold (by rw [event]; rfl)]
    rfl
  | received arrival =>
    rw [sends, event, step_received taking, Moment.orders_of_untold (by rw [event]; rfl)]
    rfl
  | timeout => simp [Moment.Fair, event] at fair

/-- It goes on to take commands unless it stops. -/
theorem Attentive.taking_iff (attentive : s.Attentive) (taking : s.stage = .commanding)
    (positive : 0 < s.settings.maxConnections) (fair : m.Fair) :
    (s.pass m).stage = .commanding ↔ m.event.stops = false := by
  cases event : m.event with
  | line text =>
    rw [SessionEvent.stops]
    cases valid : Command.on? text with
    | none =>
      rw [pass, event, step_line taking, valid]
      exact iff_of_true taking rfl
    | some command =>
      rw [(meets_line attentive taking positive fair event valid).1, Option.any_some]
      cases command with
      | help | addWorkers | addFile => exact iff_of_true taking rfl
      | waitForServer | exit => exact iff_of_false SessionStage.noConfusion Bool.noConfusion
  | inputEnded =>
    rw [(meets_end attentive taking fair event).1]
    exact iff_of_false SessionStage.noConfusion Bool.noConfusion
  | received arrival =>
    rw [pass, event, step_received taking]
    cases arrival with
    | nothing => exact iff_of_true taking rfl
    | closed => exact iff_of_false SessionStage.noConfusion Bool.noConfusion
    | message r =>
      cases r with
      | foundSolution solution => exact iff_of_false (stage_wait _) Bool.noConfusion
      | sendStatistics file statistics => exact iff_of_true taking rfl
      | disconnect => exact iff_of_false SessionStage.noConfusion Bool.noConfusion
    | failed e => simp [Moment.Fair, event] at fair
  | timeout => simp [Moment.Fair, event] at fair

/-! ### Any moments -/

/-- Whatever the session does, it ends when the server leaves. -/
theorem Attentive.pass_of_parts (attentive : s.Attentive) {arrival : Arrival ReportMessage}
    (heard : m.event = .received arrival) (parts : arrival.parts = true) :
    s.pass m = { s with serverGone := true, stage := .ended (.ok ()) } := by
  unfold pass step
  rw [heard]
  cases stage : s.stage with
  | commanding | waiting | leaving =>
    cases arrival with
    | closed => rfl
    | message r =>
      cases r with
      | disconnect => rfl
      | foundSolution | sendStatistics => cases parts
    | nothing | failed => cases parts
  | ended result => exact absurd stage (attentive.unended result)

/-- Until the server leaves a session goes on and records what it sends. Then it ends. -/
theorem Attentive.course_records (attentive : s.Attentive)
    (positive : 0 < s.settings.maxConnections) (fair : ∀ m ∈ moments, m.Fair) :
    s.Records (s.course moments) (reportsIn (arrivalsIn moments)) ∧
      ((arrivalsIn moments).any Arrival.parts = false → (s.course moments).Attentive) ∧
      ((arrivalsIn moments).any Arrival.parts = true →
        (s.course moments).stage = .ended (.ok ())) := by
  induction moments generalizing s with
  | nil => exact ⟨.none rfl rfl, fun _ => attentive, nofun⟩
  | cons m moments ih =>
    by_cases stays : m.Stays
    · have goes := attentive.goes positive (fair m List.mem_cons_self) stays
      obtain ⟨records, goesOn, ends⟩ := ih goes.attentive (goes.settings ▸ positive)
        fun m member => fair m (List.mem_cons_of_mem _ member)
      obtain ⟨reports, parts⟩ := stays.cons moments
      rw [reports, parts]
      exact ⟨goes.toRecords.append records, goesOn, ends⟩
    · -- Once the server has left, neither the session nor the reports depend on what follows.
      obtain ⟨a, heard, parts⟩ : ∃ a, m.event = .received a ∧ a.parts = true := by
        simpa [Moment.Stays] using stays
      have last := attentive.pass_of_parts heard parts
      have ended : (s.pass m).stage = .ended (.ok ()) := by rw [last]
      have still : s.course (m :: moments) = s.pass m := course_of_ended ended moments
      rw [still, arrivalsIn_cons_of_received heard, reportsIn_cons_of_parts parts, last]
      exact ⟨.none rfl rfl, fun remains => by simp [parts] at remains, fun _ => rfl⟩

/-- A session that takes commands sends what it is told until it stops, and what ends the run. -/
theorem Attentive.sentIn_eq (attentive : s.Attentive) (taking : s.stage = .commanding)
    (positive : 0 < s.settings.maxConnections) (fair : ∀ m ∈ moments, m.Fair) :
    s.sentIn moments = ((toldIn moments).flatMap fun (n, command) =>
      command.orders s.settings.maxConnections n.files.resolve) ++ endingIn moments := by
  induction moments generalizing s with
  | nil => rfl
  | cons m moments ih =>
    have here := fair m List.mem_cons_self
    have goesOn := attentive.taking_iff taking positive here
    rw [sentIn, attentive.sends_eq taking positive here]
    -- The first moment that stops the session is the last one at which it says anything.
    cases stops : m.event.stops with
    | true =>
      have quiet : (s.pass m).stage ≠ .commanding := by simp [goesOn, stops]
      rw [sentIn_of_quiet quiet fun m member => fair m (List.mem_cons_of_mem _ member),
        Moment.orders_of_stops stops]
      simp [toldIn, endingIn, stops]
    | false =>
      have goes := attentive.goes positive here (Moment.stays_of_goes stops)
      have rest := ih goes.attentive (goesOn.mpr stops) (goes.settings ▸ positive)
        fun m member => fair m (List.mem_cons_of_mem _ member)
      rw [rest, goes.settings, SessionEvent.farewell_of_goes stops]
      cases told : m.told? <;> simp [toldIn, endingIn, stops, Moment.orders, told]

end Session

/-! ### Sessions and their servers -/

/-- The moments come from a script, of which some lines are not read yet, and from what arrives at a
connection, of which some is not found yet. The two may come in any order. -/
structure Interleaves (script : List String) (arrivals : List (Arrival ReportMessage))
    (moments : List Moment) : Prop where
  lines : linesIn moments <+: script
  arrivals : arrivalsIn moments <+: arrivals

namespace Session

/-- What is known of a session of which some moments have passed. -/
structure Corresponds (settings : SessionSettings) (script : List String)
    (arrivals : List (Arrival ReportMessage)) (moments : List Moment) : Prop where
  /-- The commands that are carried out are the first ones of the script. -/
  told : (toldIn moments).map Prod.snd <+: script.filterMap Command.on?
  /-- Their messages are sent, in their order, and behind them at most the end of the run. -/
  sent : (start settings).sentIn moments =
    ((toldIn moments).flatMap fun (n, command) =>
      command.orders settings.maxConnections n.files.resolve) ++ endingIn moments
  /-- The server is told at most once to end the run, and nothing more behind it. -/
  once : .terminate ∉ ((start settings).sentIn moments).dropLast
  /-- Once a solution was received nothing is sent. -/
  silent : ∀ before solution n after,
    moments = before ++ ⟨n, .received (.message (.foundSolution solution))⟩ :: after →
      (start settings).sentIn moments = (start settings).sentIn before
  /-- What the server reports before it leaves is in the summary, -/
  summary : ((start settings).course moments).summary.Covers (reportsIn (arrivalsIn moments))
  /-- and in the report, -/
  report : ((start settings).course moments).report =
    (reportsIn (arrivalsIn moments)).flatMap ReportMessage.entries
  /-- which nothing else than these reports, in this order, could have led to. -/
  legible : ∀ others : List ReportMessage, .disconnect ∉ others →
    others.flatMap ReportMessage.entries = ((start settings).course moments).report →
      List.Forall₂ ReportMessage.Agrees (reportsIn (arrivalsIn moments)) others
  /-- The session has ended exactly if the server has left, -/
  ended : ∀ result, ((start settings).course moments).stage = .ended result ↔
    result = .ok () ∧ (arrivalsIn moments).any Arrival.parts = true
  /-- and then nothing is missing. -/
  complete : (arrivalsIn moments).any Arrival.parts = true →
    reportsIn arrivals = reportsIn (arrivalsIn moments)

/-- A session neither loses nor repeats anything, whatever its script is, whatever the server sends,
and in whatever order the two come, as long as nothing fails. A configuration that passes its check
lets some workers connect (`Config.maxConnections_pos`). -/
theorem corresponds_of_fair {settings : SessionSettings} (positive : 0 < settings.maxConnections)
    {script : List String} {arrivals : List (Arrival ReportMessage)} {moments : List Moment}
    (interleaves : Interleaves script arrivals moments) (fair : ∀ m ∈ moments, m.Fair) :
    Corresponds settings script arrivals moments := by
  have attentive := attentive_start settings
  have sent := attentive.sentIn_eq rfl positive fair
  obtain ⟨records, goesOn, ends⟩ := attentive.course_records positive fair
  exact {
    told := told_prefix interleaves.lines
    sent := sent
    once := sent ▸ terminate_not_mem_dropLast settings.maxConnections moments
    silent := by
      intro before solution n after cut
      rw [cut]
      exact sentIn_of_solves (fun moment member =>
        fair moment (cut ▸ List.mem_append_right before member)) rfl rfl
    summary := records.summary ▸ RunSummary.covers_enter _
    report := records.report
    legible := fun others stay same =>
      ReportMessage.entries_inj (disconnect_not_mem_reportsIn _) stay
        (records.report.symm.trans same.symm)
    ended := by
      intro result
      cases left : (arrivalsIn moments).any Arrival.parts with
      | true =>
        rw [ends left, SessionStage.ended.injEq, eq_comm]
        exact (and_iff_left rfl).symm
      | false => exact iff_of_false ((goesOn left).unended result) fun both => nomatch both.2
    complete := reportsIn_of_prefix interleaves.arrivals }

/-- The solution comes before the session is told to stop, and is not the last message. -/
theorem corresponds_of_fair_solved :
    let settings : SessionSettings := ⟨2, 1000⟩
    let n : Surroundings := ⟨Line.fresh true, [], fun _ => none, ⟨[], fun _ => none⟩⟩
    let script := ["add_workers 3", "add_file 5 0 a.cnf", "exit"]
    let arrivals : List (Arrival ReportMessage) :=
      [.message (.foundSolution default), .message (.sendStatistics default default),
        .message .disconnect]
    let moments : List Moment :=
      [⟨n, .line "add_workers 3"⟩, ⟨n, .line "add_file 5 0 a.cnf"⟩,
        ⟨n, .received (.message (.foundSolution default))⟩, ⟨n, .line "exit"⟩,
        ⟨n, .received (.message (.sendStatistics default default))⟩,
        ⟨n, .received (.message .disconnect)⟩]
    0 < settings.maxConnections ∧ Interleaves script arrivals moments ∧
      (∀ m ∈ moments, m.Fair) ∧ Corresponds settings script arrivals moments := by
  intro settings n script arrivals moments
  have working : n.Working := ⟨rfl, rfl, fun _ => rfl⟩
  have interleaves : Interleaves script arrivals moments := ⟨List.prefix_rfl, List.prefix_rfl⟩
  have fair : ∀ m ∈ moments, m.Fair := by
    simp [moments, Moment.Fair, working]
  exact ⟨by decide, interleaves, fair, corresponds_of_fair (by decide) interleaves fair⟩

end Session

end TrialFarm
