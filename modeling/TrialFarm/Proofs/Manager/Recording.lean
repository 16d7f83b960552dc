import Mathlib.Data.List.Induction
import Mathlib.Data.UInt
import TrialFarm.Manager.Report
import TrialFarm.Manager.Summary
import TrialFarm.Proofs.Number.Decimal
import TrialFarm.Wire.Message

/-!
# What is recorded of reports

The summary of a run keeps sums and means over the files that were reported, and the fewest flips to
a solution. The report of a run keeps some lines on each solution and each file, from which one can
tell again what was reported and in which order.

## Main definitions

* `RunSummary.Covers`: what the summary of some reports is.
* `ReportMessage.entries`: what is written about a report.
* `ReportMessage.Agrees`: reports that nobody can tell apart by what is written about them.

## Main statements

* `RunSummary.Covers.addStatistics`, `RunSummary.Covers.addSolution`: what one more report changes.
* `RunSummary.covers_enter`: what the summary is after any reports.
* `fileLines_inj`, `solutionLines_inj`: what the lines on a file and on a solution tell.
* `ReportMessage.entries_inj`: the entries tell the reports, each one once and in their order.
-/

namespace TrialFarm

/-! ### In the summary -/

/-- The statistics that a report brings, if it is on a file. -/
def ReportMessage.statistics? : ReportMessage → Option Statistics
  | .sendStatistics _ statistics => some statistics
  | .foundSolution _ | .disconnect => none

/-- The flips to a solution that a report tells of. -/
def ReportMessage.flipsToSolve : ReportMessage → List UInt64
  | .foundSolution solution => [solution.flips]
  | .sendStatistics _ statistics =>
    if statistics.timesSolved = 0 then [] else [statistics.minFlipsToSolve]
  | .disconnect => []

/-- The statistics of files among some reports. -/
def filesIn (reports : List ReportMessage) : List Statistics :=
  reports.filterMap ReportMessage.statistics?

/-- All flips to a solution that some reports tell of. -/
def flipsIn (reports : List ReportMessage) : List UInt64 :=
  reports.flatMap ReportMessage.flipsToSolve

/-- The sum of durations in milliseconds, file by file. -/
def totalMillis (micros : Statistics → UInt64) (files : List Statistics) : Binary64 :=
  files.foldl (fun total s => .ofFloat (total.toFloat + millis (micros s))) ⟨0⟩

/-- The mean of a value when more files come in, weighted with numbers of trials. Without trials
there is nothing to average. -/
def meanFrom (value : Statistics → Float) : UInt64 → Binary64 → List Statistics → Binary64
  | _, mean, [] => mean
  | before, mean, s :: files =>
    let total := before + s.instancesStarted
    meanFrom value total
      (if total = 0 then mean
        else .ofFloat ((mean.toFloat * before.toFloat + value s * s.instancesStarted.toFloat)
          / total.toFloat))
      files

/-- The mean of a value of files, weighted with the numbers of their trials. -/
def meanOf (value : Statistics → Float) (files : List Statistics) : Binary64 :=
  meanFrom value 0 ⟨0⟩ files

/-- The sums and means of a summary of some files. Sums of words are words again. -/
structure RunSummary.Totals (r : RunSummary) (files : List Statistics) : Prop where
  started : r.instancesStarted = (files.map Statistics.instancesStarted).sum
  flips : r.totalFlips = (files.map Statistics.totalFlips).sum
  solved : r.instancesSolved = (files.map Statistics.timesSolved).sum
  init : r.initMillis = totalMillis Statistics.initMicros files
  solve : r.solveMillis = totalMillis Statistics.solveMicros files
  overall : r.overallMillis = totalMillis Statistics.overallMicros files
  perSecond : r.avgFlipsPerSecond = meanOf (fun s => s.avgFlipsPerSecond.toFloat) files
  perVar : r.avgFlipsPerVar = meanOf (fun s => ratio s.totalFlips s.numVars) files
  perClause : r.avgFlipsPerClause = meanOf (fun s => ratio s.totalFlips s.numClauses) files

/-- The summary of some reports. -/
structure RunSummary.Covers (r : RunSummary) (reports : List ReportMessage) : Prop where
  totals : r.Totals (filesIn reports)
  /-- The fewest flips are those of a report, unless there is no solution, -/
  fewest : r.minFlipsToSolve ∈ Statistics.unsolved :: flipsIn reports
  /-- and no report has fewer. -/
  fewest_le : ∀ flips ∈ flipsIn reports, r.minFlipsToSolve ≤ flips

section Concat

variable (reports : List ReportMessage) (files : List Statistics) (s : Statistics)

/-- One report more is one file more if it has statistics. -/
theorem filesIn_concat (m : ReportMessage) :
    filesIn (reports ++ [m]) = filesIn reports ++ m.statistics?.toList := by
  rw [filesIn, List.filterMap_append]
  cases m <;> rfl

theorem flipsIn_concat (m : ReportMessage) :
    flipsIn (reports ++ [m]) = flipsIn reports ++ m.flipsToSolve := by
  rw [flipsIn, List.flatMap_append, List.flatMap_singleton]
  rfl

theorem sum_map_concat (count : Statistics → UInt64) :
    ((files ++ [s]).map count).sum = (files.map count).sum + count s := by
  rw [List.map_append, List.sum_append, List.map_singleton, List.sum_singleton]

/-- The total time grows by the time of the last file, rounded. -/
theorem totalMillis_concat (micros : Statistics → UInt64) :
    totalMillis micros (files ++ [s]) =
      .ofFloat ((totalMillis micros files).toFloat + millis (micros s)) := by
  rw [totalMillis, List.foldl_append]
  rfl

/-- The mean over files is the mean before the last one, brought up to date with it. -/
theorem meanFrom_concat (value : Statistics → Float) (before : UInt64) (mean : Binary64) :
    meanFrom value before mean (files ++ [s]) =
      meanFrom value (before + (files.map Statistics.instancesStarted).sum)
        (meanFrom value before mean files) [s] := by
  induction files generalizing before mean with
  | nil => rw [List.map_nil, List.sum_nil, UInt64.add_zero, List.nil_append, meanFrom]
  | cons first files ih =>
    rw [List.cons_append, meanFrom, ih, List.map_cons, List.sum_cons, ← UInt64.add_assoc]
    rfl

/-- The mean when one more file comes in. -/
theorem meanOf_concat (value : Statistics → Float) :
    meanOf value (files ++ [s]) =
      meanFrom value (files.map Statistics.instancesStarted).sum (meanOf value files) [s] := by
  rw [meanOf, meanFrom_concat, UInt64.zero_add]
  rfl

end Concat

namespace RunSummary

variable {r : RunSummary} {reports : List ReportMessage}

/-- The empty summary covers no reports. -/
theorem covers_empty : empty.Covers [] where
  totals := ⟨rfl, rfl, rfl, rfl, rfl, rfl, rfl, rfl, rfl⟩
  fewest := List.mem_cons_self
  fewest_le _ member := nomatch member

/-- The averages are means, also with one more file. -/
theorem addAverages_spec (r : RunSummary) (s : Statistics) :
    (r.addAverages s).avgFlipsPerSecond = meanFrom (fun s => s.avgFlipsPerSecond.toFloat)
      r.instancesStarted r.avgFlipsPerSecond [s] ∧
    (r.addAverages s).avgFlipsPerVar = meanFrom (fun s => ratio s.totalFlips s.numVars)
      r.instancesStarted r.avgFlipsPerVar [s] ∧
    (r.addAverages s).avgFlipsPerClause = meanFrom (fun s => ratio s.totalFlips s.numClauses)
      r.instancesStarted r.avgFlipsPerClause [s] := by
  simp only [addAverages, meanFrom]
  split
  · exact ⟨rfl, rfl, rfl⟩
  · exact ⟨rfl, rfl, rfl⟩

/-- The statistics of one more file are added to the sums and weighed into the means. -/
theorem Totals.addStatistics {files : List Statistics} (totals : r.Totals files)
    (s : Statistics) : (r.addStatistics s).Totals (files ++ [s]) := by
  obtain ⟨perSecond, perVar, perClause⟩ := r.addAverages_spec s
  refine ⟨?_, ?_, ?_, ?_, ?_, ?_, ?_, ?_, ?_⟩
  · rw [sum_map_concat, ← totals.started]
    rfl
  · rw [sum_map_concat, ← totals.flips]
    rfl
  · rw [sum_map_concat, ← totals.solved]
    rfl
  · rw [totalMillis_concat, ← totals.init]
    rfl
  · rw [totalMillis_concat, ← totals.solve]
    rfl
  · rw [totalMillis_concat, ← totals.overall]
    rfl
  · rw [meanOf_concat, ← totals.started, ← totals.perSecond]
    exact perSecond
  · rw [meanOf_concat, ← totals.started, ← totals.perVar]
    exact perVar
  · rw [meanOf_concat, ← totals.started, ← totals.perClause]
    exact perClause

/-- The fewest flips when some more are told of. -/
theorem Covers.min_mem (covers : r.Covers reports) (flips : UInt64) :
    min r.minFlipsToSolve flips ∈ Statistics.unsolved :: (flipsIn reports ++ [flips]) ∧
      ∀ other ∈ flipsIn reports ++ [flips], min r.minFlipsToSolve flips ≤ other := by
  constructor
  · rcases Std.min_eq_or (a := r.minFlipsToSolve) (b := flips) with same | same
    · rw [same, ← List.cons_append]
      exact List.mem_append_left _ covers.fewest
    · rw [same]
      simp
  · intro other member
    rcases List.mem_append.mp member with early | last
    · exact UInt64.le_trans Std.min_le_left (covers.fewest_le other early)
    · rw [List.mem_singleton.mp last]
      exact Std.min_le_right

/-- A file that was solved may have fewer flips to a solution. -/
theorem Covers.addStatistics (covers : r.Covers reports) (file : TaskFile) (s : Statistics) :
    (r.addStatistics s).Covers (reports ++ [.sendStatistics file s]) := by
  have files : filesIn (reports ++ [.sendStatistics file s]) = filesIn reports ++ [s] :=
    filesIn_concat ..
  have solved : flipsIn (reports ++ [.sendStatistics file s]) = flipsIn reports ++
      if s.timesSolved = 0 then [] else [s.minFlipsToSolve] := flipsIn_concat ..
  refine ⟨files ▸ covers.totals.addStatistics s, ?_, ?_⟩
  all_goals
    rw [solved, RunSummary.addStatistics]
    dsimp only
    split
  · rw [List.append_nil]
    exact covers.fewest
  · exact (covers.min_mem s.minFlipsToSolve).1
  · rw [List.append_nil]
    exact covers.fewest_le
  · exact (covers.min_mem s.minFlipsToSolve).2

/-- A solution may have fewer flips, and changes nothing else. -/
theorem Covers.addSolution (covers : r.Covers reports) (solution : Solution) :
    (r.addSolution solution).Covers (reports ++ [.foundSolution solution]) := by
  have files : filesIn (reports ++ [.foundSolution solution]) = filesIn reports :=
    (filesIn_concat ..).trans (List.append_nil _)
  have solved : flipsIn (reports ++ [.foundSolution solution]) =
      flipsIn reports ++ [solution.flips] := flipsIn_concat ..
  have totals := covers.totals
  have least := covers.min_mem solution.flips
  rw [← solved] at least
  rw [← files] at totals
  exact ⟨⟨totals.started, totals.flips, totals.solved, totals.init, totals.solve, totals.overall,
    totals.perSecond, totals.perVar, totals.perClause⟩, least.1, least.2⟩

/-- Enters a report into a summary. -/
def enter (r : RunSummary) : ReportMessage → RunSummary
  | .foundSolution solution => r.addSolution solution
  | .sendStatistics _ statistics => r.addStatistics statistics
  | .disconnect => r

/-- What is entered is covered. -/
theorem Covers.enter (covers : r.Covers reports) (m : ReportMessage) :
    (r.enter m).Covers (reports ++ [m]) := by
  cases m with
  | foundSolution solution => exact covers.addSolution solution
  | sendStatistics file statistics => exact covers.addStatistics file statistics
  | disconnect =>
    have files : filesIn (reports ++ [.disconnect]) = filesIn reports :=
      (filesIn_concat ..).trans (List.append_nil _)
    have solved : flipsIn (reports ++ [.disconnect]) = flipsIn reports :=
      (flipsIn_concat ..).trans (List.append_nil _)
    exact ⟨files ▸ covers.totals, solved ▸ covers.fewest, solved ▸ covers.fewest_le⟩

/-- What the summary is after any reports. -/
theorem covers_enter (reports : List ReportMessage) :
    (reports.foldl enter empty).Covers reports := by
  induction reports using List.reverseRecOn with
  | nil => exact covers_empty
  | append_singleton reports m ih =>
    rw [List.foldl_append]
    exact ih.enter m

end RunSummary

/-! ### In the report -/

/-- What is written about a report. -/
def ReportMessage.entries : ReportMessage → List Entry
  | .foundSolution solution => Entry.block (solutionLines solution)
  | .sendStatistics file statistics => Entry.block (fileLines file statistics)
  | .disconnect => []

/-- The entry belongs to the report. -/
def Entry.reports : Entry → Bool
  | .notice _ => false
  | .line _ | .gap => true

/-- What a message puts into the report is there to be read. -/
theorem ReportMessage.reports_of_mem_entries {m : ReportMessage} {e : Entry}
    (member : e ∈ m.entries) : e.reports = true := by
  have block (lines : List String) (inside : e ∈ Entry.block lines) : e.reports = true := by
    simp only [Entry.block, List.mem_append, List.mem_map, List.mem_singleton] at inside
    rcases inside with ⟨text, -, rfl⟩ | rfl <;> rfl
  cases m with
  | foundSolution solution => exact block _ member
  | sendStatistics file statistics => exact block _ member
  | disconnect => cases member

/-- Statistics that agree in all that is shown of them. -/
structure Statistics.Agrees (s t : Statistics) : Prop where
  started : s.instancesStarted = t.instancesStarted
  flips : s.totalFlips = t.totalFlips
  perSecond : s.avgFlipsPerSecond.shown = t.avgFlipsPerSecond.shown
  init : s.initMicros = t.initMicros
  solve : s.solveMicros = t.solveMicros
  overall : s.overallMicros = t.overallMicros
  vars : s.numVars = t.numVars
  clauses : s.numClauses = t.numClauses
  solved : s.timesSolved = t.timesSolved
  fewest : s.timesSolved ≠ 0 → s.minFlipsToSolve = t.minFlipsToSolve

/-- Solutions that agree in all that is shown of them. -/
structure Solution.Agrees (a b : Solution) : Prop where
  filename : a.filename = b.filename
  seed : a.seed = b.seed
  flips : a.flips = b.flips
  duration : shownFloat (millis a.solveMicros) = shownFloat (millis b.solveMicros)
  rate : shownFloat a.rate = shownFloat b.rate
  vars : a.numVars = b.numVars
  clauses : a.numClauses = b.numClauses

/-- Reports of the same kind, on the same file, that agree in all that is shown of them. -/
inductive ReportMessage.Agrees : ReportMessage → ReportMessage → Prop
  | solution {a b : Solution} (agrees : a.Agrees b) : Agrees (.foundSolution a) (.foundSolution b)
  | statistics {file : TaskFile} {s t : Statistics} (agrees : s.Agrees t) :
      Agrees (.sendStatistics file s) (.sendStatistics file t)

theorem toString_word_inj {a b : UInt64} : toString a = toString b ↔ a = b :=
  (Integer.toString_inj (m := a.toNat) (n := b.toNat)).trans UInt64.toNat_inj

/-- The lines on a file tell which file it is, and its statistics. -/
theorem fileLines_inj {f g : TaskFile} {s t : Statistics} (same : fileLines f s = fileLines g t) :
    f = g ∧ s.Agrees t := by
  simp only [fileLines, List.cons_append, List.nil_append, List.cons.injEq, String.append_left_inj,
    String.append_right_inj, toString_word_inj] at same
  obtain ⟨name, vars, clauses, started, flips, perSecond, -, -, init, solve, overall, solved,
    fewest⟩ := same
  obtain ⟨trials, configs⟩ : s.instancesStarted = t.instancesStarted ∧
      f.startConfigs = g.startConfigs := by
    rw [String.append_assoc, String.append_assoc] at started
    obtain ⟨counts, bounds⟩ := (Integer.toString_append_inj (by decide)).mp started
    exact ⟨UInt64.toNat_inj.mp counts, UInt32.toNat_inj.mp (Integer.toString_inj.mp bounds)⟩
  obtain ⟨total, maxFlips⟩ : s.totalFlips = t.totalFlips ∧ f.maxFlips = g.maxFlips := by
    simp only [String.append_assoc] at flips
    obtain ⟨counts, bounds⟩ := (Integer.toString_append_inj (by decide)).mp flips
    obtain ⟨most, -⟩ := (Integer.toString_append_inj (by decide)).mp bounds
    exact ⟨UInt64.toNat_inj.mp counts, UInt32.toNat_inj.mp most⟩
  obtain ⟨fConfigs, fMax, fName⟩ := f
  obtain rfl : fName = g.filename := name
  obtain rfl : fConfigs = g.startConfigs := configs
  obtain rfl : fMax = g.maxFlips := maxFlips
  refine ⟨rfl, trials, total, perSecond, init, solve, overall, vars, clauses, solved,
    fun some => ?_⟩
  rw [if_neg some, if_neg (solved ▸ some)] at fewest
  simpa [RunSummary.minFlipsLine, toString_word_inj] using fewest

/-- The lines on a solution tell which one it is. -/
theorem solutionLines_inj {a b : Solution} (same : solutionLines a = solutionLines b) :
    a.Agrees b := by
  simp only [solutionLines, List.cons.injEq, String.append_left_inj, String.append_right_inj,
    toString_word_inj] at same
  obtain ⟨-, filename, seed, flips, duration, vars, clauses, rate, -⟩ := same
  exact ⟨filename, seed, flips, duration, rate, vars, clauses⟩

/-- The lines of a solution cannot be taken for those of a file. -/
theorem solutionLines_ne_fileLines (a : Solution) (f : TaskFile) (s : Statistics) :
    solutionLines a ≠ fileLines f s := by
  intro same
  have first := congrArg (fun text => text.toList.head?) (List.cons.inj same).1
  simp at first

/-- Lines that belong together end at the first empty line behind them. -/
theorem Entry.block_append_inj {lines others : List String} {rest rest' : List Entry} :
    block lines ++ rest = block others ++ rest' ↔ lines = others ∧ rest = rest' := by
  have block_append (lines : List String) (rest : List Entry) :
      block lines ++ rest = lines.map line ++ gap :: rest := by
    rw [block, List.append_assoc, List.singleton_append]
  rw [block_append, block_append]
  induction lines generalizing others with
  | nil => cases others <;> simp
  | cons first lines ih =>
    cases others with
    | nil => simp
    | cons other others => simp [ih, and_assoc]

/-- Something is written about every report. -/
theorem ReportMessage.entries_eq_nil_iff {m : ReportMessage} :
    m.entries = [] ↔ m = .disconnect := by
  cases m <;> simp [entries, Entry.block]

/-- What is written first tells the first report. -/
theorem ReportMessage.entries_append_inj {m other : ReportMessage} {rest rest' : List Entry}
    (stays : m ≠ .disconnect) (stay : other ≠ .disconnect)
    (same : m.entries ++ rest = other.entries ++ rest') : m.Agrees other ∧ rest = rest' := by
  cases m with
  | disconnect => exact absurd rfl stays
  | foundSolution a =>
    cases other with
    | disconnect => exact absurd rfl stay
    | foundSolution b =>
      obtain ⟨lines, rest⟩ := Entry.block_append_inj.mp same
      exact ⟨.solution (solutionLines_inj lines), rest⟩
    | sendStatistics file s =>
      exact absurd (Entry.block_append_inj.mp same).1 (solutionLines_ne_fileLines a file s)
  | sendStatistics file s =>
    cases other with
    | disconnect => exact absurd rfl stay
    | foundSolution b =>
      exact absurd (Entry.block_append_inj.mp same).1.symm (solutionLines_ne_fileLines b file s)
    | sendStatistics other t =>
      obtain ⟨lines, rest⟩ := Entry.block_append_inj.mp same
      obtain ⟨rfl, agrees⟩ := fileLines_inj lines
      exact ⟨.statistics agrees, rest⟩

/-- What is written about reports tells them, each one once and in their order. -/
theorem ReportMessage.entries_inj {reports others : List ReportMessage}
    (stays : .disconnect ∉ reports) (stay : .disconnect ∉ others)
    (same : reports.flatMap entries = others.flatMap entries) :
    List.Forall₂ Agrees reports others := by
  induction reports generalizing others with
  | nil =>
    cases others with
    | nil => exact .nil
    | cons other others =>
      rw [List.flatMap_nil, List.flatMap_cons] at same
      have leaves := entries_eq_nil_iff.mp (List.append_eq_nil_iff.mp same.symm).1
      exact absurd (leaves ▸ List.mem_cons_self) stay
  | cons m reports ih =>
    cases others with
    | nil =>
      rw [List.flatMap_nil, List.flatMap_cons] at same
      have leaves := entries_eq_nil_iff.mp (List.append_eq_nil_iff.mp same).1
      exact absurd (leaves ▸ List.mem_cons_self) stays
    | cons other others =>
      rw [List.mem_cons, not_or] at stays stay
      rw [List.flatMap_cons, List.flatMap_cons] at same
      obtain ⟨agrees, rest⟩ := entries_append_inj (Ne.symm stays.1) (Ne.symm stay.1) same
      exact .cons agrees (ih stays.2 stay.2 rest)

end TrialFarm
