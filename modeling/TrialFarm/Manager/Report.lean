/-!
# Reports

What the manager writes goes to the console, where each line of the report is marked, and without
the marks to a file. The console also shows what is not part of the report.

## Main definitions

* `Entry`: something the manager writes.
* `Entry.block`: lines that belong together.
* `consoleText`, `reportText`, `fileText`, `noticeText`: what entries look like where.
-/

namespace TrialFarm

/-- Something the manager writes. -/
inductive Entry where
  /-- A line of the report. -/
  | line (text : String)
  /-- The empty line after lines that belong together. -/
  | gap
  /-- A text for the console as it is, which is not part of the report. -/
  | notice (text : String)
  deriving DecidableEq, Repr

namespace Entry

/-- Lines that belong together. -/
def block (lines : List String) : List Entry :=
  lines.map line ++ [gap]

/-- An entry of the report on the console. -/
def marked : Entry → String
  | line text => "c " ++ text ++ "\n"
  | gap => "\n"
  | notice _ => ""

/-- An entry of the report in a file. -/
def plain : Entry → String
  | line text => text ++ "\n"
  | gap => "\n"
  | notice _ => ""

/-- An entry that is not part of the report. -/
def aside : Entry → String
  | notice text => text
  | _ => ""

end Entry

/-- The report on the console. -/
def reportText (entries : List Entry) : String :=
  String.join (entries.map Entry.marked)

/-- The report in a file. -/
def fileText (entries : List Entry) : String :=
  String.join (entries.map Entry.plain)

/-- What the console shows besides the report. -/
def noticeText (entries : List Entry) : String :=
  String.join (entries.map Entry.aside)

/-- All that the console shows. -/
def consoleText (entries : List Entry) : String :=
  String.join (entries.map fun e => e.marked ++ e.aside)

end TrialFarm
