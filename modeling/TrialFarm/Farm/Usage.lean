import TrialFarm.Number.Integer

/-!
# Command lines

A program's usage says which options it knows and which operand it needs. From it follow both the
help text and the meaning of the words on a command line.

## Main definitions

* `Opt`, `Usage`: the options of a program.
* `Usage.help`, `Usage.version`: what the program shows of itself.
* `Usage.read`: the meaning of the words of a command line.
* `Usage.printed`: what the program prints about itself.
-/

namespace TrialFarm

/-- What an option takes. -/
inductive Intake where
  /-- Nothing; what counts is how often the option is given. -/
  | count
  /-- Any text. -/
  | text
  /-- A path, which is not empty. -/
  | path
  /-- A number that fits into a word. -/
  | number
  deriving DecidableEq, Repr

/-- An option of a program. -/
structure Opt where
  short : Option Char
  long : String
  intake : Intake
  required : Bool
  /-- The value if the option is not given, where the help text tells it. -/
  standard : Option String
  summary : String
  deriving DecidableEq, Repr

/-- What a program can be told on its command line. -/
structure Usage where
  name : String
  summary : String
  /-- The one operand, which is required, and what it means. -/
  operand : Option (String × String)
  options : List Opt
  deriving DecidableEq, Repr

/-- What a command line tells a program. -/
structure Given where
  /-- The values of options, by their long names. -/
  values : List (String × String)
  operands : List String
  /-- How often counting options were given. -/
  verbosity : Nat
  deriving DecidableEq, Repr

namespace Given

/-- A command line that tells nothing. -/
def nothing : Given := ⟨[], [], 0⟩

/-- The value of an option. -/
def value? (g : Given) (long : String) : Option String := g.values.lookup long

/-- The value of a required option or of an option with a standard value. -/
def value (g : Given) (long standard : String) : String := (g.value? long).getD standard

end Given

/-- The meaning of a command line. -/
inductive Reading where
  /-- The program shall explain itself. -/
  | help
  /-- The program shall tell its version. -/
  | version
  /-- The command line is not one of the program's. -/
  | refused
  | given (g : Given)
  deriving DecidableEq, Repr

namespace Opt

/-- The switch that asks for the help text. -/
def help : Opt := ⟨some 'h', "help", .count, false, none, "Print help"⟩

/-- The switch that asks for the version. -/
def version : Opt := ⟨some 'V', "version", .count, false, none, "Print version"⟩

/-- The switch that asks for more messages. -/
def verbose : Opt :=
  ⟨some 'v', "verbose", .count, false, none, "Verbosity level (-v, -vv, -vvv)"⟩

/-- The place of an option's value in the help text. -/
def slot (o : Opt) : String := "<" ++ o.long.toUpper ++ ">"

/-- How an option is written. -/
def written (o : Opt) : String :=
  (match o.short with
    | some c => String.ofList ['-', c, ',', ' ']
    | none => "    ")
  ++ "--" ++ o.long
  ++ if o = verbose then "..." else if o.intake = .count then "" else " " ++ o.slot

/-- What an option means, and its value if it is not given. -/
def meaning (o : Opt) : String :=
  match o.standard with
  | none => o.summary
  | some s => o.summary ++ " [default: " ++ s ++ "]"

/-- Whether an option takes a value. -/
def accepts (o : Opt) (value : String) : Bool :=
  match o.intake with
  | .count => false
  | .text => true
  | .path => !value.isEmpty
  | .number => (Integer.readNatural (UInt64.size - 1) value.toList).isOk

end Opt

namespace Usage

/-- All options, with those that every program has. -/
def allOptions (u : Usage) : List Opt := u.options ++ [.help, .version]

/-- Two columns, the second one aligned. -/
def columns (rows : List (String × String)) : List String :=
  let width := rows.foldl (fun w (left, _) => max w left.length) 0
  rows.map fun (left, right) =>
    "  " ++ left ++ String.ofList (List.replicate (width - left.length + 2) ' ') ++ right

/-- The line that shows how the program is called. -/
def synopsis (u : Usage) : String :=
  "Usage: " ++ u.name ++ " [OPTIONS]"
  ++ String.join ((u.options.filter Opt.required).map fun o => " --" ++ o.long ++ " " ++ o.slot)
  ++ match u.operand with
    | none => ""
    | some (name, _) => " <" ++ name ++ ">"

/-- The lines with which a program explains itself. -/
def help (u : Usage) : List String :=
  [u.summary, "", u.synopsis, ""]
  ++ (match u.operand with
    | none => []
    | some (name, meaning) => ["Arguments:"] ++ columns [("<" ++ name ++ ">", meaning)] ++ [""])
  ++ ["Options:"] ++ columns (u.allOptions.map fun o => (o.written, o.meaning))

/-- The line with which a program tells its version. -/
def version (u : Usage) : String := u.name ++ " 0.1.0"

/-- Takes the value of an option, which may be given only once. -/
def store (g : Given) (o : Opt) (value : String) : Option Given :=
  if o.accepts value && (g.value? o.long).isNone then
    some { g with values := g.values ++ [(o.long, value)] }
  else none

/-- How far a command line was understood. -/
inductive Progress where
  | done (r : Reading)
  | told (g : Given)
  /-- The next word is the value of an option. -/
  | awaits (g : Given) (o : Opt)

/-- Goes on after taking a value. -/
def afterStore : Option Given → Progress
  | some g => .told g
  | none => .done .refused

/-- The most switches for more messages that are counted. -/
def mostVerbose : Nat := 255

/-- The meaning of an option with the text that is attached to it. -/
def onOption (g : Given) (o : Opt) (attached : Option String) : Progress :=
  match o.intake, attached with
  | .count, some _ => .done .refused
  | .count, none =>
    if o.long = Opt.help.long then .done .help
    else if o.long = Opt.version.long then .done .version
    else .told { g with verbosity := min mostVerbose (g.verbosity + 1) }
  | _, some value => afterStore (store g o value)
  | _, none => .awaits g o

/-- The meaning of an option by its long name. A value may follow an equals sign. -/
def onLong (u : Usage) (g : Given) (word : List Char) : Progress :=
  let name := String.ofList (word.takeWhile (· != '='))
  let attached := match word.dropWhile (· != '=') with
    | [] => none
    | _ :: value => some (String.ofList value)
  match u.allOptions.find? fun o => o.long == name with
  | none => .done .refused
  | some o => onOption g o attached

/-- The meaning of options by their letters. What follows the letter of an option with a value is
the value, perhaps after an equals sign. -/
def onShort (u : Usage) (g : Given) : List Char → Progress
  | [] => .told g
  | c :: cs =>
    match u.allOptions.find? fun o => o.short == some c with
    | none => .done .refused
    | some o =>
      if o.intake = .count then
        match onOption g o none with
        | .told g => onShort u g cs
        | progress => progress
      else
        match cs with
        | [] => .awaits g o
        | '=' :: value => onOption g o (some (String.ofList value))
        | value => onOption g o (some (String.ofList value))

/-- Takes an operand, if the program still needs one. -/
def onOperand (u : Usage) (g : Given) (word : String) : Progress :=
  if g.operands.isEmpty && u.operand.isSome then
    .told { g with operands := g.operands ++ [word] }
  else .done .refused

/-- Whether a word looks like an option. A single hyphen does not. -/
def looksLikeOption (word : String) : Bool :=
  match word.toList with
  | '-' :: _ :: _ => true
  | _ => false

/-- The meaning of a word that may be an option. -/
def onWord (u : Usage) (g : Given) (word : String) : Progress :=
  match word.toList with
  | '-' :: '-' :: name => onLong u g name
  | '-' :: c :: cs => onShort u g (c :: cs)
  | _ => onOperand u g word

/-- Checks that nothing required is missing. -/
def finish (u : Usage) (g : Given) : Reading :=
  if (u.options.all fun o => !o.required || (g.value? o.long).isSome)
      && (u.operand.isNone || !g.operands.isEmpty) then .given g
  else .refused

/-- Reads words of which none is an option any more. -/
def readOperands (u : Usage) (g : Given) : List String → Reading
  | [] => u.finish g
  | word :: words =>
    match onOperand u g word with
    | .told g => readOperands u g words
    | _ => .refused

/-- Reads the words of a command line from left to right, up to the first one that settles its
meaning. An option may wait for its value. -/
def readFrom (u : Usage) : Progress → List String → Reading
  | .done r, _ => r
  | .told g, [] => u.finish g
  | .awaits _ _, [] => .refused
  | .awaits g o, word :: words =>
    if looksLikeOption word then .refused
    else readFrom u (afterStore (store g o word)) words
  | .told g, word :: words =>
    if word = "--" then readOperands u g words else readFrom u (onWord u g word) words

/-- The meaning of the words of a command line. -/
def read (u : Usage) (words : List String) : Reading :=
  readFrom u (.told .nothing) words

/-- Lines as they are printed. -/
def printedLines (lines : List String) : String :=
  String.join (lines.map fun line => line ++ "\n")

/-- What a program prints about itself when its command line asks for it. -/
def printed (u : Usage) : Reading → String
  | .help => printedLines u.help
  | .version => printedLines [u.version]
  | .refused | .given _ => ""

end Usage

end TrialFarm
