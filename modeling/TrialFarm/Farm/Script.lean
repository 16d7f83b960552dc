import TrialFarm.Text.Blank

/-!
# Scripts

A server or worker may be started by a script, which passes its arguments on to another program.
Of the language of such scripts only simple commands are understood: words, quotes, remarks and the
parameters that stand for arguments.

## Main definitions

* `Piece`, `Word`: a word of a command and its parts.
* `Script.commands`: the commands of a script.
* `Script.run`: the commands with the arguments put in, as far as they are reached.
* `Script.printed`: what a command prints.
* `Script.interpreter?`: the program that shall read the script.
-/

namespace TrialFarm.Script

/-- A part of a word. -/
inductive Piece where
  | text (s : String)
  /-- A parameter by its name. Between quotes its value is not divided at blanks. -/
  | parameter (name : String) (quoted : Bool)
  deriving DecidableEq, Repr

/-- A word of a command. -/
abbrev Word := List Piece

/-- What a script is made of. -/
inductive Token where
  | piece (p : Piece)
  /-- Ends a word. -/
  | gap
  /-- Ends a command. -/
  | stop
  deriving DecidableEq, Repr

/-- Reads the name of a parameter from behind its dollar sign on. -/
def parameterName : List Char → Option (String × List Char)
  | [] => none
  | '{' :: cs =>
    match cs.span (· != '}') with
    | (name, _ :: rest) => some (String.ofList name, rest)
    | (_, []) => none
  | c :: cs =>
    if c.isDigit || c = '@' || c = '*' || c = '#' then some (c.toString, cs)
    else if c.isAlpha || c = '_' then
      let (name, rest) := (c :: cs).span fun d => d.isAlphanum || d = '_'
      some (String.ofList name, rest)
    else none

/-- The tokens of a script. `quoted` says whether they stand between double quotes, and `fresh`
whether a new word would start here. -/
def tokens : Nat → Bool → Bool → List Char → List Token
  | 0, _, _, _ => []
  | _ + 1, _, _, [] => []
  | fuel + 1, quoted, fresh, c :: cs =>
    let text (s : String) (rest : List Char) : List Token :=
      .piece (.text s) :: tokens fuel quoted false rest
    if c = '$' then
      match parameterName cs with
      | some (name, rest) => .piece (.parameter name quoted) :: tokens fuel quoted false rest
      | none => text "$" cs
    else if c = '"' then
      if quoted then tokens fuel false false cs
      else if cs.head? = some '"' then .piece (.text "") :: tokens fuel true false cs
      else tokens fuel true false cs
    else if c = '\\' then
      match cs with
      | [] => text "\\" []
      | d :: rest =>
        if d = '\n' then tokens fuel quoted fresh rest
        else if quoted && d != '$' && d != '"' && d != '\\' && d != '\x60' then text "\\" cs
        else text d.toString rest
    else if quoted then text c.toString cs
    else if c = '\'' then
      text (String.ofList (cs.takeWhile (· != '\''))) ((cs.dropWhile (· != '\'')).drop 1)
    else if c = '#' && fresh then tokens fuel false true (cs.dropWhile (· != '\n'))
    else if c = '>' && cs.head? = some '&' then text ">&" (cs.drop 1)
    else if c = '\n' || c = ';' || c = '&' then .stop :: tokens fuel false true cs
    else if c = ' ' || c = '\t' then .gap :: tokens fuel false true cs
    else text c.toString cs

/-- The commands of tokens: the one that is being read, in words, and all after it. -/
def gather : List Token → List Word × List (List Word)
  | [] => ([[]], [])
  | .stop :: ts =>
    let (command, rest) := gather ts
    ([[]], command :: rest)
  | .gap :: ts =>
    let (command, rest) := gather ts
    ([] :: command, rest)
  | .piece p :: ts =>
    match gather ts with
    | (word :: words, rest) => ((p :: word) :: words, rest)
    | ([], rest) => ([[p]], rest)

/-- The commands of a script. -/
def commands (source : String) : List (List Word) :=
  let cs := source.toList
  let (first, rest) := gather (tokens (cs.length + 1) false true cs)
  ((first :: rest).map fun command => command.filter fun word => !word.isEmpty).filter
    fun command => !command.isEmpty

/-- What a script is started with. -/
structure Call where
  /-- The path of the script. -/
  path : String
  arguments : List String
  deriving DecidableEq, Repr

/-- The value of a parameter. The directory of the farm's programs keeps its name. -/
def Call.value (c : Call) (name : String) : String :=
  if name = "#" then toString c.arguments.length
  else if name = "@" || name = "*" then " ".intercalate c.arguments
  else if name = "BIN" then "$BIN"
  else
    match name.toNat? with
    | some 0 => c.path
    | some n => c.arguments[n - 1]?.getD ""
    | none => ""

/-- Fields that a word has become: those that are whole, the last one first, and the one that may
still grow. -/
structure Fields where
  whole : List String
  growing : Option String

namespace Fields

/-- Adds to the field that may grow. -/
def add (f : Fields) (s : String) : Fields := { f with growing := some (f.growing.getD "" ++ s) }

/-- Ends the field that may grow. -/
def cut (f : Fields) : Fields := ⟨f.growing.toList ++ f.whole, none⟩

/-- Adds texts that are fields of their own but for the ends of the first and the last one. -/
def addEach (f : Fields) : List String → Fields
  | [] => f
  | [s] => f.add s
  | s :: rest => (f.add s).cut.addEach rest

/-- Adds a text that is divided at its blanks. -/
def addDivided (f : Fields) (s : String) : Fields :=
  s.toList.foldl (fun f c => if Text.isBlank c then f.cut else f.add c.toString) f

/-- The fields. -/
def toList (f : Fields) : List String := f.cut.whole.reverse

end Fields

/-- The fields of a word. -/
def expandWord (c : Call) (w : Word) : List String :=
  let add (f : Fields) : Piece → Fields
    | .text s => f.add s
    | .parameter "@" true => f.addEach c.arguments
    | .parameter name true => f.add (c.value name)
    | .parameter name false => f.addDivided (c.value name)
  (w.foldl add ⟨[], none⟩).toList

/-- The commands that are reached, with the arguments put in: none after the one that takes the
place of the script or ends it. -/
def reached (c : Call) : List (List Word) → List (List String)
  | [] => []
  | command :: rest =>
    match command.flatMap (expandWord c) with
    | [] | ["exec"] => reached c rest
    | "exec" :: "echo" :: words => ["/bin/echo" :: words]
    | "exec" :: command => [command]
    | "exit" :: _ => []
    | "shift" :: count =>
      let n := (count.head?.bind String.toNat?).getD 1
      reached { c with arguments := c.arguments.drop n } rest
    | command => command :: reached c rest

/-- The commands with the arguments put in, as far as they are reached. -/
def run (source : String) (c : Call) : List (List String) :=
  reached c (commands source)

/-- Reads up to `n` octal digits. -/
def octal : Nat → Nat → List Char → Nat × List Char
  | n + 1, read, c :: cs =>
    if '0' ≤ c ∧ c ≤ '7' then octal n (8 * read + (c.toNat - '0'.toNat)) cs else (read, c :: cs)
  | _, read, cs => (read, cs)

/-- The character that a letter behind a backslash stands for. -/
def letter? (c : Char) : Option Char :=
  [('a', '\x07'), ('b', '\x08'), ('f', '\x0c'), ('n', '\n'), ('r', '\r'), ('t', '\t'),
    ('v', '\x0b'), ('\\', '\\')].lookup c

/-- A text with its backslashes replaced. Behind one, `c` ends the text. -/
def unescape : Nat → List Char → List Char
  | fuel + 1, '\\' :: c :: cs =>
    if c = 'c' then []
    else if c = '0' then
      let (n, rest) := octal 3 0 cs
      Char.ofNat (n % 256) :: unescape fuel rest
    else
      match letter? c with
      | some d => d :: unescape fuel cs
      | none => '\\' :: c :: unescape fuel cs
  | fuel + 1, c :: cs => c :: unescape fuel cs
  | _, cs => cs

/-- What the printing command of scripts prints. -/
def echoed (words : List String) : String :=
  let (words, ending) := match words with
    | "-n" :: words => (words, "")
    | words => (words, "\n")
  let cs := (" ".intercalate words ++ ending).toList
  String.ofList (unescape cs.length cs)

/-- Fills a pattern once. The answer holds the text and the arguments that are left. -/
def filled : Nat → List Char → List String → List Char × List String
  | fuel + 1, '%' :: c :: cs, arguments =>
    if c = '%' then
      let (text, left) := filled fuel cs arguments
      ('%' :: text, left)
    else
      let value := arguments.headD (if c = 's' || c = 'b' then "" else "0")
      let (text, left) := filled fuel cs (arguments.drop 1)
      (value.toList ++ text, left)
  | fuel + 1, '\\' :: c :: cs, arguments =>
    match letter? c with
    | some d =>
      let (text, left) := filled fuel cs arguments
      (d :: text, left)
    | none =>
      if '0' ≤ c ∧ c ≤ '7' then
        let (n, rest) := octal 3 0 (c :: cs)
        let (text, left) := filled fuel rest arguments
        (Char.ofNat (n % 256) :: text, left)
      else
        let (text, left) := filled fuel cs arguments
        ('\\' :: c :: text, left)
  | fuel + 1, c :: cs, arguments =>
    let (text, left) := filled fuel cs arguments
    (c :: text, left)
  | _, _, arguments => ([], arguments)

/-- Fills a pattern until it has used up all arguments, but at least once. -/
def formatted (pattern : List Char) : Nat → List String → List Char
  | 0, _ => []
  | fuel + 1, arguments =>
    let (text, left) := filled pattern.length pattern arguments
    if left.isEmpty || left.length = arguments.length then text
    else text ++ formatted pattern fuel left

/-- What a command prints. What goes elsewhere is not counted. -/
def printed : List String → String
  | [] => ""
  | name :: words =>
    if words.any fun w => w.startsWith ">" || w.startsWith "1>" then ""
    else
      let words := words.filter fun w => !w.startsWith "2>"
      if name = "echo" then echoed words
      else if name = "/bin/echo" || name = "/usr/bin/echo" then " ".intercalate words ++ "\n"
      else if name = "printf" then
        String.ofList (formatted (words.headD "").toList (words.length + 1) (words.drop 1))
      else ""

/-- The programs that read scripts. -/
def interpreters : List String := ["sh", "bash", "dash"]

/-- The program that a script names in its first line, if it names one, and what follows it
there. -/
def interpreter? (source : String) : Option (String × Option String) :=
  let isGap (c : Char) : Bool := c = ' ' || c = '\t'
  match source.toList with
  | '#' :: '!' :: cs =>
    let line := (cs.takeWhile (· != '\n')).dropWhile isGap
    let line := (line.reverse.dropWhile isGap).reverse
    let (name, rest) := line.span fun c => !isGap c
    let argument := rest.dropWhile isGap
    if name.isEmpty then none
    else some (String.ofList name,
      if argument.isEmpty then none else some (String.ofList argument))
  | _ => none

end TrialFarm.Script
