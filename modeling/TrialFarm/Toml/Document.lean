import TrialFarm.Toml.Scalar

/-!
# Documents of TOML

A document is a tree of tables. Its lines are key-value pairs, which belong to the table opened
last, and headers, which open tables. A table is opened once; a table that only appeared in the
path of a header may still be opened later, while one made by a dotted key may not.

## Main definitions

* `Toml.Value`: scalars, arrays and tables.
* `Toml.Item`: what a key stands for while a document is read.
* `Toml.parse`: the table of a whole document.
-/

namespace TrialFarm.Toml

/-- A value of a document. -/
inductive Value where
  | scalar (s : Scalar)
  | array (elements : List Value)
  | table (entries : List (String × Value))
  deriving Inhabited

/-- What a key stands for while a document is read. -/
inductive Item where
  /-- A value, which can no longer grow. -/
  | value (v : Value)
  /-- A table. It is `implicit` as long as it only appeared in paths, and `dotted` if it appeared
  in the path of a key. -/
  | table (implicit dotted : Bool) (entries : List (String × Item))
  /-- An array of tables, the last of which is growing. -/
  | tables (earlier : List (List (String × Item))) (last : List (String × Item))

/-- The entries of a table that is growing. -/
abbrev Entries := List (String × Item)

/-- Replaces or adds an entry. -/
def setEntry (key : String) (item : Item) : Entries → Entries
  | [] => [(key, item)]
  | (other, held) :: rest =>
    if other = key then (key, item) :: rest else (other, held) :: setEntry key item rest

/-- Changes the table that a path leads to. Tables that are missing on the way are made. -/
def within (dotted : Bool) (change : Entries → Option Entries) :
    List String → Entries → Option Entries
  | [], entries => change entries
  | key :: path, entries =>
    match entries.lookup key with
    | none =>
      (within dotted change path []).map fun inner =>
        setEntry key (.table true dotted inner) entries
    | some (.value _) => none
    | some (.table implicit wasDotted inner) =>
      if dotted && !implicit then none
      else
        (within dotted change path inner).map fun inner =>
          setEntry key (.table implicit wasDotted inner) entries
    | some (.tables earlier last) =>
      (within dotted change path last).map fun last => setEntry key (.tables earlier last) entries

/-- Opens a table by the last key of its header. -/
def openTable (key : String) (entries : Entries) : Option Entries :=
  match entries.lookup key with
  | none => some (setEntry key (.table false false []) entries)
  | some (.table true false inner) => some (setEntry key (.table false false inner) entries)
  | some _ => none

/-- Adds a table to an array of tables by the last key of its header. -/
def openElement (key : String) (entries : Entries) : Option Entries :=
  match entries.lookup key with
  | none => some (setEntry key (.tables [] []) entries)
  | some (.tables earlier last) => some (setEntry key (.tables (earlier ++ [last]) []) entries)
  | some _ => none

/-- Adds a key that must be new. -/
def addNew (key : String) (v : Value) (entries : Entries) : Option Entries :=
  match entries.lookup key with
  | none => some (setEntry key (.value v) entries)
  | some _ => none

/-- Whether a path ends in a table made by dotted keys, or in nothing. Tables on the way may come
from headers, and an array of tables stands for its last table. -/
def endsDotted : List String → Entries → Bool
  | [], _ => true
  | key :: path, entries =>
    match entries.lookup key with
    | none => true
    | some (.table _ dotted inner) => (dotted || !path.isEmpty) && endsDotted path inner
    | some (.tables _ last) => !path.isEmpty && endsDotted path last
    | some (.value _) => true

/-- Adds a value under a dotted key. -/
def addDotted (path : List String) (key : String) (v : Value) (entries : Entries) :
    Option Entries :=
  if endsDotted path entries then within true (addNew key v) path entries else none

mutual

/-- The value of an item. -/
def Item.toValue : Item → Value
  | .value v => v
  | .table _ _ entries => .table (entriesToValues entries)
  | .tables earlier last =>
    .array (elementsToValues earlier ++ [.table (entriesToValues last)])

/-- The values of entries. -/
def entriesToValues : List (String × Item) → List (String × Value)
  | [] => []
  | (key, item) :: rest => (key, item.toValue) :: entriesToValues rest

/-- The values of the tables of an array. -/
def elementsToValues : List (List (String × Item)) → List Value
  | [] => []
  | entries :: rest => .table (entriesToValues entries) :: elementsToValues rest

end

/-- The characters of keys that need no quotes. -/
def isBareKeyChar (c : Char) : Bool :=
  c.isAlphanum || c = '_' || c = '-'

/-- Reads one part of a key. -/
def simpleKey : List Char → Found String
  | '"' :: cs => basicString ('"' :: cs)
  | '\'' :: cs => literalString ('\'' :: cs)
  | cs =>
    let key := cs.takeWhile isBareKeyChar
    if key.isEmpty then none else some (String.ofList key, cs.dropWhile isBareKeyChar)

/-- Arrays and tables may stand in each other, and a key may have parts, up to one less than this
number. -/
def depthBound : Nat := 80

/-- Reads parts of a key with dots between them. -/
def keyParts : Nat → List Char → Found (List String)
  | 0, _ => none
  | fuel + 1, cs =>
    match simpleKey (skipBlanks cs) with
    | none => none
    | some (part, cs) =>
      match skipBlanks cs with
      | '.' :: cs => (keyParts fuel cs).map fun (parts, cs) => (part :: parts, cs)
      | cs => some ([part], cs)

/-- Reads a key. -/
def keyPath (cs : List Char) : Found (List String) :=
  match keyParts cs.length cs with
  | none => none
  | some (path, cs) => if path.length < depthBound then some (path, cs) else none

/-- Drops blanks, line feeds and comments. -/
def skipFiller : Nat → List Char → List Char
  | 0, cs => cs
  | fuel + 1, cs =>
    let cs := skipComment (skipBlanks cs)
    match newline cs with
    | some rest => skipFiller fuel rest
    | none => cs

mutual

/-- Reads a value with at most `room` arrays and tables in each other. The fuel bounds its depth
and its length. -/
def readValue : Nat → Nat → List Char → Found Value
  | 0, _, _ => none
  | fuel + 1, room, '[' :: cs => if room = 0 then none else readElements fuel (room - 1) [] cs
  | fuel + 1, room, '{' :: cs =>
    if room = 0 then none
    else
      match skipBlanks cs with
      | '}' :: cs => some (.table [], cs)
      | cs => readPairs fuel (room - 1) [] cs
  | _ + 1, _, cs => (readScalar cs).map fun (s, cs) => (.scalar s, cs)

/-- Reads the rest of an array. -/
def readElements : Nat → Nat → List Value → List Char → Found Value
  | 0, _, _, _ => none
  | fuel + 1, room, read, cs =>
    match skipFiller cs.length cs with
    | ']' :: cs => some (.array read.reverse, cs)
    | cs =>
      match readValue fuel room cs with
      | none => none
      | some (v, cs) =>
        match skipFiller cs.length cs with
        | ',' :: cs => readElements fuel room (v :: read) cs
        | ']' :: cs => some (.array (v :: read).reverse, cs)
        | _ => none

/-- Reads the rest of a table between braces. -/
def readPairs : Nat → Nat → Entries → List Char → Found Value
  | 0, _, _, _ => none
  | fuel + 1, room, entries, cs =>
    match keyPath cs with
    | none => none
    | some (path, cs) =>
      match cs with
      | '=' :: cs =>
        match readValue fuel room (skipBlanks cs) with
        | none => none
        | some (v, cs) =>
          match addDotted path.dropLast (path.getLastD "") v entries with
          | none => none
          | some entries =>
            match skipBlanks cs with
            | ',' :: cs => readPairs fuel room entries cs
            | '}' :: cs => some (.table (entriesToValues entries), cs)
            | _ => none
      | _ => none

end

/-- Reads the end of a line: blanks, a comment, and a line feed or the end of the document. -/
def endOfLine (cs : List Char) : Option (List Char) :=
  match skipComment (skipBlanks cs) with
  | [] => some []
  | cs => newline cs

/-- A document that is being read. -/
structure Draft where
  root : Entries
  /-- The path of the table opened last. -/
  opened : List String

/-- Reads the header of a table, from behind its first bracket on. -/
def readHeader (d : Draft) (cs : List Char) : Option (Draft × List Char) :=
  match keyPath cs with
  | some (path, ']' :: cs) =>
    match within false (openTable (path.getLastD "")) path.dropLast d.root with
    | none => none
    | some root => (endOfLine cs).map (⟨root, path⟩, ·)
  | _ => none

/-- Reads the header of an element of an array of tables, from behind its two brackets on. -/
def readElementHeader (d : Draft) (cs : List Char) : Option (Draft × List Char) :=
  match keyPath cs with
  | some (path, ']' :: ']' :: cs) =>
    match within false (openElement (path.getLastD "")) path.dropLast d.root with
    | none => none
    | some root => (endOfLine cs).map (⟨root, path⟩, ·)
  | _ => none

/-- Reads a key-value pair. -/
def readPair (d : Draft) (cs : List Char) : Option (Draft × List Char) :=
  match keyPath cs with
  | some (path, '=' :: cs) =>
    match readValue (2 * cs.length + 2) (depthBound - 1) (skipBlanks cs) with
    | none => none
    | some (v, cs) =>
      match within false (addDotted path.dropLast (path.getLastD "") v) d.opened d.root with
      | none => none
      | some root => (endOfLine cs).map (⟨root, d.opened⟩, ·)
  | _ => none

/-- Reads a line that is no filler. -/
def readLine (d : Draft) (cs : List Char) : Option (Draft × List Char) :=
  match cs with
  | '[' :: '[' :: rest => readElementHeader d rest
  | '[' :: rest => readHeader d rest
  | cs => readPair d cs

/-- Reads all lines. -/
def readLines : Nat → Draft → List Char → Option Draft
  | 0, _, _ => none
  | fuel + 1, d, cs =>
    match skipFiller cs.length cs with
    | [] => some d
    | cs =>
      match readLine d cs with
      | none => none
      | some (d, cs) => readLines fuel d cs

/-- The table of a document, if the text is one. -/
def parse (text : String) : Option (List (String × Value)) :=
  let cs :=
    match text.toList with
    | '\uFEFF' :: cs => cs
    | cs => cs
  (readLines (cs.length + 1) ⟨[], []⟩ cs).map fun d => entriesToValues d.root

end TrialFarm.Toml
