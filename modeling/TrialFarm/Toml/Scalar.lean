/-!
# Scalars of TOML

Texts, numbers, truth values and moments, read from the front of a sequence of characters. A reader
answers with what it read and what follows, or with nothing.

## Main definitions

* `Toml.Scalar`: a scalar value.
* `Toml.basicString`, `Toml.literalString`: texts on one line.
* `Toml.readText`: a text in any of its four notations.
* `Toml.readNumber`: integers of 64 bits, floating-point numbers and moments.
-/

namespace TrialFarm.Toml

/-- What a reader found, and the characters after it. -/
abbrev Found (α : Type) := Option (α × List Char)

/-- A value without parts. -/
inductive Scalar where
  | text (s : String)
  | integer (n : Int)
  | float (x : Float)
  | boolean (b : Bool)
  /-- A date, a time or both. Only its form matters. -/
  | moment
  deriving Repr, Inhabited

/-- Drops spaces and tabs. -/
def skipBlanks (cs : List Char) : List Char :=
  cs.dropWhile (fun c => c = ' ' || c = '\t')

/-- Reads one line feed, alone or after a carriage return. -/
def newline : List Char → Option (List Char)
  | '\n' :: cs => some cs
  | '\r' :: '\n' :: cs => some cs
  | _ => none

/-- A character that may stand in a comment or a text: a tab or no control character. -/
def isPlain (c : Char) : Bool :=
  c = '\t' || (0x20 ≤ c.toNat && c.toNat ≠ 0x7F)

/-- Drops a comment, if one starts here. -/
def skipComment : List Char → List Char
  | '#' :: cs => cs.dropWhile isPlain
  | cs => cs

/-- The value of a hexadecimal digit. -/
def hexValue? (c : Char) : Option Nat :=
  if c.isDigit then some (c.toNat - '0'.toNat)
  else if 'a' ≤ c ∧ c ≤ 'f' then some (c.toNat - 'a'.toNat + 10)
  else if 'A' ≤ c ∧ c ≤ 'F' then some (c.toNat - 'A'.toNat + 10)
  else none

/-- Reads exactly `n` hexadecimal digits onto `read`. -/
def hexDigits : Nat → Nat → List Char → Found Nat
  | 0, read, cs => some (read, cs)
  | _ + 1, _, [] => none
  | n + 1, read, c :: cs =>
    match hexValue? c with
    | none => none
    | some d => hexDigits n (read * 16 + d) cs

/-- The character with a number, if there is one. -/
def scalarValue? (n : Nat) : Option Char :=
  if n < 0xD800 ∨ (0xDFFF < n ∧ n < 0x110000) then some (Char.ofNat n) else none

/-- Reads what follows a backslash. -/
def escaped : List Char → Found Char
  | 'b' :: cs => some ('\x08', cs)
  | 't' :: cs => some ('\t', cs)
  | 'n' :: cs => some ('\n', cs)
  | 'f' :: cs => some ('\x0c', cs)
  | 'r' :: cs => some ('\r', cs)
  | '"' :: cs => some ('"', cs)
  | '\\' :: cs => some ('\\', cs)
  | 'u' :: cs =>
    match hexDigits 4 0 cs with
    | none => none
    | some (n, cs) => (scalarValue? n).map (·, cs)
  | 'U' :: cs =>
    match hexDigits 8 0 cs with
    | none => none
    | some (n, cs) => (scalarValue? n).map (·, cs)
  | _ => none

/-- Reads the rest of a text between double quotes. `read` holds its characters in reverse. -/
def basicRest : Nat → List Char → List Char → Found String
  | 0, _, _ => none
  | _ + 1, _, [] => none
  | fuel + 1, read, c :: cs =>
    if c = '"' then some (String.ofList read.reverse, cs)
    else if c = '\\' then
      match escaped cs with
      | none => none
      | some (c, cs) => basicRest fuel (c :: read) cs
    else if isPlain c then basicRest fuel (c :: read) cs
    else none

/-- Reads a text between double quotes, from its opening quote on. -/
def basicString : List Char → Found String
  | '"' :: cs => basicRest (cs.length + 1) [] cs
  | _ => none

/-- Reads a text between single quotes, from its opening quote on. -/
def literalString : List Char → Found String
  | '\'' :: cs =>
    match cs.dropWhile (fun c => c ≠ '\'' && isPlain c) with
    | '\'' :: rest => some (String.ofList (cs.takeWhile (fun c => c ≠ '\'' && isPlain c)), rest)
    | _ => none
  | _ => none

/-- The number of quotes at the front, at most five. -/
def leadingQuotes (quote : Char) (cs : List Char) : Nat :=
  min 5 (cs.takeWhile (· = quote)).length

/-- Drops blanks and line feeds. -/
def skipSpace : Nat → List Char → List Char
  | 0, cs => cs
  | fuel + 1, cs =>
    let cs := skipBlanks cs
    match newline cs with
    | some rest => skipSpace fuel rest
    | none => cs

/-- Reads the rest of a text between triple quotes. In one between double quotes, backslashes
escape, and a backslash at the end of a line drops the space up to the next character. -/
def longRest (quote : Char) (escapes : Bool) : Nat → List Char → List Char → Found String
  | 0, _, _ => none
  | _ + 1, _, [] => none
  | fuel + 1, read, c :: cs =>
    if c = quote then
      let n := leadingQuotes quote (c :: cs)
      if n < 3 then longRest quote escapes fuel (List.replicate n quote ++ read) ((c :: cs).drop n)
      else
        some (String.ofList (List.replicate (n - 3) quote ++ read).reverse, (c :: cs).drop n)
    else if c = '\\' && escapes then
      match newline (skipBlanks cs) with
      | some rest => longRest quote escapes fuel read (skipSpace rest.length rest)
      | none =>
        match escaped cs with
        | none => none
        | some (c, cs) => longRest quote escapes fuel (c :: read) cs
    else
      match newline (c :: cs) with
      | some rest => longRest quote escapes fuel ('\n' :: read) rest
      | none => if isPlain c then longRest quote escapes fuel (c :: read) cs else none

/-- Reads a text between triple quotes, from behind them on. A line feed at its start is left
out. -/
def longString (quote : Char) (escapes : Bool) (cs : List Char) : Found String :=
  let cs := (newline cs).getD cs
  longRest quote escapes (cs.length + 1) [] cs

/-- Reads a text. -/
def readText : List Char → Found String
  | '"' :: '"' :: '"' :: cs => longString '"' true cs
  | '\'' :: '\'' :: '\'' :: cs => longString '\'' false cs
  | '"' :: cs => basicString ('"' :: cs)
  | '\'' :: cs => literalString ('\'' :: cs)
  | _ => none

/-- Reads digits that `isDigit` accepts. Single underscores may stand between digits. `read` holds
the digits in reverse. -/
def digitsRest (isDigit : Char → Bool) : List Char → List Char → Found (List Char)
  | read, [] => some (read.reverse, [])
  | read, c :: cs =>
    if isDigit c then digitsRest isDigit (c :: read) cs
    else if c = '_' then
      match cs with
      | d :: ds => if isDigit d then digitsRest isDigit (d :: read) ds else none
      | [] => none
    else some (read.reverse, c :: cs)

/-- Reads one or more digits. -/
def digits (isDigit : Char → Bool) : List Char → Found (List Char)
  | [] => none
  | c :: cs => if isDigit c then digitsRest isDigit [c] cs else none

/-- The number with given digits. -/
def ofDigits (base : Nat) (ds : List Char) : Nat :=
  ds.foldl (fun n c => n * base + (hexValue? c).getD 0) 0

/-- An integer that fits into 64 bits. -/
def integer64? (n : Int) : Option Scalar :=
  if Int64.minValue.toInt ≤ n ∧ n ≤ Int64.maxValue.toInt then some (.integer n) else none

/-- Reads an integer in another base, from behind its mark on. -/
def basedInteger (base : Nat) (cs : List Char) : Found Scalar :=
  match digits (fun c => (hexValue? c).any (· < base)) cs with
  | none => none
  | some (ds, cs) => (integer64? (ofDigits base ds)).map (·, cs)

/-- The number with digits `ds`, times `10 ^ exponent`, rounded to nearest. Far outside of the range
of floating-point numbers the order of magnitude decides. -/
def decimalFloat (ds : List Char) (exponent : Int) : Float :=
  let significant := ds.dropWhile (· = '0')
  let magnitude : Int := exponent + significant.length
  if significant.isEmpty then 0.0
  else if magnitude > 400 then 1.0 / 0.0
  else if magnitude < -400 then 0.0
  else Float.ofScientific (ofDigits 10 significant) (exponent < 0) exponent.natAbs

/-- The exponent with given digits. It stops growing when it has passed 65535, far beyond the range
of floating-point numbers. -/
def boundedExponent (ds : List Char) : Nat :=
  ds.foldl (fun n c => if n < 65536 then n * 10 + (hexValue? c).getD 0 else n) 0

/-- Reads the sign of an exponent and its digits. -/
def exponent : List Char → Found Int
  | '+' :: cs => (digits Char.isDigit cs).map fun (ds, cs) => ((boundedExponent ds : Int), cs)
  | '-' :: cs => (digits Char.isDigit cs).map fun (ds, cs) => (-(boundedExponent ds : Int), cs)
  | cs => (digits Char.isDigit cs).map fun (ds, cs) => ((boundedExponent ds : Int), cs)

/-- A number with a fraction or an exponent. One that is too large has no value. -/
def floatOf (negative : Bool) (whole fraction : List Char) (exponent : Int) : Option Scalar :=
  let x := decimalFloat (whole ++ fraction) (exponent - fraction.length)
  if negative then some (.float (-x)) else if x == 1.0 / 0.0 then none else some (.float x)

/-- Reads what follows the whole part of a decimal number. -/
def afterWhole (negative : Bool) (whole : List Char) (cs : List Char) : Found Scalar :=
  if whole.length > 1 && whole.head? == some '0' then none
  else
    match cs with
    | '.' :: cs =>
      match digits Char.isDigit cs with
      | none => none
      | some (fraction, 'e' :: cs) | some (fraction, 'E' :: cs) =>
        match exponent cs with
        | none => none
        | some (e, cs) => (floatOf negative whole fraction e).map (·, cs)
      | some (fraction, cs) => (floatOf negative whole fraction 0).map (·, cs)
    | 'e' :: cs | 'E' :: cs =>
      match exponent cs with
      | none => none
      | some (e, cs) => (floatOf negative whole [] e).map (·, cs)
    | cs =>
      let n : Int := ofDigits 10 whole
      (integer64? (if negative then -n else n)).map (·, cs)

/-- Reads a number from behind its sign on. -/
def unsignedNumber (negative : Bool) : List Char → Found Scalar
  | 'i' :: 'n' :: 'f' :: cs => some (.float (if negative then -1.0 / 0.0 else 1.0 / 0.0), cs)
  | 'n' :: 'a' :: 'n' :: cs => some (.float (0.0 / 0.0), cs)
  | cs =>
    match digits Char.isDigit cs with
    | none => none
    | some (whole, cs) => afterWhole negative whole cs

/-- Reads exactly `n` decimal digits as a number from `low` to `high`. -/
def field (n low high : Nat) (cs : List Char) : Option (List Char) :=
  let ds := cs.take n
  if ds.length = n && ds.all Char.isDigit && low ≤ ofDigits 10 ds && ofDigits 10 ds ≤ high then
    some (cs.drop n)
  else none

/-- Reads one given character. -/
def mark (m : Char) : List Char → Option (List Char)
  | c :: cs => if c = m then some cs else none
  | [] => none

/-- Reads a time of day. -/
def timeOfDay (cs : List Char) : Option (List Char) := do
  let cs ← field 2 0 23 cs
  let cs ← mark ':' cs
  let cs ← field 2 0 59 cs
  let cs ← mark ':' cs
  let cs ← field 2 0 60 cs
  match cs with
  | '.' :: c :: rest => if c.isDigit then some (rest.dropWhile Char.isDigit) else none
  | cs => some cs

/-- Reads a distance from universal time, if there is one. -/
def zone : List Char → Option (List Char)
  | 'Z' :: cs | 'z' :: cs => some cs
  | '+' :: cs | '-' :: cs => do
    let cs ← field 2 0 23 cs
    let cs ← mark ':' cs
    field 2 0 59 cs
  | cs => some cs

/-- The number of days of a month. -/
def daysIn (year month : Nat) : Nat :=
  if month = 2 then
    if year % 4 = 0 && (year % 100 ≠ 0 || year % 400 = 0) then 29 else 28
  else if month = 4 || month = 6 || month = 9 || month = 11 then 30
  else 31

/-- Reads a date. -/
def date (cs : List Char) : Option (List Char) := do
  let afterYear ← field 4 0 9999 cs
  let monthAt ← mark '-' afterYear
  let afterMonth ← field 2 1 12 monthAt
  let dayAt ← mark '-' afterMonth
  field 2 1 (daysIn (ofDigits 10 (cs.take 4)) (ofDigits 10 (monthAt.take 2))) dayAt

/-- Reads a date, a time or both. -/
def moment (cs : List Char) : Option (List Char) :=
  match date cs with
  | some ('T' :: rest) | some ('t' :: rest) => (timeOfDay rest).bind zone
  | some (' ' :: rest) =>
    match timeOfDay rest with
    | some rest => zone rest
    | none => some (' ' :: rest)
  | some rest => some rest
  | none => timeOfDay cs

/-- Whether a date or a time of day starts here, by its fifth or third character. -/
def looksLikeMoment (cs : List Char) : Bool :=
  ((cs.take 4).all Char.isDigit && (cs.drop 4).head? == some '-')
    || ((cs.take 2).all Char.isDigit && (cs.drop 2).head? == some ':')

/-- Reads an integer, a floating-point number or a moment. -/
def readNumber : List Char → Found Scalar
  | '0' :: 'x' :: cs => basedInteger 16 cs
  | '0' :: 'o' :: cs => basedInteger 8 cs
  | '0' :: 'b' :: cs => basedInteger 2 cs
  | '+' :: cs => unsignedNumber false cs
  | '-' :: cs => unsignedNumber true cs
  | cs => if looksLikeMoment cs then (moment cs).map (.moment, ·) else unsignedNumber false cs

/-- Reads a scalar. -/
def readScalar : List Char → Found Scalar
  | 't' :: 'r' :: 'u' :: 'e' :: cs => some (.boolean true, cs)
  | 'f' :: 'a' :: 'l' :: 's' :: 'e' :: cs => some (.boolean false, cs)
  | '"' :: cs => (readText ('"' :: cs)).map fun (s, cs) => (.text s, cs)
  | '\'' :: cs => (readText ('\'' :: cs)).map fun (s, cs) => (.text s, cs)
  | cs => readNumber cs

end TrialFarm.Toml
