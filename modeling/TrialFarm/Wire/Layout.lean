import TrialFarm.Number.Shortest
import TrialFarm.Text.Utf8

/-!
# Layouts of values on the wire

Every value that travels has a fixed layout: integers and floating-point numbers take their width
in little-endian bytes, a truth value takes one byte, and texts and lists follow a count of eight
bytes. There is exactly one sequence of bytes for each value.

## Main definitions

* `Malformed`: why bytes are not the layout of a value.
* `Layout`: a type whose values can be written to and read from the front of bytes.
* `Layout.readAll`: reading a value that takes up all the bytes.
-/

namespace TrialFarm.Wire

/-- Bytes in the order in which they travel. -/
abbrev Bytes := List UInt8

/-- Why bytes cannot be read as a value. -/
inductive Malformed where
  /-- The bytes end within a number, a truth value or a count. -/
  | truncated
  /-- A text is shorter than its count says. -/
  | shortText
  /-- A truth value is neither 0 nor 1. -/
  | notBool (byte : UInt8)
  /-- A text is not UTF-8. -/
  | notText (fault : Utf8.Fault)
  /-- Bytes are left over after the value. -/
  | leftover
  deriving DecidableEq, Repr

/-- The text shown for malformed bytes. -/
def Malformed.message : Malformed → String
  | truncated => "io error: unexpected end of file"
  | shortText => "io error: "
  | notBool byte => "invalid u8 while decoding bool, expected 0 or 1, found " ++ toString byte.toNat
  | notText fault => "string is not valid utf8: " ++ fault.message
  | leftover => "Slice had bytes remaining after deserialization"

/-- The `width` low bytes of a number, the lowest first. -/
def littleEndian : Nat → Nat → Bytes
  | 0, _ => []
  | width + 1, n => UInt8.ofNat n :: littleEndian width (n / 256)

/-- The number whose bytes are given, the lowest first. -/
def ofLittleEndian : Bytes → Nat
  | [] => 0
  | b :: bs => b.toNat + 256 * ofLittleEndian bs

/-- Splits off exactly `n` bytes, if there are as many. -/
def splitExactly : Nat → Bytes → Option (Bytes × Bytes)
  | 0, bs => some ([], bs)
  | _ + 1, [] => none
  | n + 1, b :: bs =>
    match splitExactly n bs with
    | none => none
    | some (front, rest) => some (b :: front, rest)

/-- Reads a number of `width` bytes. -/
def readNumber (width : Nat) (bs : Bytes) : Except Malformed (Nat × Bytes) :=
  match splitExactly width bs with
  | none => .error .truncated
  | some (front, rest) => .ok (ofLittleEndian front, rest)

/-- A type with a layout on the wire. -/
class Layout (α : Type) where
  /-- The bytes of a value. -/
  write : α → Bytes
  /-- Reads a value from the front of the bytes and returns what follows it. -/
  read : Bytes → Except Malformed (α × Bytes)

export Layout (write read)

/-- Reads a value of `α` and turns it into one of `β`. -/
def readAs {α β : Type} [Layout α] (f : α → β) (bs : Bytes) : Except Malformed (β × Bytes) :=
  match read (α := α) bs with
  | .error e => .error e
  | .ok (a, rest) => .ok (f a, rest)

instance : Layout UInt8 where
  write x := [x]
  read
    | [] => .error .truncated
    | b :: bs => .ok (b, bs)

instance : Layout UInt32 where
  write x := littleEndian 4 x.toNat
  read bs :=
    match readNumber 4 bs with
    | .error e => .error e
    | .ok (n, rest) => .ok (UInt32.ofNat n, rest)

instance : Layout UInt64 where
  write x := littleEndian 8 x.toNat
  read bs :=
    match readNumber 8 bs with
    | .error e => .error e
    | .ok (n, rest) => .ok (UInt64.ofNat n, rest)

/-- A signed integer has the layout of the word with the same bits. -/
instance : Layout Int32 where
  write x := write x.toUInt32
  read := readAs UInt32.toInt32

/-- A signed integer has the layout of the word with the same bits. -/
instance : Layout Int64 where
  write x := write x.toUInt64
  read := readAs UInt64.toInt64

/-- A floating-point number has the layout of its bits. -/
instance : Layout Binary64 where
  write x := write x.bits
  read := readAs Binary64.mk

instance : Layout Bool where
  write x := [if x then 1 else 0]
  read
    | [] => .error .truncated
    | b :: bs =>
      if b = 0 then .ok (false, bs)
      else if b = 1 then .ok (true, bs)
      else .error (.notBool b)

/-- The bytes of a count. -/
def writeCount (n : Nat) : Bytes :=
  littleEndian 8 n

/-- A text follows the number of its bytes. -/
instance : Layout String where
  write s := writeCount (Utf8.encode s).length ++ Utf8.encode s
  read bs :=
    match readNumber 8 bs with
    | .error e => .error e
    | .ok (count, rest) =>
      match splitExactly count rest with
      | none => .error .shortText
      | some (front, rest) =>
        match Utf8.decode front with
        | .error fault => .error (.notText fault)
        | .ok s => .ok (s, rest)

/-- Reads `n` values one after the other. -/
def readMany {α : Type} [Layout α] : Nat → Bytes → Except Malformed (List α × Bytes)
  | 0, bs => .ok ([], bs)
  | n + 1, bs =>
    match read (α := α) bs with
    | .error e => .error e
    | .ok (a, rest) =>
      match readMany n rest with
      | .error e => .error e
      | .ok (as, rest) => .ok (a :: as, rest)

/-- The values of a list follow their count. -/
instance {α : Type} [Layout α] : Layout (List α) where
  write as := writeCount as.length ++ as.flatMap write
  read bs :=
    match readNumber 8 bs with
    | .error e => .error e
    | .ok (count, rest) => readMany count rest

/-- The second value of a pair follows the first. -/
instance {α β : Type} [Layout α] [Layout β] : Layout (α × β) where
  write p := write p.1 ++ write p.2
  read bs :=
    match read (α := α) bs with
    | .error e => .error e
    | .ok (a, rest) =>
      match read (α := β) rest with
      | .error e => .error e
      | .ok (b, rest) => .ok ((a, b), rest)

/-- Reads a value that takes up all the bytes. -/
def readAll {α : Type} [Layout α] (bs : Bytes) : Except Malformed α :=
  match read (α := α) bs with
  | .error e => .error e
  | .ok (a, []) => .ok a
  | .ok (_, _ :: _) => .error .leftover

end TrialFarm.Wire
